import PageScript.Proofs.Capture.Books

/-!
# Every captured request, once and in order

A request is complete when its response and its end have both been handled and a rule was meant for
the response when that was handled. `Tally` says what the observer has captured then: one capture
for each complete request and nothing else, in the order of the moments at which requests became
complete. It makes no difference which of the two events of a request came first, nor what came
between them.

The tally is what one moment preserves (`Tally.attend`), and so what any moments preserve
(`Tally.attendAll`). A moment completes one request at most, and completing it puts one capture at
the end and asks for one body at most.

**What it does not establish.** Nothing is said of requests that have two responses or two ends: a
later one finds the tables of the earlier.
-/

namespace PageScript.Chrome

open Router

/-- A request that was captured. -/
structure Completion where
  id : String
  response : ResponseMeta
  rule : CaptureRule
  ending : LoadingEnd
  /-- How many moments came before the response. -/
  answeredAt : Nat
  /-- How many moments came before the end. -/
  endedAt : Nat

/-- The moment that completes a request is the later one of its two. -/
def Completion.moment (c : Completion) : Nat :=
  max c.answeredAt c.endedAt

/-- A request is complete among moments: both its events are there, and the rule is the first of
those registered before its response that is meant for it. -/
structure Completion.Within (ms : List Moment) (c : Completion) : Prop where
  answered : ms[c.answeredAt]? = some (.event (.response c.id c.response))
  ended : ms[c.endedAt]? = some (.event (.ofEnd c.id c.ending))
  ruled : ruleAmong? (ms.take c.answeredAt) c.response.url = some c.rule

/-- A complete request with its body, or why that could not be read. -/
structure Settlement where
  completion : Completion
  body : Except String ResponseBody

namespace Settlement

/-- The capture that a settlement makes. -/
def capture (s : Settlement) : Capture :=
  captureOf s.completion.rule s.completion.response s.body

/-- The file asked for, if the rule asks for one. -/
def download? (s : Settlement) : Option Download :=
  downloadOf? s.completion.rule s.completion.response s.body

end Settlement

/-- Complete requests with their bodies, when some bodies have been asked for before. Only the body
of a request that finished loading is asked for. -/
def settlements (bodies : Bodies) (asked : List String) : List Completion → List Settlement
  | [] => []
  | c :: rest =>
    ⟨c, Observer.bodyAfter bodies asked c.id c.response c.ending⟩ ::
      settlements bodies (asked ++ Observer.asksAfter c.id c.ending) rest

/-- Each complete request is settled once, in the same order. -/
theorem map_completion_settlements (bodies : Bodies) (asked : List String)
    (done : List Completion) :
    (settlements bodies asked done).map Settlement.completion = done := by
  induction done generalizing asked with
  | nil => rfl
  | cons c done ih => simp [settlements, ih]

/-- The files that findings ask for. -/
def downloadsIn (findings : List Finding) : List Download :=
  findings.filterMap fun
    | .line _ => none
    | .file download => some download

/-- One more completion is settled after the others, with what was asked before it. -/
theorem settlements_concat (bodies : Bodies) (asked : List String) (done : List Completion)
    (c : Completion) :
    settlements bodies asked (done ++ [c]) =
      settlements bodies asked done ++
        [⟨c, Observer.bodyAfter bodies
          (asked ++ done.flatMap fun d => Observer.asksAfter d.id d.ending)
          c.id c.response c.ending⟩] := by
  induction done generalizing asked with
  | nil => simp [settlements]
  | cons d done ih => simp [settlements, ih, List.append_assoc]

/-! ## Complete requests by what happened to them -/

/-- The complete request of an answer and an end. -/
def completion? (id : String) : Option Answered → Option Ended → Option Completion
  | some ⟨answeredAt, m, some rule⟩, some ⟨endedAt, ending⟩ =>
    some ⟨id, m, rule, ending, answeredAt, endedAt⟩
  | _, _ => none

/-- The complete request of some name among moments. -/
def completionIn (id : String) (ms : List Moment) : Option Completion :=
  completion? id (answerIn id ms) (endIn id ms)

/-- A request is complete if it was answered, a rule was meant for it and it ended. -/
theorem completion?_eq_some_iff {id : String} {a : Option Answered} {e : Option Ended}
    {c : Completion} :
    completion? id a e = some c ↔
      c.id = id ∧ a = some ⟨c.answeredAt, c.response, some c.rule⟩ ∧
        e = some ⟨c.endedAt, c.ending⟩ := by
  constructor
  · intro h
    unfold completion? at h
    split at h
    · cases h
      exact ⟨rfl, rfl, rfl⟩
    · cases h
  · rintro ⟨rfl, rfl, rfl⟩
    rfl

/-- A request is complete after some moments if and only if its completion lies within them. -/
theorem completionIn_eq_some_iff {id : String} {ms : List Moment} {c : Completion}
    (once : EachOnce ms) : completionIn id ms = some c ↔ c.id = id ∧ c.Within ms := by
  rw [completionIn, completion?_eq_some_iff, answerIn_eq_some_iff once, endIn_eq_some_iff once]
  constructor
  · rintro ⟨rfl, ⟨answered, ruled⟩, ended⟩
    exact ⟨rfl, answered, ended, ruled.symm⟩
  · rintro ⟨rfl, answered, ended, ruled⟩
    exact ⟨rfl, ⟨answered, ruled.symm⟩, ended⟩

/-- A complete request became so at one of the moments. -/
theorem Completion.Within.moment_lt {ms : List Moment} {c : Completion} (h : c.Within ms) :
    c.moment < ms.length :=
  Nat.max_lt.mpr
    ⟨(List.getElem?_eq_some_iff.mp h.answered).1, (List.getElem?_eq_some_iff.mp h.ended).1⟩

/-- Registering a rule completes no request. -/
theorem completionIn_rule (id : String) (ms : List Moment) (rule : CaptureRule) :
    completionIn id (ms ++ [.rule rule]) = completionIn id ms := by
  rw [completionIn, answerIn_rule, endIn_rule, completionIn]

/-- Before its response a request is not complete. -/
theorem completionIn_of_unanswered {id : String} {ms : List Moment}
    (new : answerIn id ms = none) : completionIn id ms = none := by
  rw [completionIn, new]
  rfl

/-- Before its end a request is not complete. -/
theorem completionIn_of_open {id : String} {ms : List Moment} (new : endIn id ms = none) :
    completionIn id ms = none := by
  rw [completionIn, new]
  rcases answerIn id ms with _ | ⟨_, _, _ | _⟩ <;> rfl

/-- A response completes its own request if that has ended, and no other. -/
theorem completionIn_response {id : String} {ms : List Moment} (new : answerIn id ms = none)
    (m : ResponseMeta) (other : String) :
    completionIn other (ms ++ [.event (.response id m)]) =
      if other = id then
        completion? id (some ⟨ms.length, m, ruleAmong? ms m.url⟩) (endIn id ms)
      else completionIn other ms := by
  rw [completionIn, answerIn_response new, endIn_response]
  by_cases h : other = id
  · rw [if_pos h, if_pos h, h]
  · rw [if_neg h, if_neg h, completionIn]

/-- An end completes its own request if that was answered, and no other. -/
theorem completionIn_ofEnd {id : String} {ms : List Moment} (new : endIn id ms = none)
    (ending : LoadingEnd) (other : String) :
    completionIn other (ms ++ [.event (.ofEnd id ending)]) =
      if other = id then completion? id (answerIn id ms) (some ⟨ms.length, ending⟩)
      else completionIn other ms := by
  rw [completionIn, answerIn_ofEnd, endIn_ofEnd new]
  by_cases h : other = id
  · rw [if_pos h, if_pos h, h]
  · rw [if_neg h, if_neg h, completionIn]

/-! ## The step -/

/-- What an observer has done after some moments, `done` being the requests it has captured. -/
structure Tally (bodies : Bodies) (ms : List Moment) (o : Observer) (done : List Completion) :
    Prop where
  books : Books ms o.router
  complete : ∀ c, c ∈ done ↔ completionIn c.id ms = some c
  ordered : done.Pairwise fun c d => c.moment < d.moment
  asked : o.asked = done.flatMap fun c => Observer.asksAfter c.id c.ending
  captures : o.router.captures = (settlements bodies [] done).map Settlement.capture
  downloads : downloadsIn o.findings = (settlements bodies [] done).filterMap Settlement.download?

/-- Nothing is captured before the first moment. -/
theorem tally_start (bodies : Bodies) : Tally bodies [] .start [] where
  books := books_empty
  complete c := by simp [completionIn, answerIn, endIn, firstFrom, completion?]
  ordered := .nil
  asked := rfl
  captures := rfl
  downloads := rfl

namespace Tally

variable {bodies : Bodies} {ms : List Moment} {o o' : Observer} {done : List Completion}
  {x : Moment}

/-- A moment that completes no request and settles nothing keeps the tally. -/
theorem idle (tally : Tally bodies ms o done) (books : Books (ms ++ [x]) o'.router)
    (same : ∀ id, completionIn id (ms ++ [x]) = completionIn id ms) (asked : o'.asked = o.asked)
    (captures : o'.router.captures = o.router.captures)
    (downloads : downloadsIn o'.findings = downloadsIn o.findings) :
    Tally bodies (ms ++ [x]) o' done where
  books := books
  complete c := by rw [same]; exact tally.complete c
  ordered := tally.ordered
  asked := asked.trans tally.asked
  captures := captures.trans tally.captures
  downloads := downloads.trans tally.downloads

/-- A moment that completes a request keeps the tally if it settles just that request. -/
theorem settle (tally : Tally bodies ms o done) (books : Books (ms ++ [x]) o'.router)
    (once : EachOnce ms) {c : Completion} (now : c.moment = ms.length)
    (before : completionIn c.id ms = none) (after : completionIn c.id (ms ++ [x]) = some c)
    (others : ∀ id, id ≠ c.id → completionIn id (ms ++ [x]) = completionIn id ms)
    (asked : o'.asked = o.asked ++ Observer.asksAfter c.id c.ending)
    (captures : o'.router.captures = o.router.captures ++
      [captureOf c.rule c.response (Observer.bodyAfter bodies o.asked c.id c.response c.ending)])
    (downloads : downloadsIn o'.findings = downloadsIn o.findings ++
      (downloadOf? c.rule c.response
        (Observer.bodyAfter bodies o.asked c.id c.response c.ending)).toList) :
    Tally bodies (ms ++ [x]) o' (done ++ [c]) where
  books := books
  complete d := by
    rw [List.mem_append, List.mem_singleton, tally.complete]
    by_cases h : d.id = c.id
    · rw [h, before, after]
      simp [eq_comm]
    · rw [others d.id h]
      exact ⟨fun mem => mem.elim id fun eq => absurd (congrArg Completion.id eq) h, Or.inl⟩
  ordered := by
    refine List.pairwise_append.mpr ⟨tally.ordered, List.pairwise_singleton _ _, ?_⟩
    intro d mem e last
    cases List.mem_singleton.mp last
    have within := (completionIn_eq_some_iff once).mp ((tally.complete d).mp mem)
    rw [now]
    exact within.2.moment_lt
  asked := by simp [asked, tally.asked]
  captures := by
    simp [captures, tally.captures, settlements_concat, Settlement.capture, tally.asked]
  downloads := by
    rw [downloads, tally.downloads, settlements_concat, List.filterMap_append, tally.asked]
    simp [Settlement.download?, List.filterMap_eq_flatMap_toList]

/-- A response completes its request if a rule is meant for it and the end came before. -/
theorem response {id : String} {m : ResponseMeta} (tally : Tally bodies ms o done)
    (once : EachOnce (ms ++ [.event (.response id m)])) :
    ∃ done', Tally bodies (ms ++ [.event (.response id m)])
      (o.handle bodies (.response id m)) done' := by
  have new := once.answer_new
  have books := tally.books.response new m bodies
  have found := tally.books.ruleFor? m.url
  have early := tally.books.earlyEnd new
  have none_before := completionIn_of_unanswered new
  have after := completionIn_response new m
  have idle (nothing : completion? id (some ⟨ms.length, m, ruleAmong? ms m.url⟩) (endIn id ms)
      = none) (other : String) :
      completionIn other (ms ++ [.event (.response id m)]) = completionIn other ms := by
    by_cases h : other = id
    · rw [after, if_pos h, nothing, h, none_before]
    · rw [after, if_neg h]
  cases rule : ruleAmong? ms m.url with
  | none =>
    rw [rule] at found idle
    rw [Observer.handle_unmatched found] at books ⊢
    refine ⟨done, tally.idle books (idle rfl) rfl ?_ rfl⟩
    rw [onResponse_unmatched id found]
  | some rule' =>
    rw [rule] at found idle after
    cases ended : endIn id ms with
    | none =>
      rw [ended] at early idle
      rw [Observer.handle_matched found early] at books ⊢
      refine ⟨done, tally.idle books (idle rfl) rfl rfl ?_⟩
      simp [downloadsIn]
    | some e =>
      rw [ended] at early after
      rw [Observer.handle_late found early] at books ⊢
      have position := ((endIn_eq_some_iff once.before).mp ended)
      have lt := (List.getElem?_eq_some_iff.mp position).1
      refine ⟨done ++ [⟨id, m, rule', e.ending, ms.length, e.position⟩],
        tally.settle books once.before ?_ none_before ?_ ?_ rfl rfl ?_⟩
      · exact Nat.max_eq_left (Nat.le_of_lt lt)
      · rw [after, if_pos rfl]; rfl
      · intro other h; rw [after, if_neg h]
      · simp [downloadsIn]

/-- An end completes its request if the response waits for it. -/
theorem ofEnd {id : String} (tally : Tally bodies ms o done) (ending : LoadingEnd)
    (once : EachOnce (ms ++ [.event (.ofEnd id ending)])) :
    ∃ done', Tally bodies (ms ++ [.event (.ofEnd id ending)])
      (o.handle bodies (.ofEnd id ending)) done' := by
  have new := once.end_new
  have books := tally.books.ofEnd new ending bodies
  have none_before := completionIn_of_open new
  have after := completionIn_ofEnd new ending
  have pending := tally.books.pending id
  rw [new] at pending
  have idle (nothing : find? id o.router.pending = none)
      (nothing' : completion? id (answerIn id ms) (some ⟨ms.length, ending⟩) = none) :
      Tally bodies (ms ++ [.event (.ofEnd id ending)])
        (o.handle bodies (.ofEnd id ending)) done := by
    rw [Observer.handle_end_idle ending nothing] at books ⊢
    refine tally.idle books ?_ rfl ?_ rfl
    · intro other
      by_cases h : other = id
      · rw [after, if_pos h, nothing', h, none_before]
      · rw [after, if_neg h]
    · dsimp only
      split <;> rfl
  rcases answered : answerIn id ms with _ | ⟨position, m, _ | rule⟩ <;> rw [answered] at pending
  · exact ⟨done, idle pending (by rw [answered]; rfl)⟩
  · exact ⟨done, idle pending (by rw [answered]; rfl)⟩
  · rw [answered] at after
    rw [Observer.handle_end_waiting pending ending] at books ⊢
    have at_ := ((answerIn_eq_some_iff once.before).mp answered).1
    have lt := (List.getElem?_eq_some_iff.mp at_).1
    refine ⟨done ++ [⟨id, m, rule, ending, position, ms.length⟩],
      tally.settle books once.before ?_ none_before ?_ ?_ rfl rfl ?_⟩
    · exact Nat.max_eq_right (Nat.le_of_lt lt)
    · rw [after, if_pos rfl]; rfl
    · intro other h; rw [after, if_neg h]
    · simp [downloadsIn]

/-- Every moment keeps the tally. -/
theorem attend (tally : Tally bodies ms o done) (once : EachOnce (ms ++ [x])) :
    ∃ done', Tally bodies (ms ++ [x]) (o.attend bodies x) done' := by
  match x with
  | .rule rule =>
    exact ⟨done, tally.idle (tally.books.register rule)
      (fun id => completionIn_rule id ms rule) rfl rfl rfl⟩
  | .event (.response id m) => exact tally.response once
  | .event (.finished id) => exact tally.ofEnd .finished once
  | .event (.failed id reason) => exact tally.ofEnd (.failed reason) once

/-- Attending to moments, one after the other, keeps the tally. -/
theorem attendAll (tally : Tally bodies ms o done) (more : List Moment)
    (once : EachOnce (ms ++ more)) :
    ∃ done', Tally bodies (ms ++ more) (o.attendAll bodies more) done' := by
  induction more generalizing ms o done with
  | nil => exact ⟨done, by simpa [Observer.attendAll] using tally⟩
  | cons x more ih =>
    rw [List.append_cons] at once ⊢
    obtain ⟨done', tally'⟩ := tally.attend once.before
    exact ih tally' once

end Tally

/-! ## Complete requests by their names -/

/-- A rule is meant for an address among moments if one of those registered has it. -/
theorem ruleAmong?_isSome_iff {ms : List Moment} {url : String} :
    (∃ rule, ruleAmong? ms url = some rule) ↔ ∃ rule ∈ rulesIn ms, rule.applies url := by
  rw [← Option.isSome_iff_exists, ruleAmong?, List.find?_isSome]

namespace Tally

variable {bodies : Bodies} {ms : List Moment} {o : Observer} {done : List Completion}

/-- The completions of the tally are those that lie within the moments. -/
theorem mem_iff (tally : Tally bodies ms o done) (once : EachOnce ms) (c : Completion) :
    c ∈ done ↔ c.Within ms := by
  rw [tally.complete, completionIn_eq_some_iff once]
  exact ⟨And.right, fun h => ⟨rfl, h⟩⟩

/-- A request is completed if and only if both its events came, a rule being meant for its response.
-/
theorem mem_map_id_iff (tally : Tally bodies ms o done) (once : EachOnce ms) (id : String) :
    id ∈ done.map Completion.id ↔
      ∃ (i j : Nat) (m : ResponseMeta) (ending : LoadingEnd),
        ms[i]? = some (.event (.response id m)) ∧ ms[j]? = some (.event (.ofEnd id ending)) ∧
        ∃ rule ∈ rulesIn (ms.take i), rule.applies m.url := by
  simp only [← ruleAmong?_isSome_iff, List.mem_map, tally.mem_iff once]
  constructor
  · rintro ⟨c, within, rfl⟩
    exact ⟨_, _, _, _, within.answered, within.ended, _, within.ruled⟩
  · rintro ⟨i, j, m, ending, answered, ended, rule, ruled⟩
    exact ⟨⟨id, m, rule, ending, i, j⟩, ⟨answered, ended, ruled⟩, rfl⟩

/-- Two complete requests of one name are one. -/
theorem nodup_map_id (tally : Tally bodies ms o done) : (done.map Completion.id).Nodup := by
  rw [List.Nodup, List.pairwise_map]
  refine tally.ordered.imp_of_mem fun {c d} hc hd lt same => ?_
  have hd' := (tally.complete d).mp hd
  rw [← same, (tally.complete c).mp hc] at hd'
  cases hd'
  exact Nat.lt_irrefl _ lt

end Tally

end PageScript.Chrome
