import PageScript.Proofs.Capture.Completion
import PageScript.Proofs.Capture.Operations

/-!
# No request is left in the router's tables

Which table a request is in is decided by its own two events: it waits from a response that a rule
is meant for to its end, it is passed over from any other response to its end, and its end is held
until its response comes. `tables_account` says so after every part of what an observer attended
to. A request both of whose events were handled is in no table, so that nothing is left once all
have come.

**What it does not establish.** Requests with two responses or two ends are left out: their second
event finds the tables of the first.
-/

namespace PageScript.Chrome

open Router

/-! ## What happened to a request -/

/-- Its response was handled. -/
def HasResponse (ms : List Moment) (id : String) : Prop :=
  ∃ m, .event (.response id m) ∈ ms

/-- Its end was handled. -/
def HasEnd (ms : List Moment) (id : String) : Prop :=
  ∃ ending, .event (.ofEnd id ending) ∈ ms

/-- Its response was handled when some rule registered before was meant for it. -/
def Matched (ms : List Moment) (id : String) : Prop :=
  ∃ i m, ms[i]? = some (.event (.response id m)) ∧ ∃ rule ∈ rulesIn (ms.take i), rule.applies m.url

/-- Its response was handled when no rule registered before was meant for it. -/
def Unmatched (ms : List Moment) (id : String) : Prop :=
  ∃ i m, ms[i]? = some (.event (.response id m)) ∧
    ∀ rule ∈ rulesIn (ms.take i), ¬ rule.applies m.url

section Events

variable {ms : List Moment} {id : String}

/-- No rule is found for an address if and only if none is meant for it. -/
theorem ruleAmong?_eq_none_iff {url : String} :
    ruleAmong? ms url = none ↔ ∀ rule ∈ rulesIn ms, ¬ rule.applies url := by
  rw [ruleAmong?, List.find?_eq_none]

/-- A request has a response in the moments if and only if an answer is found there. -/
theorem hasResponse_iff (once : EachOnce ms) :
    HasResponse ms id ↔ ∃ a, answerIn id ms = some a := by
  constructor
  · rintro ⟨m, mem⟩
    obtain ⟨i, at_⟩ := List.mem_iff_getElem?.mp mem
    exact ⟨⟨i, m, ruleAmong? (ms.take i) m.url⟩, (answerIn_eq_some_iff once).mpr ⟨at_, rfl⟩⟩
  · rintro ⟨a, found⟩
    exact ⟨a.response, List.mem_of_getElem? ((answerIn_eq_some_iff once).mp found).1⟩

/-- An ending is among the moments if and only if it is the one found for the request. -/
theorem mem_ofEnd_iff (once : EachOnce ms) {ending : LoadingEnd} :
    .event (.ofEnd id ending) ∈ ms ↔ ∃ e, endIn id ms = some e ∧ e.ending = ending := by
  constructor
  · intro mem
    obtain ⟨i, at_⟩ := List.mem_iff_getElem?.mp mem
    exact ⟨⟨i, ending⟩, (endIn_eq_some_iff once).mpr at_, rfl⟩
  · rintro ⟨e, found, rfl⟩
    exact List.mem_of_getElem? ((endIn_eq_some_iff once).mp found)

/-- A request has an end in the moments if and only if one is found there. -/
theorem hasEnd_iff (once : EachOnce ms) : HasEnd ms id ↔ ∃ e, endIn id ms = some e := by
  simp only [HasEnd, mem_ofEnd_iff once]
  exact ⟨fun ⟨_, e, found, _⟩ => ⟨e, found⟩, fun ⟨e, found⟩ => ⟨_, e, found, rfl⟩⟩

/-- A request is matched if and only if its answer was found with a rule. -/
theorem matched_iff (once : EachOnce ms) :
    Matched ms id ↔ ∃ a rule, answerIn id ms = some a ∧ a.rule? = some rule := by
  simp only [Matched, ← ruleAmong?_isSome_iff]
  constructor
  · rintro ⟨i, m, at_, rule, found⟩
    exact ⟨⟨i, m, some rule⟩, rule, (answerIn_eq_some_iff once).mpr ⟨at_, found.symm⟩, rfl⟩
  · rintro ⟨a, rule, found, meant⟩
    obtain ⟨at_, rules⟩ := (answerIn_eq_some_iff once).mp found
    exact ⟨a.position, a.response, at_, rule, rules.symm.trans meant⟩

/-- A request is unmatched if and only if its answer was found without a rule. -/
theorem unmatched_iff (once : EachOnce ms) :
    Unmatched ms id ↔ ∃ a, answerIn id ms = some a ∧ a.rule? = none := by
  simp only [Unmatched, ← ruleAmong?_eq_none_iff]
  constructor
  · rintro ⟨i, m, at_, found⟩
    exact ⟨⟨i, m, none⟩, (answerIn_eq_some_iff once).mpr ⟨at_, found.symm⟩, rfl⟩
  · rintro ⟨a, found, meant⟩
    obtain ⟨at_, rules⟩ := (answerIn_eq_some_iff once).mp found
    exact ⟨a.position, a.response, at_, rules.symm.trans meant⟩

end Events

/-! ## The tables by what happened -/

/-- A request waits if it was answered with a rule and has not ended. -/
theorem waiting?_isSome_iff {a : Option Answered} {e : Option Ended} :
    (waiting? a e).isSome ↔ (∃ x rule, a = some x ∧ x.rule? = some rule) ∧ e = none := by
  rcases a with _ | ⟨_, _, _ | rule⟩ <;> rcases e with _ | e <;> simp [waiting?]

/-- What waits has had no end, neither before its response nor after. -/
theorem earlyEnd_of_waiting? {a : Option Answered} {e : Option Ended} {p : PendingCapture}
    (h : waiting? a e = some p) : p.earlyEnd = none := by
  unfold waiting? at h
  split at h
  · cases h
    rfl
  · cases h

/-- A request is passed over if it was answered without a rule and has not ended. -/
theorem passedOver_iff {a : Option Answered} {e : Option Ended} :
    passedOver a e ↔ (∃ x, a = some x ∧ x.rule? = none) ∧ e = none := by
  rcases a with _ | ⟨_, _, _ | rule⟩ <;> rcases e with _ | e <;> simp [passedOver]

/-- The end of a request is held if it came and no answer did. -/
theorem held?_eq_some_iff {a : Option Answered} {e : Option Ended} {ending : LoadingEnd} :
    held? a e = some ending ↔ a = none ∧ ∃ x, e = some x ∧ x.ending = ending := by
  rcases a with _ | a <;> rcases e with _ | e <;> simp [held?]

namespace Books

variable {ms : List Moment}

/-- Attending to moments, one after the other, keeps the books. -/
theorem attendAll {o : Observer} (books : Books ms o.router) (more : List Moment)
    (once : EachOnce (ms ++ more)) (bodies : Bodies) :
    Books (ms ++ more) (o.attendAll bodies more).router := by
  induction more generalizing ms o with
  | nil => simpa [Observer.attendAll] using books
  | cons x more ih =>
    rw [List.append_cons] at once ⊢
    exact ih (books.attend once.before bodies) once

variable {r : Router} (books : Books ms r) (once : EachOnce ms)

include books once

/-- Matched requests wait until they end. -/
theorem mem_pending_iff (id : String) :
    id ∈ requests r.pending ↔ Matched ms id ∧ ¬ HasEnd ms id := by
  rw [mem_requests_iff, books.pending, waiting?_isSome_iff, matched_iff once, hasEnd_iff once,
    ← Option.ne_none_iff_exists', not_not]

/-- Unmatched requests are passed over until they end. -/
theorem mem_ignored_iff (id : String) :
    id ∈ r.ignored ↔ Unmatched ms id ∧ ¬ HasEnd ms id := by
  rw [books.ignored, passedOver_iff, unmatched_iff once, hasEnd_iff once,
    ← Option.ne_none_iff_exists', not_not]

/-- An end is held until the response of its request comes. -/
theorem find?_earlyEnds_iff (id : String) (ending : LoadingEnd) :
    find? id r.earlyEnds = some ending ↔
      .event (.ofEnd id ending) ∈ ms ∧ ¬ HasResponse ms id := by
  rw [books.earlyEnds, held?_eq_some_iff, mem_ofEnd_iff once, hasResponse_iff once,
    ← Option.ne_none_iff_exists', not_not, and_comm]

/-- Once each request has had both its events or none, the tables are empty. -/
theorem tables_empty (settled : ∀ id, HasResponse ms id ↔ HasEnd ms id) :
    r.pending = [] ∧ r.ignored = [] ∧ r.earlyEnds = [] := by
  have answered {id : String} : Matched ms id ∨ Unmatched ms id → HasResponse ms id := by
    rintro (⟨i, m, at_, -⟩ | ⟨i, m, at_, -⟩)
    all_goals exact ⟨m, List.mem_of_getElem? at_⟩
  refine ⟨eq_nil_of_find? fun id => ?_, List.eq_nil_iff_forall_not_mem.mpr fun id mem => ?_,
    eq_nil_of_find? fun id => ?_⟩
  · refine not_mem_requests_iff.mp fun mem => ?_
    obtain ⟨matched, open_⟩ := (books.mem_pending_iff once id).mp mem
    exact open_ ((settled id).mp (answered (.inl matched)))
  · obtain ⟨unmatched, open_⟩ := (books.mem_ignored_iff once id).mp mem
    exact open_ ((settled id).mp (answered (.inr unmatched)))
  · refine Option.eq_none_iff_forall_ne_some.mpr fun ending held => ?_
    obtain ⟨ended, unanswered⟩ := (books.find?_earlyEnds_iff once id ending).mp held
    exact unanswered ((settled id).mpr ⟨ending, ended⟩)

end Books

/-- After every part of what an observer attended to: the requests that wait are those with a
response that a rule was meant for and no end, and none of them holds an end; the requests passed
over are those with a response that no rule was meant for and no end; the ends that are held are
those of the requests without a response. Once each request has had both its events, no table has
an entry. -/
theorem tables_account (bodies : Bodies) {ms past : List Moment} (once : EachOnce ms)
    (part : past <+: ms) :
    let r := (Observer.start.attendAll bodies past).router
    (∀ id, id ∈ requests r.pending ↔ Matched past id ∧ ¬ HasEnd past id) ∧
      (∀ id p, (id, p) ∈ r.pending → p.earlyEnd = none) ∧
      (∀ id, id ∈ r.ignored ↔ Unmatched past id ∧ ¬ HasEnd past id) ∧
      (∀ id ending, (id, ending) ∈ r.earlyEnds ↔
        .event (.ofEnd id ending) ∈ past ∧ ¬ HasResponse past id) ∧
      ((∀ id, HasResponse past id ↔ HasEnd past id) →
        r.pending = [] ∧ r.ignored = [] ∧ r.earlyEnds = []) := by
  intro r
  obtain ⟨rest, rfl⟩ := part
  have once : EachOnce past := once.before
  have begun : Books [] Observer.start.router := books_empty
  have books : Books past r := begun.attendAll past once bodies
  obtain ⟨ops, does⟩ := Observer.start.attendAll_eq_runAll bodies past
  have sound : r.Sound := by
    rw [show r = Router.empty.runAll ops from does]
    exact sound_empty.runAll ops
  refine ⟨books.mem_pending_iff once, fun id p mem => ?_, books.mem_ignored_iff once,
    fun id ending => ?_, books.tables_empty once⟩
  · rw [← find?_eq_some_iff sound.pending, books.pending] at mem
    exact earlyEnd_of_waiting? mem
  · rw [← find?_eq_some_iff sound.earlyEnds]
    exact books.find?_earlyEnds_iff once id ending

/-- One request in each table, before the missing events come in another order. -/
theorem tables_account_oneInEach :
    let response := fun id url => Moment.event (.response id ⟨url, 200, []⟩)
    let past : List Moment :=
      [.event (.finished "b"), .rule ⟨"/api/", false, false⟩, response "a" "http://h/api/1",
        response "c" "http://h/c.js"]
    let ms := past ++ [.event (.failed "c" "gone"), response "b" "http://h/api/2",
      .event (.finished "a")]
    let r := (Observer.start.attendAll (fun _ _ => none) past).router
    EachOnce ms ∧ past <+: ms ∧
      requests r.pending = ["a"] ∧ r.ignored = ["c"] ∧ r.earlyEnds = [("b", .finished)] ∧
      Matched past "a" ∧ ¬ HasEnd past "a" ∧ Unmatched past "c" ∧ ¬ HasResponse past "b" := by
  intro response past ms r
  have once : EachOnce ms := by decide
  have part : past <+: ms := List.prefix_append _ _
  obtain ⟨pending, -, ignored, earlyEnds, -⟩ := tables_account (fun _ _ => none) once part
  have waits : requests r.pending = ["a"] := by decide
  have passed : r.ignored = ["c"] := by decide
  have held : r.earlyEnds = [("b", .finished)] := by decide
  obtain ⟨matched, open_⟩ := (pending "a").mp (waits ▸ List.mem_singleton_self _)
  obtain ⟨unmatched, -⟩ := (ignored "c").mp (passed ▸ List.mem_singleton_self _)
  obtain ⟨-, unanswered⟩ := (earlyEnds "b" .finished).mp (held ▸ List.mem_singleton_self _)
  exact ⟨once, part, waits, passed, held, matched, open_, unmatched, unanswered⟩

end PageScript.Chrome
