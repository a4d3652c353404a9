import Mathlib.Data.List.Basic
import PageScript.Chrome.Observer

/-!
# What the observer has attended to

The observer does one thing a turn: it registers a rule or handles an event. A list of such
`Moment`s is all that decides what it has captured, whatever the order in which the events of
different requests, or the two events of one request, come. What happened to a request is read off
the moments themselves (`answerIn`, `endIn`), without any of the router's tables.

Where no request has two responses or two ends (`EachOnce`), every event is news to the moments
before it (`EachOnce.answer_new`, `EachOnce.end_new`).

**What it does not establish.** Moments are read here, not produced: that the observer of a job
attends to such moments, and that a browser tells of each request once, are matters of other
modules.
-/

namespace PageScript.Chrome

/-- Something the observer attends to in a turn. -/
inductive Moment where
  | rule (rule : CaptureRule)
  | event (e : NetworkEvent)

/-- The event of a request whose loading ends in some way. -/
def NetworkEvent.ofEnd (id : String) : LoadingEnd → NetworkEvent
  | .finished => .finished id
  | .failed reason => .failed id reason

namespace Moment

/-- The request that a moment brings the response of. -/
def answers? : Moment → Option String
  | .event (.response id _) => some id
  | _ => none

/-- The request that a moment brings the end of. -/
def ends? : Moment → Option String
  | .event (.finished id) => some id
  | .event (.failed id _) => some id
  | _ => none

end Moment

/-- No request has more than one response or more than one end. -/
def EachOnce (ms : List Moment) : Prop :=
  (ms.filterMap Moment.answers?).Nodup ∧ (ms.filterMap Moment.ends?).Nodup

instance (ms : List Moment) : Decidable (EachOnce ms) :=
  inferInstanceAs (Decidable (_ ∧ _))

/-- The rules registered in some moments, first registered first. -/
def rulesIn (ms : List Moment) : List CaptureRule :=
  ms.filterMap fun
    | .rule rule => some rule
    | .event _ => none

/-- The first rule registered in some moments that is meant for an address. -/
def ruleAmong? (ms : List Moment) (url : String) : Option CaptureRule :=
  (rulesIn ms).find? (·.applies url)

namespace Observer

/-- What an observer is after a moment: a rule is registered, an event goes to the router. -/
def attend (bodies : Bodies) (o : Observer) : Moment → Observer
  | .rule rule => { o with router := o.router.register rule }
  | .event e => o.handle bodies e

/-- What an observer is after moments, one after the other. -/
def attendAll (bodies : Bodies) (o : Observer) (ms : List Moment) : Observer :=
  ms.foldl (attend bodies) o

end Observer

/-! ## The events of one request -/

/-- The response of a request, as it was handled. -/
structure Answered where
  position : Nat
  response : ResponseMeta
  /-- The first rule meant for it, among those registered before. -/
  rule? : Option CaptureRule

/-- The end of a request, as it was handled. -/
structure Ended where
  position : Nat
  ending : LoadingEnd

/-- The response of a request, if a moment after others brings it. -/
def answerNow (id : String) (past : List Moment) : Moment → Option Answered
  | .event (.response other m) =>
    if other = id then some ⟨past.length, m, ruleAmong? past m.url⟩ else none
  | _ => none

/-- The end that a moment brings for a request, at its place after the past moments. -/
def endNow (id : String) (past : List Moment) : Moment → Option Ended
  | .event (.finished other) => if other = id then some ⟨past.length, .finished⟩ else none
  | .event (.failed other reason) =>
    if other = id then some ⟨past.length, .failed reason⟩ else none
  | _ => none

/-- The first thing that a moment brings, of those that follow some others. -/
def firstFrom (bring : List Moment → Moment → Option α) (past : List Moment) :
    List Moment → Option α
  | [] => none
  | x :: rest => (bring past x).or (firstFrom bring (past ++ [x]) rest)

/-- The response of a request among moments. -/
def answerIn (id : String) (ms : List Moment) : Option Answered :=
  firstFrom (answerNow id) [] ms

/-- The first end of a request among moments. -/
def endIn (id : String) (ms : List Moment) : Option Ended :=
  firstFrom (endNow id) [] ms

/-- The first of two lists of moments is looked through before the second. -/
theorem firstFrom_append (bring : List Moment → Moment → Option α) (past ms rest : List Moment) :
    firstFrom bring past (ms ++ rest) =
      (firstFrom bring past ms).or (firstFrom bring (past ++ ms) rest) := by
  induction ms generalizing past with
  | nil => simp [firstFrom]
  | cons y ms ih =>
    have tail := ih (past ++ [y])
    rw [List.append_assoc, List.singleton_append] at tail
    simp only [List.cons_append, firstFrom, tail, Option.or_assoc]

/-- What is found was brought by one of the moments, after those before it. -/
theorem exists_of_firstFrom {bring : List Moment → Moment → Option α} {past ms : List Moment}
    {a : α} (h : firstFrom bring past ms = some a) :
    ∃ before x after, ms = before ++ x :: after ∧ bring (past ++ before) x = some a := by
  induction ms generalizing past with
  | nil => cases h
  | cons y ms ih =>
    simp only [firstFrom] at h
    rcases Option.or_eq_some_iff.mp h with now | ⟨_, later⟩
    · exact ⟨[], y, ms, rfl, by simpa using now⟩
    · obtain ⟨before, x, after, rfl, brought⟩ := ih later
      exact ⟨y :: before, x, after, rfl, by simpa using brought⟩

section Keyed

/-! What is looked for is brought by moments of one request only, and each request has one such
moment at most: then it does not matter that the first one counts. -/

variable {bring : List Moment → Moment → Option α} {request? : Moment → Option String}
  {id : String} (keyed : ∀ past x a, bring past x = some a → request? x = some id)

include keyed

/-- What no moment is about is brought by none. -/
theorem firstFrom_eq_none {past ms : List Moment} (new : id ∉ ms.filterMap request?) :
    firstFrom bring past ms = none := by
  cases found : firstFrom bring past ms with
  | none => rfl
  | some a =>
    obtain ⟨before, x, after, rfl, brought⟩ := exists_of_firstFrom found
    exact absurd (List.mem_filterMap.mpr ⟨x, by simp, keyed _ _ _ brought⟩) new

/-- What a moment brings is not brought before it if each request comes once. -/
theorem firstFrom_past {past ms : List Moment} {x : Moment} {a : α}
    (once : ((past ++ x :: ms).filterMap request?).Nodup) (brought : bring past x = some a) :
    firstFrom bring [] past = none := by
  apply firstFrom_eq_none keyed
  rw [List.filterMap_append, List.filterMap_cons_some (keyed _ _ _ brought)] at once
  exact fun mem => (List.nodup_append.mp once).2.2 id mem id List.mem_cons_self rfl

/-- Where each request comes once, what is brought first is what is brought at its one place. -/
theorem firstFrom_eq_some_iff {ms : List Moment} {a : α}
    (once : (ms.filterMap request?).Nodup) :
    firstFrom bring [] ms = some a ↔
      ∃ i x, ms[i]? = some x ∧ bring (ms.take i) x = some a := by
  constructor
  · intro h
    obtain ⟨before, x, after, rfl, brought⟩ := exists_of_firstFrom h
    exact ⟨before.length, x, by simp, by simpa using brought⟩
  · rintro ⟨i, x, at_, brought⟩
    obtain ⟨lt, rfl⟩ := List.getElem?_eq_some_iff.mp at_
    have split : ms = ms.take i ++ ms[i] :: ms.drop (i + 1) := by
      rw [← List.drop_eq_getElem_cons lt, List.take_append_drop]
    rw [split] at once
    rw [split, firstFrom_append, firstFrom_past keyed once brought]
    simp [firstFrom, brought]

end Keyed

/-- One more moment brings the response of a request if none was brought before. -/
theorem answerIn_concat (id : String) (ms : List Moment) (x : Moment) :
    answerIn id (ms ++ [x]) = (answerIn id ms).or (answerNow id ms x) := by
  simp [answerIn, firstFrom_append, firstFrom]

/-- One more moment brings the end of a request if none was brought before. -/
theorem endIn_concat (id : String) (ms : List Moment) (x : Moment) :
    endIn id (ms ++ [x]) = (endIn id ms).or (endNow id ms x) := by
  simp [endIn, firstFrom_append, firstFrom]

theorem rulesIn_concat_rule (ms : List Moment) (rule : CaptureRule) :
    rulesIn (ms ++ [.rule rule]) = rulesIn ms ++ [rule] := by
  simp [rulesIn]

theorem rulesIn_concat_event (ms : List Moment) (e : NetworkEvent) :
    rulesIn (ms ++ [.event e]) = rulesIn ms := by
  simp [rulesIn]

/-- A response is noted with the rule that stands first among those that were registered before it.
-/
theorem answerNow_response (id : String) (past : List Moment) (m : ResponseMeta) :
    answerNow id past (.event (.response id m)) =
      some ⟨past.length, m, ruleAmong? past m.url⟩ := by
  simp [answerNow]

theorem endNow_ofEnd (id : String) (past : List Moment) (ending : LoadingEnd) :
    endNow id past (.event (.ofEnd id ending)) = some ⟨past.length, ending⟩ := by
  cases ending <;> simp [endNow, NetworkEvent.ofEnd]

/-- A moment brings a response exactly if it is the event of it. -/
theorem answerNow_eq_some_iff {id : String} {past : List Moment} {x : Moment} {a : Answered} :
    answerNow id past x = some a ↔
      x = .event (.response id a.response) ∧ a.position = past.length ∧
        a.rule? = ruleAmong? past a.response.url := by
  obtain ⟨position, m, rule?⟩ := a
  constructor
  · intro h
    unfold answerNow at h
    split at h
    · split at h
      · cases h
        subst_vars
        exact ⟨rfl, rfl, rfl⟩
      · cases h
    · cases h
  · rintro ⟨rfl, position, rule⟩
    simp only at position rule
    rw [answerNow_response, position, rule]

/-- Only the end of the request itself brings its end. -/
theorem endNow_eq_some_iff {id : String} {past : List Moment} {x : Moment} {e : Ended} :
    endNow id past x = some e ↔
      x = .event (.ofEnd id e.ending) ∧ e.position = past.length := by
  obtain ⟨position, ending⟩ := e
  constructor
  · intro h
    unfold endNow at h
    split at h
    · split at h
      · cases h
        subst_vars
        exact ⟨rfl, rfl⟩
      · cases h
    · split at h
      · cases h
        subst_vars
        exact ⟨rfl, rfl⟩
      · cases h
    · cases h
  · rintro ⟨rfl, rfl⟩
    exact endNow_ofEnd id past ending

theorem answers?_of_answerNow {id : String} (past : List Moment) (x : Moment) (a : Answered)
    (h : answerNow id past x = some a) : x.answers? = some id := by
  obtain ⟨rfl, -⟩ := answerNow_eq_some_iff.mp h
  rfl

theorem ends?_of_endNow {id : String} (past : List Moment) (x : Moment) (e : Ended)
    (h : endNow id past x = some e) : x.ends? = some id := by
  obtain ⟨rfl, -⟩ := endNow_eq_some_iff.mp h
  cases e.ending <;> rfl

/-- The response of a request is the one event that brings it, with the rules registered before
that moment. -/
theorem answerIn_eq_some_iff {id : String} {ms : List Moment} {a : Answered}
    (once : EachOnce ms) :
    answerIn id ms = some a ↔
      ms[a.position]? = some (.event (.response id a.response)) ∧
        a.rule? = ruleAmong? (ms.take a.position) a.response.url := by
  rw [answerIn, firstFrom_eq_some_iff answers?_of_answerNow once.1]
  simp only [answerNow_eq_some_iff]
  constructor
  · rintro ⟨i, x, at_, rfl, position, rule⟩
    have lt := (List.getElem?_eq_some_iff.mp at_).1
    rw [List.length_take_of_le (Nat.le_of_lt lt)] at position
    subst position
    exact ⟨at_, rule⟩
  · rintro ⟨at_, rule⟩
    have lt := (List.getElem?_eq_some_iff.mp at_).1
    exact ⟨a.position, _, at_, rfl, (List.length_take_of_le (Nat.le_of_lt lt)).symm, rule⟩

/-- Where each end comes once, the end of a request is the one that stands at its position. -/
theorem endIn_eq_some_iff {id : String} {ms : List Moment} {e : Ended} (once : EachOnce ms) :
    endIn id ms = some e ↔ ms[e.position]? = some (.event (.ofEnd id e.ending)) := by
  rw [endIn, firstFrom_eq_some_iff ends?_of_endNow once.2]
  simp only [endNow_eq_some_iff]
  constructor
  · rintro ⟨i, x, at_, rfl, position⟩
    have lt := (List.getElem?_eq_some_iff.mp at_).1
    rw [List.length_take_of_le (Nat.le_of_lt lt)] at position
    subst position
    exact at_
  · intro at_
    have lt := (List.getElem?_eq_some_iff.mp at_).1
    exact ⟨e.position, _, at_, rfl, (List.length_take_of_le (Nat.le_of_lt lt)).symm⟩

/-! ## One moment more -/

/-- A rule is no response. -/
theorem answerIn_rule (id : String) (ms : List Moment) (rule : CaptureRule) :
    answerIn id (ms ++ [.rule rule]) = answerIn id ms := by
  simp [answerIn_concat, answerNow]

/-- A rule is no end. -/
theorem endIn_rule (id : String) (ms : List Moment) (rule : CaptureRule) :
    endIn id (ms ++ [.rule rule]) = endIn id ms := by
  simp [endIn_concat, endNow]

/-- A response that is new is the response of its request, and changes nothing for the others. -/
theorem answerIn_response {id : String} {ms : List Moment} (new : answerIn id ms = none)
    (m : ResponseMeta) (other : String) :
    answerIn other (ms ++ [.event (.response id m)]) =
      if other = id then some ⟨ms.length, m, ruleAmong? ms m.url⟩ else answerIn other ms := by
  rw [answerIn_concat]
  by_cases h : other = id
  · subst h
    simp [new, answerNow]
  · simp [answerNow, h, Ne.symm h]

/-- A response is no end. -/
theorem endIn_response (id other : String) (ms : List Moment) (m : ResponseMeta) :
    endIn other (ms ++ [.event (.response id m)]) = endIn other ms := by
  simp [endIn_concat, endNow]

/-- An end is no response. -/
theorem answerIn_ofEnd (id other : String) (ms : List Moment) (ending : LoadingEnd) :
    answerIn other (ms ++ [.event (.ofEnd id ending)]) = answerIn other ms := by
  cases ending <;> simp [answerIn_concat, answerNow, NetworkEvent.ofEnd]

/-- An end that is new is the end of its request, and changes nothing for the others. -/
theorem endIn_ofEnd {id : String} {ms : List Moment} (new : endIn id ms = none)
    (ending : LoadingEnd) (other : String) :
    endIn other (ms ++ [.event (.ofEnd id ending)]) =
      if other = id then some ⟨ms.length, ending⟩ else endIn other ms := by
  rw [endIn_concat]
  by_cases h : other = id
  · subst h
    simp [new, endNow_ofEnd]
  · cases ending <;> simp [endNow, NetworkEvent.ofEnd, h, Ne.symm h]

/-! ## No request twice -/

namespace EachOnce

/-- What came before had no request twice either. -/
theorem before {past ms : List Moment} (once : EachOnce (past ++ ms)) : EachOnce past := by
  simp only [EachOnce, List.filterMap_append, List.nodup_append] at once
  exact ⟨once.1.1, once.2.1⟩

/-- A response is the first of its request. -/
theorem answer_new {past ms : List Moment} {id : String} {m : ResponseMeta}
    (once : EachOnce (past ++ .event (.response id m) :: ms)) : answerIn id past = none :=
  firstFrom_past answers?_of_answerNow once.1
    (answerNow_response id past m)

/-- An end that comes once is news to the moments before it. -/
theorem end_new {past ms : List Moment} {id : String} {ending : LoadingEnd}
    (once : EachOnce (past ++ .event (.ofEnd id ending) :: ms)) : endIn id past = none :=
  firstFrom_past ends?_of_endNow once.2
    (endNow_ofEnd id past ending)

end EachOnce

end PageScript.Chrome
