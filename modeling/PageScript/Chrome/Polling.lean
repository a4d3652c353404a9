import PageScript.Json.Value

/-!
# Asking again until there is a value

An expression that may not have a value yet is evaluated again and again, with a pause in between,
until it has one or a deadline has passed. An evaluation that fails is as good as one without a
value: the document may be about to change. There is always at least one evaluation, and the
deadline is looked at only after an evaluation.

Times are in nanoseconds.
-/

namespace PageScript.Chrome

/-- A millisecond. -/
def millisecond : Nat := 1000000

/-- One evaluation of an expression. -/
structure Evaluation where
  duration : Nat
  /-- Its value, or why there is none. -/
  outcome : Except String Json

namespace Evaluation

/-- The value of an evaluation, unless it is `null` or the evaluation failed. -/
def value? (e : Evaluation) : Option Json :=
  match e.outcome with
  | .ok v => if v.isNull then none else some v
  | .error _ => none

end Evaluation

namespace Polling

/-- The pause between two evaluations. -/
def interval : Nat := 100 * millisecond

/-- The pause is not nothing. -/
theorem interval_pos : 0 < interval := by decide

/-- What polling came to. -/
structure Polled (σ : Type) where
  /-- The value, if there was one in time. -/
  value : Option Json
  time : Nat
  state : σ

/-- Evaluates, from `now` on, until there is a value or the deadline has passed. -/
def run {σ : Type} (evaluate : σ → Evaluation × σ) (deadline now : Nat) (s : σ) : Polled σ :=
  let (e, s) := evaluate s
  match e.value? with
  | some v => ⟨some v, now + e.duration, s⟩
  | none =>
    if deadline ≤ now + e.duration then ⟨none, now + e.duration, s⟩
    else run evaluate deadline (now + e.duration + interval) s
termination_by deadline - now
decreasing_by
  have := interval_pos
  omega

end Polling

end PageScript.Chrome
