import Mathlib.Algebra.Order.Floor.Div
import PageScript.Proofs.Chrome.Orders

/-!
# How long it is asked again

Polling is a sequence of evaluations with a pause after each, and where it stops follows from their
answers and durations alone: at the first that gives a value, or else at the first that ends at the
deadline or after it (`run_stops`). `Exact` says what that comes to within a limit: how many
evaluations there are, which of them ends it and with what. It holds of every sequence of
evaluations, and of those that a call makes on the page (`polling_exact`).

**What it does not establish.** That a page answers at all: an evaluation takes the time that its
answer takes.
-/

namespace PageScript.Chrome

namespace Evaluation

/-- A value is an answer that is not `null`. -/
theorem value?_eq_some_iff {e : Evaluation} {v : Json} :
    e.value? = some v ↔ e.outcome = .ok v ∧ v ≠ .null := by
  unfold value?
  split
  · rename_i w answered
    rw [answered, Except.ok.injEq]
    cases w <;> simp +contextual [Json.isNull, eq_comm]
  · rename_i failed
    simp [failed]

/-- An evaluation without a value gave `null` or failed. -/
theorem value?_eq_none_iff {e : Evaluation} :
    e.value? = none ↔ e.outcome = .ok .null ∨ ∃ reason, e.outcome = .error reason := by
  unfold value?
  split
  · rename_i w answered
    cases w <;> simp [answered, Json.isNull]
  · rename_i failed
    simp [failed]

end Evaluation

namespace Polling

variable {σ : Type}

/-! ## Sequences of evaluations -/

/-- The state after so many evaluations. -/
def stateAfter (evaluate : σ → Evaluation × σ) (made : Nat) (s : σ) : σ :=
  (fun s => (evaluate s).2)^[made] s

/-- The evaluations that are made one after the other. -/
def answersFrom (evaluate : σ → Evaluation × σ) (s : σ) (k : Nat) : Evaluation :=
  (evaluate (stateAfter evaluate k s)).1

/-- When each of a sequence of evaluations ends, the first one beginning at `start`. -/
def ended (answers : Nat → Evaluation) (start : Nat) : Nat → Nat
  | 0 => start + (answers 0).duration
  | k + 1 => ended answers start k + interval + (answers (k + 1)).duration

/-- After the first evaluation and its pause, polling goes on with the rest. -/
theorem ended_succ (answers : Nat → Evaluation) (start k : Nat) :
    ended answers start (k + 1) =
      ended (fun j => answers (j + 1)) (start + (answers 0).duration + interval) k := by
  induction k with
  | zero => rfl
  | succ k ih => rw [ended, ih, ended]

/-- Each evaluation before makes the end of one later by a pause at least. -/
theorem le_ended (answers : Nat → Evaluation) (start k : Nat) :
    start + interval * k ≤ ended answers start k := by
  induction k with
  | zero => exact Nat.le_add_right ..
  | succ k ih =>
    rw [ended, Nat.mul_succ]
    omega

/-- Evaluation `k` of a sequence is where polling stops. -/
structure Stops (answers : Nat → Evaluation) (start deadline k : Nat) : Prop where
  vain : ∀ j < k, (answers j).value? = none
  early : ∀ j < k, ended answers start j < deadline
  last : (answers k).value? = none → deadline ≤ ended answers start k

/-- Polling stops at the first evaluation if it gives a value or ends too late. -/
theorem Stops.first {answers : Nat → Evaluation} {start deadline : Nat}
    (last : (answers 0).value? = none → deadline ≤ start + (answers 0).duration) :
    Stops answers start deadline 0 where
  vain j before := absurd before (Nat.not_lt_zero j)
  early j before := absurd before (Nat.not_lt_zero j)
  last := last

/-- An evaluation without a value that ends early puts the stop off by one. -/
theorem Stops.cons {answers : Nat → Evaluation} {start deadline k : Nat}
    (vain : (answers 0).value? = none) (early : start + (answers 0).duration < deadline)
    (stops : Stops (fun j => answers (j + 1)) (start + (answers 0).duration + interval)
      deadline k) :
    Stops answers start deadline (k + 1) where
  vain
    | 0, _ => vain
    | j + 1, before => stops.vain j (Nat.lt_of_succ_lt_succ before)
  early
    | 0, _ => early
    | j + 1, before => ended_succ answers start j ▸ stops.early j (Nat.lt_of_succ_lt_succ before)
  last nothing := ended_succ answers start k ▸ stops.last nothing

/-- Polling makes the evaluations up to the one where it stops and ends as that one does. -/
theorem run_stops (evaluate : σ → Evaluation × σ) (deadline now : Nat) (s : σ) :
    ∃ k, Stops (answersFrom evaluate s) now deadline k ∧
      run evaluate deadline now s = ⟨(answersFrom evaluate s k).value?,
        ended (answersFrom evaluate s) now k, stateAfter evaluate (k + 1) s⟩ := by
  fun_induction run evaluate deadline now s with
  | case1 now s e s' evaluated v found =>
    have first : answersFrom evaluate s 0 = e := congrArg Prod.fst evaluated
    have next : stateAfter evaluate 1 s = s' := congrArg Prod.snd evaluated
    refine ⟨0, .first fun nothing => ?_, ?_⟩
    · rw [first, found] at nothing
      cases nothing
    · simp only [evaluated, found, ended, first, next]
  | case2 now s e s' evaluated nothing late =>
    have first : answersFrom evaluate s 0 = e := congrArg Prod.fst evaluated
    have next : stateAfter evaluate 1 s = s' := congrArg Prod.snd evaluated
    refine ⟨0, .first fun _ => ?_, ?_⟩
    · rwa [first]
    · simp only [evaluated, nothing, late, if_true, ended, first, next]
  | case3 now s e s' evaluated nothing early ih =>
    obtain ⟨k, stops, runs⟩ := ih
    have first : answersFrom evaluate s 0 = e := congrArg Prod.fst evaluated
    have next (j : Nat) : stateAfter evaluate (j + 1) s = stateAfter evaluate j s' := by
      rw [stateAfter, Function.iterate_succ_apply, evaluated, stateAfter]
    have rest : answersFrom evaluate s' = fun j => answersFrom evaluate s (j + 1) :=
      funext fun j => congrArg (fun s => (evaluate s).1) (next j).symm
    rw [rest, ← first] at stops
    refine ⟨k + 1, .cons (first ▸ nothing) (by rw [first]; omega) stops, ?_⟩
    simp only [evaluated, nothing, early, if_false]
    rw [runs, ended_succ, next, rest, first]

/-! ## What polling comes to -/

/-- What polling for a limit comes to when it makes so many evaluations of a sequence and ends with
`value` at `time`. -/
structure Exact (answers : Nat → Evaluation) (start limit made : Nat) (value : Option Json)
    (time : Nat) : Prop where
  least : 1 ≤ made
  most : made ≤ limit ⌈/⌉ interval + 1
  /-- The first value ends it at once. -/
  found : ∀ k < made, ∀ v, (answers k).outcome = .ok v → v ≠ .null →
    made = k + 1 ∧ value = some v ∧ time = ended answers start k
  /-- There is no value in the end exactly if each evaluation gave `null` or failed. -/
  none_iff : value = none ↔ ∀ k < made,
    (answers k).outcome = .ok .null ∨ ∃ reason, (answers k).outcome = .error reason
  /-- It is not given up before the limit has passed. -/
  patient : value = none → start + limit ≤ time ∧ time = ended answers start (made - 1)
  /-- As long as there is time, an evaluation that gave `null` or failed is followed by another. -/
  again : ∀ k < made,
    ((answers k).outcome = .ok .null ∨ ∃ reason, (answers k).outcome = .error reason) →
    ended answers start k < start + limit → k + 1 < made

/-- An evaluation before the last ends before the deadline, and each takes a pause at least. -/
theorem Stops.le_ceilDiv {answers : Nat → Evaluation} {start limit k : Nat}
    (stops : Stops answers start (start + limit) k) : k ≤ limit ⌈/⌉ interval := by
  cases k with
  | zero => exact Nat.zero_le _
  | succ k =>
    have early := stops.early k (Nat.lt_succ_self k)
    have passed := le_ended answers start k
    refine Nat.lt_of_not_le fun few => ?_
    have enough : limit ≤ interval * k := (ceilDiv_le_iff_le_mul interval_pos).mp few
    omega

/-- Where polling stops, it is known what it comes to. -/
theorem Stops.exact {answers : Nat → Evaluation} {start limit k : Nat}
    (stops : Stops answers start (start + limit) k) :
    Exact answers start limit (k + 1) (answers k).value? (ended answers start k) where
  least := Nat.succ_pos k
  most := Nat.succ_le_succ stops.le_ceilDiv
  found j before v answered notNull := by
    have value : (answers j).value? = some v :=
      Evaluation.value?_eq_some_iff.mpr ⟨answered, notNull⟩
    obtain earlier | rfl := Nat.lt_succ_iff_lt_or_eq.mp before
    · rw [stops.vain j earlier] at value
      cases value
    · exact ⟨rfl, value, rfl⟩
  none_iff := by
    simp only [← Evaluation.value?_eq_none_iff]
    refine ⟨fun nothing j before => ?_, fun vain => vain k (Nat.lt_succ_self k)⟩
    obtain earlier | rfl := Nat.lt_succ_iff_lt_or_eq.mp before
    · exact stops.vain j earlier
    · exact nothing
  patient nothing := ⟨stops.last nothing, rfl⟩
  again j before vain early := by
    refine Nat.lt_of_not_le fun last => ?_
    obtain rfl : j = k := by omega
    have late := stops.last (Evaluation.value?_eq_none_iff.mpr vain)
    omega

/-- A sequence of evaluations as something to evaluate, the state being how many were made. -/
def inTurn (answers : Nat → Evaluation) (made : Nat) : Evaluation × Nat :=
  (answers made, made + 1)

theorem stateAfter_inTurn (answers : Nat → Evaluation) (made : Nat) :
    stateAfter (inTurn answers) made 0 = made := by
  induction made with
  | zero => rfl
  | succ made ih => rw [stateAfter, Function.iterate_succ_apply', ← stateAfter, ih, inTurn]

theorem answersFrom_inTurn (answers : Nat → Evaluation) :
    answersFrom (inTurn answers) 0 = answers :=
  funext fun k => congrArg answers (stateAfter_inTurn answers k)

end Polling

namespace Talk

theorem orders_stateAfter (peer : Peer) (expression : String) (made : Nat) (c : Connection) :
    (Polling.stateAfter (evaluation peer expression) made c).orders =
      c.orders ++ List.replicate made (.evaluate expression) := by
  induction made with
  | zero => exact (List.append_nil _).symm
  | succ made ih =>
    rw [Polling.stateAfter, Function.iterate_succ_apply', orders_evaluation, ← Polling.stateAfter,
      ih, List.append_assoc, ← List.replicate_succ']

end Talk

/-- Whatever evaluations give and however long each takes, polling makes one at least, and no more
than fit with their pauses into the limit and one. The first value ends it at once; it is given up
exactly if no evaluation gave one, at the limit or after it, and failures alone do not end it. A
call that polls the page evaluates its expression that often, and ends with the value or at the
limit. -/
theorem polling_exact :
    (∀ (answers : Nat → Evaluation) (start limit : Nat),
      let polled := Polling.run (Polling.inTurn answers) (start + limit) start 0
      Polling.Exact answers start limit polled.state polled.value polled.time) ∧
    ∀ (peer : Peer) (expression : String) (timeout : Nat) (what : String) (c : Connection),
      ∃ made value c',
        Polling.Exact (Polling.answersFrom (Talk.evaluation peer expression) c) c.time
          (timeout * millisecond) made value c'.time ∧
        c'.orders = c.orders ++ List.replicate made (.evaluate expression) ∧
        (∀ v, value = some v → Talk.poll peer expression timeout what c = .ok v c') ∧
        (value = none →
          Talk.poll peer expression timeout what c = .error (.timeout timeout what) c') := by
  refine ⟨fun answers start limit => ?_, fun peer expression timeout what c => ?_⟩
  · obtain ⟨k, stops, runs⟩ := Polling.run_stops (Polling.inTurn answers) (start + limit) start 0
    rw [Polling.answersFrom_inTurn] at stops runs
    rw [Polling.stateAfter_inTurn] at runs
    rw [runs]
    exact stops.exact
  · obtain ⟨k, stops, runs⟩ := Polling.run_stops (Talk.evaluation peer expression)
      (c.time + timeout * millisecond) c.time c
    refine ⟨_, _, { Polling.stateAfter (Talk.evaluation peer expression) (k + 1) c with
      time := _ }, stops.exact, ?_, fun v found => ?_, fun nothing => ?_⟩
    · exact Talk.orders_stateAfter peer expression (k + 1) c
    · rw [Talk.poll, runs, Talk.conclude, found]
    · rw [Talk.poll, runs, Talk.conclude, nothing]

end PageScript.Chrome
