import Mathlib.Data.List.Forall2
import PageScript.Proofs.Run.FailStop
import PageScript.Proofs.Run.Requirements

/-!
# What a run leaves in its books

The output of a run and the rules it registers grow by one entry for each step that extracts,
evaluates or captures and succeeds, in the order of the steps (`RunState.Gains`). What a step that
succeeds enters is said of its effect (`Effect.Enters`), and what fails enters nothing; the run
follows by induction along its steps.

**What it does not establish.** What an assistant returns is taken as it is; captures are entered
when the session ends, not by the steps.
-/

namespace PageScript

open Run

/-- One list became another by an entry at its end for each of some things, in their order. -/
def Grows (R : α → β → Prop) (things : List α) (old new : List β) : Prop :=
  ∃ added, new = old ++ added ∧ List.Forall₂ R things added

namespace Grows

variable {R : α → β → Prop} {xs ys : List α} {l m n : List β}

/-- A list that stays the same grows by nothing. -/
theorem nothing (same : m = l) : Grows R [] l m :=
  ⟨[], by rw [same, List.append_nil], .nil⟩

/-- One more entry grows a list by one. -/
theorem one {a : α} {b : β} (related : R a b) (entered : m = l ++ [b]) : Grows R [a] l m :=
  ⟨[b], entered, .cons related .nil⟩

/-- A list that grows twice grows by both, in their order. -/
theorem append (first : Grows R xs l m) (next : Grows R ys m n) : Grows R (xs ++ ys) l n := by
  obtain ⟨added, rfl, related⟩ := first
  obtain ⟨later, rfl, related'⟩ := next
  exact ⟨added ++ later, List.append_assoc l added later, List.rel_append related related'⟩

/-- What holds of each thing that belongs to one of the things holds of the entries. -/
theorem entries {P : β → Prop} (grows : Grows R xs l m) (each : ∀ a b, R a b → P b) :
    ∃ added, m = l ++ added ∧ ∀ b ∈ added, P b := by
  obtain ⟨added, rfl, related⟩ := grows
  refine ⟨added, rfl, ?_⟩
  induction related with
  | nil => exact List.forall_mem_nil P
  | cons first _ ih => exact List.forall_mem_cons.mpr ⟨each _ _ first, ih⟩

end Grows

/-! ## What an attempt is entered as -/

namespace Step

/-- A step that extracts. -/
def isExtract : Step → Bool
  | .extract _ => true
  | _ => false

/-- A step that evaluates. -/
def isEvaluate : Step → Bool
  | .evaluate _ => true
  | _ => false

/-- A step that captures. -/
def isCapture : Step → Bool
  | .capture _ => true
  | _ => false

end Step

namespace Attempt

variable (scene : Scene) (a : Attempt)

variable {scene a} in
/-- An attempt that ends with an error does not succeed. -/
theorem not_succeeds_of_error {e : Failure} {t : RunState} (fails : a.result scene = .error e t) :
    ¬ a.Succeeds scene := by
  rintro ⟨_, succeeds⟩
  cases fails.symm.trans succeeds

instance : Decidable (a.Succeeds scene) :=
  match ends : a.result scene with
  | .ok () t => .isTrue ⟨t, ends⟩
  | .error _ _ => .isFalse (not_succeeds_of_error ends)

/-- The prompt of an extraction is that of the step, the result what the assistant found for it. -/
def Extracted (e : Extraction) : Prop :=
  ∃ step t, a.step = .extract step ∧ step.prompt = some e.prompt ∧
    scene.assistant.extract e.prompt (scene.settings.elementTimeout step.timeout) a.begins =
      .ok (some e.result) t

/-- The script of an evaluation is that of the step as it is written, the result what the page
answers to the script with its variables filled in. -/
def Evaluated (e : Evaluation) : Prop :=
  ∃ step filled, a.step = .evaluate step ∧ step.script = some e.script ∧
    scene.vars.interpolate e.script = .ok filled ∧
    (scene.page.answer a.begins.history (.evaluate filled)).outcome = .ok e.result

/-- A rule has the address and the flags of the step, and is registered where the step begins. -/
def Registered (r : Registration) : Prop :=
  ∃ step, a.step = .capture step ∧ step.url = some (.string r.rule.url) ∧ r.rule.url ≠ "" ∧
    r.rule.download = step.download ∧ r.rule.pretty = step.pretty ∧
    r.after = a.begins.calls.length

end Attempt

namespace RunState

/-- Output and rules are as they were. -/
structure Keeps (s t : RunState) : Prop where
  output : t.output = s.output
  rules : t.rules = s.rules

/-- Output and rules have an entry more for each of some attempts that extracts, evaluates or
captures, and are otherwise as they were. -/
structure Gains (scene : Scene) (s : RunState) (done : List Attempt) (t : RunState) : Prop where
  extractions : Grows (Attempt.Extracted scene) (done.filter (·.step.isExtract))
    s.output.extractions t.output.extractions
  evaluations : Grows (Attempt.Evaluated scene) (done.filter (·.step.isEvaluate))
    s.output.evaluations t.output.evaluations
  captures : t.output.captures = s.output.captures
  rules : Grows Attempt.Registered (done.filter (·.step.isCapture)) s.rules t.rules

variable {scene : Scene} {s t u : RunState} {done later : List Attempt}

/-- Attempts of other kinds enter nothing. -/
theorem Keeps.gains (keeps : s.Keeps t) (extract : done.filter (·.step.isExtract) = [])
    (evaluate : done.filter (·.step.isEvaluate) = [])
    (capture : done.filter (·.step.isCapture) = []) : s.Gains scene done t where
  extractions := by
    rw [extract]
    exact .nothing (congrArg Output.extractions keeps.output)
  evaluations := by
    rw [evaluate]
    exact .nothing (congrArg Output.evaluations keeps.output)
  captures := congrArg Output.captures keeps.output
  rules := by
    rw [capture]
    exact .nothing keeps.rules

/-- What two parts of a run enter is entered one after the other. -/
theorem Gains.append (first : s.Gains scene done t) (next : t.Gains scene later u) :
    s.Gains scene (done ++ later) u where
  extractions := by
    rw [List.filter_append]
    exact first.extractions.append next.extractions
  evaluations := by
    rw [List.filter_append]
    exact first.evaluations.append next.evaluations
  captures := next.captures.trans first.captures
  rules := by
    rw [List.filter_append]
    exact first.rules.append next.rules

end RunState

/-! ## One effect -/

/-- What only goes outward keeps output and rules, however it ends. -/
theorem Run.Outward.keeps {x : Run α} (outward : Run.Outward x) {s t : RunState}
    (ends : left (x s) = t) : s.Keeps t :=
  ends ▸ ⟨(outward s).output, (outward s).rules⟩

namespace Effect

variable {scene : Scene} {s t : RunState}

/-- What an effect enters when it is had. -/
def Enters (scene : Scene) (s t : RunState) : Effect → Prop
  | .evaluate written filled => ∃ value,
    (scene.page.answer s.history (.evaluate filled)).outcome = .ok value ∧
      t.output = s.output.addEvaluation ⟨written, value⟩ ∧ t.rules = s.rules
  | .extract instruction timeout => ∃ value u,
    scene.assistant.extract instruction timeout s = .ok (some value) u ∧
      t.output = s.output.addExtraction ⟨instruction, value⟩ ∧ t.rules = s.rules
  | .capture rule => t.output = s.output ∧ t.rules = s.rules ++ [⟨s.calls.length, rule⟩]
  | .onPage _ | .act _ _ | .pause _ => s.Keeps t

/-- A call of the page only goes outward. -/
theorem onPage_outward (call : PageCall) : Run.Outward ((onPage call).run scene) :=
  (scene.page.ask_outward call).bind fun _ => outward_pure ()

/-- An instruction only goes outward, if the assistant does. -/
theorem act_outward (outward : scene.assistant.Outward) (instruction : String) (timeout : Nat) :
    Run.Outward ((act instruction timeout).run scene) := by
  refine (outward.act scene.vars instruction timeout).bind fun outcome => ?_
  cases judge instruction outcome with
  | ok _ => exact outward_pure ()
  | error e => exact outward_throw e

/-- An effect that succeeds enters what is said of it. -/
theorem run_enters (outward : scene.assistant.Outward) {e : Effect}
    (had : e.run scene s = .ok () t) : e.Enters scene s t := by
  cases e with
  | onPage call => exact (onPage_outward call).keeps (congrArg left had)
  | evaluate written filled =>
    obtain ⟨value, u, answered, added⟩ := bind_eq_ok.mp had
    have outcome := scene.page.outcome_ask (.evaluate filled) s
    have keeps := (scene.page.ask_outward (.evaluate filled)).keeps (congrArg left answered)
    rw [answered] at outcome
    cases added
    refine ⟨value, outcome.symm, ?_, keeps.rules⟩
    exact congrArg (Output.addEvaluation · ⟨written, value⟩) keeps.output
  | act instruction timeout =>
    exact (act_outward outward instruction timeout).keeps (congrArg left had)
  | extract instruction timeout =>
    obtain ⟨found, u, answered, added⟩ := bind_eq_ok.mp had
    have keeps := (outward.extract instruction timeout).keeps (congrArg left answered)
    cases found with
    | none => cases added
    | some value =>
      cases added
      refine ⟨value, u, answered, ?_, keeps.rules⟩
      exact congrArg (Output.addExtraction · ⟨instruction, value⟩) keeps.output
  | capture rule =>
    simp only [run, register] at had
    split at had
    · cases had
      exact ⟨rfl, rfl⟩
    · cases had
  | pause ms =>
    cases had
    exact ⟨rfl, rfl⟩

/-- An effect that fails enters nothing. -/
theorem keeps_of_error (outward : scene.assistant.Outward) {e : Effect} {f : Failure}
    (fails : e.run scene s = .error f t) : s.Keeps t := by
  cases e with
  | onPage call => exact (onPage_outward call).keeps (congrArg left fails)
  | evaluate written filled =>
    rcases bind_eq_error.mp fails with unanswered | ⟨value, u, -, added⟩
    · exact (scene.page.ask_outward (.evaluate filled)).keeps (congrArg left unanswered)
    · cases added
  | act instruction timeout =>
    exact (act_outward outward instruction timeout).keeps (congrArg left fails)
  | extract instruction timeout =>
    have outward := outward.extract instruction timeout
    rcases bind_eq_error.mp fails with unanswered | ⟨found, u, answered, missing⟩
    · exact outward.keeps (congrArg left unanswered)
    · cases found with
      | none =>
        cases missing
        exact outward.keeps (congrArg left answered)
      | some value => cases missing
  | capture rule =>
    simp only [run, register] at fails
    split at fails
    · cases fails
    · cases fails
      exact ⟨rfl, rfl⟩
  | pause ms => cases fails

end Effect

/-! ## One attempt -/

namespace Attempt

variable {scene : Scene} {a : Attempt} {t : RunState}

/-- An attempt that succeeds is entered. -/
theorem gains_of_ok (outward : scene.assistant.Outward) (succeeds : a.result scene = .ok () t) :
    a.begins.Gains scene [a] t := by
  obtain ⟨step, s⟩ := a
  simp only [result, Step.run] at succeeds
  cases has : step.effect scene.settings scene.vars with
  | error e =>
    rw [has] at succeeds
    cases succeeds
  | ok effect =>
    rw [has] at succeeds
    -- What the step holds tells its effect, and the effect what it enters.
    cases Step.effective_of_effect has with
    | unknown kind =>
      cases succeeds
      exact RunState.Keeps.gains ⟨rfl, rfl⟩ rfl rfl rfl
    | @extract step prompt given words =>
      obtain ⟨value, u, answered, output, rules⟩ := Effect.run_enters outward succeeds
      have entry : Extracted scene ⟨.extract step, s⟩ ⟨prompt, value⟩ :=
        ⟨step, u, rfl, given, answered⟩
      refine ⟨.one entry ?_, .nothing ?_, ?_, .nothing rules⟩
      all_goals rw [output]; rfl
    | @evaluate step script filled given nonempty fills kept =>
      obtain ⟨value, outcome, output, rules⟩ := Effect.run_enters outward succeeds
      have entry : Evaluated scene ⟨.evaluate step, s⟩ ⟨script, value⟩ :=
        ⟨step, filled, rfl, given, fills, outcome⟩
      refine ⟨.nothing ?_, .one entry ?_, ?_, .nothing rules⟩
      all_goals rw [output]; rfl
    | capture given nonempty download pretty =>
      obtain ⟨output, rules⟩ := Effect.run_enters outward succeeds
      have entry : Registered ⟨.capture _, s⟩ ⟨s.calls.length, _⟩ :=
        ⟨_, rfl, given, nonempty, download, pretty, rfl⟩
      refine ⟨.nothing ?_, .nothing ?_, ?_, .one entry rules⟩
      all_goals rw [output]
    | _ => exact RunState.Keeps.gains (Effect.run_enters outward succeeds) rfl rfl rfl

/-- An attempt that fails enters nothing. -/
theorem keeps_of_error (outward : scene.assistant.Outward) {e : Failure}
    (fails : a.result scene = .error e t) : a.begins.Keeps t := by
  unfold result Step.run at fails
  cases has : a.step.effect scene.settings scene.vars with
  | error e' =>
    rw [has] at fails
    cases fails
    exact ⟨rfl, rfl⟩
  | ok effect =>
    rw [has] at fails
    cases effect with
    | none => cases fails
    | some effect => exact effect.keeps_of_error outward fails

end Attempt

/-! ## Whole runs -/

namespace Run

variable {scene : Scene} {total : Nat}

/-- A run without steps fails, but leaves the state as going through no steps does. -/
theorem left_steps (all : List Step) (s : RunState) :
    left (steps scene all s) = left (stepsFrom scene all.length 0 all s) := by
  cases all with
  | nil => rfl
  | cons step rest => rfl

/-- The steps of a run that are done. -/
def completed (scene : Scene) (all : List Step) (s : RunState) : List Attempt :=
  (attempts scene all.length 0 all s).filter (·.Succeeds scene)

/-- A run enters what its attempts that succeed are to be entered as. -/
theorem stepsFrom_gains (outward : scene.assistant.Outward) (all : List Step) (done : Nat)
    (s : RunState) :
    s.Gains scene ((attempts scene total done all s).filter (·.Succeeds scene))
      (left (stepsFrom scene total done all s)) := by
  induction all generalizing done s with
  | nil => exact RunState.Keeps.gains ⟨rfl, rfl⟩ rfl rfl rfl
  | cons step rest ih =>
    let first := announced (done + 1) total step s
    have begun : s.Gains scene [] first.begins := RunState.Keeps.gains ⟨rfl, rfl⟩ rfl rfl rfl
    cases ends : first.result scene with
    | error e t =>
      have fails : decide (first.Succeeds scene) = false :=
        decide_eq_false (Attempt.not_succeeds_of_error ends)
      rw [stepsFrom_cons_of_error ends, attempts_cons_of_error ends, List.filter_singleton, fails]
      exact begun.append ((Attempt.keeps_of_error outward ends).gains rfl rfl rfl)
    | ok _ t =>
      have succeeds : decide (first.Succeeds scene) = true := decide_eq_true ⟨t, ends⟩
      obtain ⟨u, stepped, only, -⟩ := step_of_ok ends
      have told : t.Gains scene [] u := RunState.Keeps.gains ⟨only.output, only.rules⟩ rfl rfl rfl
      have entered := (begun.append (Attempt.gains_of_ok outward ends)).append told
      rw [stepsFrom_cons_of_ok stepped, attempts_cons_of_ok stepped, List.filter_cons,
        if_pos succeeds]
      exact entered.append (ih (done + 1) u)

/-- In a run that does all its steps whatever is attempted is done. -/
theorem Completes.completed_eq {all : List Step} {s : RunState}
    (complete : Completes scene all.length 0 all s) :
    Run.completed scene all s = attempts scene all.length 0 all s :=
  List.filter_eq_self.mpr fun a mem => decide_eq_true (complete.succeed a mem)

/-- What is done in a run that does all its steps. -/
theorem Completes.completed {all : List Step} {s : RunState}
    (complete : Completes scene all.length 0 all s) :
    (Run.completed scene all s).map (·.step) = all := by
  rw [complete.completed_eq]
  exact complete.tries

/-- What is done in a run that stops. -/
theorem Stops.completed {all : List Step} {s : RunState} {before : List Attempt}
    {failing : Attempt} {rest : List Step}
    (stops : Stops scene all.length 0 all s before failing rest) :
    Run.completed scene all s = before := by
  obtain ⟨e, t, fails⟩ := stops.fails
  have each : before.filter (·.Succeeds scene) = before :=
    List.filter_eq_self.mpr fun a mem => decide_eq_true (stops.succeed a mem)
  rw [Run.completed, stops.tries, List.filter_append, each, List.filter_singleton,
    decide_eq_false (Attempt.not_succeeds_of_error fails)]
  exact List.append_nil before

/-- The books of a run, however it ends. Output and rules grow by one entry for each step that
extracts, evaluates or captures and is done, in their order, and the captures stay as they are. What
is done are all steps if the run succeeds, and else the steps before the one it fails with; those
after this one are not even attempted. -/
theorem steps_account (outward : scene.assistant.Outward) (all : List Step) (s : RunState) :
    let done := completed scene all s
    let ends := steps scene all s
    s.Gains scene done (left ends) ∧
      ((outcome ends = .ok () ∧ done.map (·.step) = all) ∨
        (all = [] ∧ done = [] ∧ outcome ends = .error noSteps) ∨
        ∃ failing rest e,
          all = done.map (·.step) ++ failing.step :: rest ∧
          attempts scene all.length 0 all s = done ++ [failing] ∧
          outcome (failing.result scene) = .error e ∧ outcome ends = .error e) := by
  intro done ends
  refine ⟨?_, ?_⟩
  · rw [left_steps]
    exact stepsFrom_gains outward all 0 s
  cases all with
  | nil => exact .inr (.inl ⟨rfl, rfl, rfl⟩)
  | cons first others =>
    have whole : ends = stepsFrom scene (first :: others).length 0 (first :: others) s := rfl
    rw [whole]
    rcases completes_or_stops outward (first :: others) 0 s with
      complete | ⟨before, failing, rest, stops⟩
    · exact .inl ⟨complete.result, complete.completed⟩
    · obtain ⟨e, t, fails⟩ := stops.fails
      have failed : outcome (failing.result scene) = .error e := by
        rw [fails]
        rfl
      have same := stops.result rest
      rw [← stops.parts] at same
      have before_done : before = done := stops.completed.symm
      subst before_done
      refine .inr (.inr ⟨failing, rest, e, stops.parts, stops.tries, failed, ?_⟩)
      rw [same, failed]

/-- Of two extractions only the first finds something, and the capture after them is not reached. -/
theorem steps_account_secondExtraction :
    let page : Page := ⟨fun _ _ => ⟨0, .ok .null⟩⟩
    let assistant : Assistant := .answering (fun _ => .ok none) fun h =>
      .ok (if h.calls.isEmpty then some (.bool true) else none)
    let scene : Scene := ⟨.ofParams .absent, .empty, page, assistant, true⟩
    let capture := fun url => Step.capture ⟨some (.string url), true, false⟩
    let all := [.extract ⟨some "a", none⟩, capture "/api", .extract ⟨some "b", none⟩, capture "/b"]
    let s := RunState.initial ⟨false, .reliable⟩
    let t := left (steps scene all s)
    scene.assistant.Outward ∧ s.Gains scene (completed scene all s) t ∧
      t.output.extractions.map (·.prompt) = ["a"] ∧ t.rules = [⟨1, ⟨"/api", true, false⟩⟩] := by
  intro page assistant scene capture all s t
  have outward : scene.assistant.Outward := Assistant.answering_outward _ _
  refine ⟨outward, (steps_account outward all s).1, ?_⟩
  decide +kernel

end Run

end PageScript
