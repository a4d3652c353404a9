import PageScript.Proofs.Run.FailStop
import PageScript.Proofs.Run.Requirements

/-!
# Faults are found before anything is touched

A failure that lies in the job itself (`Failure.isValidation`) comes from the checks of a step and
from nowhere else, as long as page and assistant do not fail in that way on their own. So a step
that ends with such a failure has not begun: `validation_touches_nothing` says that it left
everything as it was and asked neither page nor assistant.

**What it does not establish.** That page and assistant do not fail in this way on their own is
assumed; for the assistant of the program it is not so.
-/

namespace PageScript

/-- A page that never fails as if the job were at fault. -/
def Page.BlamesNoJob (page : Page) : Prop :=
  ∀ h call e, (page.answer h call).outcome = .error e → e.isValidation = false

/-- An assistant that never fails as if the job were at fault. -/
structure Assistant.BlamesNoJob (a : Assistant) : Prop where
  act : ∀ vars instruction timeout s e t,
    a.act vars instruction timeout s = .error e t → e.isValidation = false
  extract : ∀ instruction timeout s e t,
    a.extract instruction timeout s = .error e t → e.isValidation = false

/-- An assistant whose answers blame no job blames none. -/
theorem Assistant.answering_blamesNoJob {act : History → Except Failure (Option ActOutcome)}
    {extract : History → Except Failure (Option Json)}
    (acts : ∀ h e, act h = .error e → e.isValidation = false)
    (extracts : ∀ h e, extract h = .error e → e.isValidation = false) :
    (answering act extract).BlamesNoJob where
  act vars instruction timeout s e t fails := by
    have failed := outcome_respond
      (.act instruction timeout (vars.referencedNames instruction)) act s
    exact acts _ e (failed.symm.trans (congrArg Run.outcome fails))
  extract instruction timeout s e t fails := by
    have failed := outcome_respond (.extract instruction timeout) extract s
    exact extracts _ e (failed.symm.trans (congrArg Run.outcome fails))

namespace Run

/-- A computation that never fails as if the job were at fault. -/
def BlamesNoJob (x : Run α) : Prop :=
  ∀ s e t, x s = .error e t → e.isValidation = false

theorem blamesNoJob_pure (a : α) : BlamesNoJob (pure a : Run α) := by
  rintro s e t ⟨⟩

theorem blamesNoJob_modify (f : RunState → RunState) : BlamesNoJob (modify f) := by
  rintro s e t ⟨⟩

theorem blamesNoJob_throw {e : Failure} (other : e.isValidation = false) :
    BlamesNoJob (throw e : Run α) := by
  rintro s _ t ⟨⟩
  exact other

/-- What blames no job, one after the other, blames none. -/
theorem BlamesNoJob.bind {x : Run α} {f : α → Run β} (first : BlamesNoJob x)
    (next : ∀ a, BlamesNoJob (f a)) : BlamesNoJob (x >>= f) := by
  intro s e t fails
  rcases bind_eq_error.mp fails with fails | ⟨a, u, -, fails⟩
  · exact first s e t fails
  · exact next a u e t fails

end Run

open Run

/-- A page that blames no job is asked without blaming one. -/
theorem Page.BlamesNoJob.ask {page : Page} (blames : page.BlamesNoJob) (call : PageCall) :
    Run.BlamesNoJob (page.ask call) := by
  intro s e t fails
  have failed := page.outcome_ask call s
  rw [fails] at failed
  exact blames _ _ e failed.symm

theorem Page.BlamesNoJob.askWithin {page : Page} (blames : page.BlamesNoJob) (ms : Nat)
    (what : String) (call : PageCall) : Run.BlamesNoJob (page.askWithin ms what call) := by
  intro s e t fails
  unfold Page.askWithin at fails
  split at fails
  · exact blames.ask call s e t fails
  · cases fails
    rfl

namespace Effect

variable {scene : Scene}

/-- A judgement of an instruction blames no job. -/
theorem judge_blamesNoJob (instruction : String) (outcome : Option ActOutcome) :
    Run.BlamesNoJob (match judge instruction outcome with
      | .ok () => (return () : Run Unit)
      | .error e => throw e) := by
  cases outcome with
  | none => exact blamesNoJob_throw rfl
  | some outcome =>
    rw [judge]
    cases outcome.success with
    | true => exact blamesNoJob_pure _
    | false => exact blamesNoJob_throw rfl

/-- An effect other than an instruction never fails as if the job were at fault, if what it asks
does not. -/
theorem run_blamesNoJob_of_not_act (page : scene.page.BlamesNoJob)
    (extract : ∀ instruction timeout, Run.BlamesNoJob (scene.assistant.extract instruction timeout))
    {e : Effect} (other : ∀ instruction timeout, e ≠ .act instruction timeout) :
    Run.BlamesNoJob (e.run scene) := by
  cases e with
  | onPage call => exact (page.ask call).bind fun _ => blamesNoJob_pure _
  | evaluate written filled => exact (page.ask _).bind fun _ => blamesNoJob_modify _
  | act instruction timeout => exact absurd rfl (other instruction timeout)
  | extract instruction timeout =>
    refine (extract _ _).bind fun found => ?_
    cases found with
    | none => exact blamesNoJob_throw rfl
    | some value => exact blamesNoJob_modify _
  | capture rule =>
    intro s e t fails
    simp only [run, register] at fails
    split at fails
    · cases fails
    · cases fails
      rfl
  | pause ms => exact blamesNoJob_modify _

/-- Having an effect never fails as if the job were at fault. -/
theorem run_blamesNoJob (page : scene.page.BlamesNoJob)
    (assistant : scene.assistant.BlamesNoJob) (e : Effect) : Run.BlamesNoJob (e.run scene) := by
  by_cases act : ∃ instruction timeout, e = .act instruction timeout
  · obtain ⟨instruction, timeout, rfl⟩ := act
    exact Run.BlamesNoJob.bind (assistant.act _ _ _) (judge_blamesNoJob instruction)
  · refine run_blamesNoJob_of_not_act page assistant.extract ?_
    intro instruction timeout same
    exact act ⟨instruction, timeout, same⟩

end Effect

namespace Step

variable {scene : Scene} {step : Step} {s t : RunState} {e : Failure}

/-- A step with a fault in it fails with this fault and does nothing else. -/
theorem run_of_effect_error (fails : step.effect scene.settings scene.vars = .error e) :
    step.run scene s = .error e s := by
  rw [run, fails]
  rfl

/-- A failure that lies in the job comes from the checks of the step. -/
theorem effect_of_run_error (page : scene.page.BlamesNoJob)
    (assistant : scene.assistant.BlamesNoJob) (fails : step.run scene s = .error e t)
    (fault : e.isValidation = true) : step.effect scene.settings scene.vars = .error e := by
  unfold run at fails
  cases has : step.effect scene.settings scene.vars with
  | error e' =>
    rw [has] at fails
    cases fails
    rfl
  | ok effect =>
    rw [has] at fails
    cases effect with
    | none => cases fails
    | some effect =>
      have other := effect.run_blamesNoJob page assistant s e t fails
      rw [other] at fault
      cases fault

/-- A step fails with a fault of the job exactly if it does not pass its checks. -/
theorem run_fails_validation_iff (page : scene.page.BlamesNoJob)
    (assistant : scene.assistant.BlamesNoJob) :
    step.run scene s = .error e t ∧ e.isValidation = true ↔
      step.effect scene.settings scene.vars = .error e ∧ t = s := by
  constructor
  · rintro ⟨fails, fault⟩
    have checked := effect_of_run_error page assistant fails fault
    rw [run_of_effect_error checked] at fails
    cases fails
    exact ⟨checked, rfl⟩
  · rintro ⟨checked, rfl⟩
    exact ⟨run_of_effect_error checked, isValidation_of_effect checked⟩

end Step

/-- A step that fails with a fault of the job left the state as it was: it made no call, registered
no rule and added nothing to the output. It asked neither page nor assistant, for it fails in this
way whatever they are. -/
theorem validation_touches_nothing {scene : Scene} (page : scene.page.BlamesNoJob)
    (assistant : scene.assistant.BlamesNoJob) {step : Step} {s t : RunState} {e : Failure}
    (fails : step.run scene s = .error e t) (fault : e.isValidation = true) :
    t = s ∧ step.calls scene s = [] ∧
      ∀ page assistant observed s,
        step.run ⟨scene.settings, scene.vars, page, assistant, observed⟩ s = .error e s := by
  obtain ⟨checked, same⟩ := (Step.run_fails_validation_iff page assistant).mp ⟨fails, fault⟩
  refine ⟨same, ?_, fun page assistant observed s => ?_⟩
  · rw [Step.calls, checked]
  · exact Step.run_of_effect_error checked

/-- A text with a placeholder that has no value, on a page that fails in its own way. -/
theorem validation_touches_nothing_missingVariable :
    let page : Page := ⟨fun _ _ => ⟨0, .error (.elementNotFound "css=#go")⟩⟩
    let assistant : Assistant := .answering (fun _ => .ok none) fun _ => .error (.model "gone")
    let scene : Scene := ⟨.ofParams .absent, ⟨[("USER", "ada")]⟩, page, assistant, true⟩
    let step : Step := .text ⟨some "%USER%:%TOKEN%", none⟩
    let s := RunState.initial ⟨true, .reliable⟩
    let e := Failure.missingVariable "TOKEN"
    page.BlamesNoJob ∧ assistant.BlamesNoJob ∧ step.run scene s = .error e s ∧
      e.isValidation = true ∧
      ∀ page assistant observed s,
        step.run ⟨scene.settings, scene.vars, page, assistant, observed⟩ s = .error e s := by
  intro page assistant scene step s e
  have pages : page.BlamesNoJob := by
    rintro h call _ ⟨⟩
    rfl
  have assistants : assistant.BlamesNoJob := by
    refine Assistant.answering_blamesNoJob (fun _ _ => nofun) ?_
    rintro _ _ ⟨⟩
    rfl
  have pieces : Placeholder.pieces "%USER%:%TOKEN%".toList =
      [.name "USER".toList, .literal ':', .name "TOKEN".toList] := by decide +kernel
  have missing : scene.vars.interpolate "%USER%:%TOKEN%" = .error e := by
    rw [Variables.interpolate, pieces]
    rfl
  have checked : step.effect scene.settings scene.vars = .error e := by
    show (scene.vars.interpolate "%USER%:%TOKEN%" >>= _) = _
    rw [missing]
    rfl
  have fails : step.run scene s = .error e s := Step.run_of_effect_error checked
  obtain ⟨-, -, always⟩ := validation_touches_nothing pages assistants fails rfl
  exact ⟨pages, assistants, fails, rfl, always⟩

end PageScript
