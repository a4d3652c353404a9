import PageScript.Proofs.Model.Outward
import PageScript.Proofs.Run.Faults
import PageScript.Proofs.Variables.Values

/-!
# What a model chooses

To carry out an instruction a model looks at the page, is offered the names of the instruction that
have a value, and chooses an action (`choose`). Only then are values put in, and only this can fail
as if the job were at fault.

Two things follow. A text whose placeholders are all offered can be filled in, so that an action
with such a text never fails for want of a value (`offered_names_resolve`). But an action may hold a
name without a value, and by then the page has been looked at: a step that fails with a fault of the
job has touched nothing, or it is an instruction for which the page was looked at once and whose
action could not be filled in (`validation_before_acting`).

**What it does not establish.** Which action a model chooses is left open, and so is whether it
suits the instruction.
-/

namespace PageScript

open Run

/-- The text that an action puts in, before it is filled in. -/
def PlannedAction.typed? : PlannedAction → Option String
  | .fill _ value _ | .type _ value _ => some value
  | _ => Option.none

namespace Model.Client

variable {client : Client} {page : Page} {vars : Variables} {timeout : Nat}
  {action : PlannedAction} {instruction : String} {s t : RunState} {e : Failure}

/-! ## Planning an action -/

/-- The calls of an action cannot be made out exactly if its text cannot be filled in. -/
theorem plan_eq_error_iff :
    plan vars timeout action = .error e ↔
      ∃ value, action.typed? = some value ∧ vars.interpolate value = .error e := by
  cases action with
  | fill element value description =>
    cases filled : vars.interpolate value <;>
      simp [plan, PlannedAction.typed?, filled, bind, Except.bind, pure, Except.pure]
  | type element value description =>
    cases filled : vars.interpolate value <;>
      simp [plan, PlannedAction.typed?, filled, bind, Except.bind, pure, Except.pure]
  | click | press | scroll | none => simp [plan, PlannedAction.typed?]

/-- The calls of an action blame no job, if the page does not. -/
theorem makeCalls_blamesNoJob (blames : page.BlamesNoJob) (calls : List PageCall) :
    Run.BlamesNoJob (makeCalls page calls) := by
  induction calls with
  | nil => exact blamesNoJob_pure ()
  | cons call rest ih => exact (blames.ask call).bind fun _ => ih

/-- An action that cannot be planned fails before it makes a call. -/
theorem perform_of_plan_error (fails : plan vars timeout action = .error e) :
    perform page vars timeout action s = .error e s := by
  unfold perform
  rw [fails]
  rfl

/-- An action whose text can be filled in has an outcome, whatever the page makes of its calls. -/
theorem perform_of_plan_ok (blames : page.BlamesNoJob) {calls : List PageCall}
    (planned : plan vars timeout action = .ok calls) (s : RunState) :
    ∃ outcome t, perform page vars timeout action s = .ok outcome t := by
  unfold perform
  rw [planned]
  dsimp only
  rw [bind_apply, attempt]
  cases made : makeCalls page calls s with
  | ok _ t => exact ⟨_, t, rfl⟩
  | error e t =>
    have other := makeCalls_blamesNoJob blames calls s e t made
    cases e with
    | missingVariable name => cases other
    | _ => exact ⟨_, t, rfl⟩

/-! ## Asking for an action -/

/-- Looks at the page and has the model choose an action; there is none if its answer is none. -/
def choose (client : Client) (page : Page) (vars : Variables) (instruction : String) :
    Run (Option PlannedAction) := do
  let snapshot ← page.ask (.evaluate snapshotScript)
  let messages :=
    actMessages instruction snapshot (vars.referencedNames instruction) client.instructions
  let reply ← client.complete "act" messages
  return (PlannedAction.ofJson reply).toOption

/-- An instruction is carried out by performing the action that was chosen. -/
theorem act_eq :
    client.act page vars instruction timeout = (do
      match ← client.choose page vars instruction with
      | none => return none
      | some action =>
        let outcome ← perform page vars timeout action
        return some outcome) := by
  unfold act choose
  simp only [bind_assoc, pure_bind]
  congr 1
  funext snapshot
  congr 1
  funext reply
  cases PlannedAction.ofJson reply <;> rfl

/-- An answer that cannot be used is not blamed on the job. -/
theorem answerOf_blamesNoJob {status : Nat} {reply : Json}
    (fails : answerOf status reply = .error e) :
    e.isValidation = false := by
  unfold answerOf at fails
  cases read : content status reply with
  | error e' =>
    obtain rfl : e' = e := by simpa [read, bind, Except.bind] using fails
    unfold content at read
    split at read
    · split at read
      · cases read
      · cases read
        rfl
    · cases read
      rfl
  | ok text =>
    simp only [read, bind, Except.bind, document] at fails
    split at fails
    · cases fails
    · cases fails
      rfl

/-- Completing blames no job. -/
theorem complete_blamesNoJob (purpose : String) (messages : List Message) :
    Run.BlamesNoJob (client.complete purpose messages) := by
  refine Run.BlamesNoJob.bind ?_ fun answer => Run.BlamesNoJob.bind ?_ fun _ => ?_
  · intro s e t fails
    unfold send at fails
    dsimp only at fails
    repeat' split at fails
    all_goals cases fails
    all_goals rfl
  · intro s e t fails
    unfold record at fails
    split at fails <;> cases fails
  · cases answered : answerOf answer.1 answer.2 with
    | ok v => exact blamesNoJob_pure v
    | error e => exact blamesNoJob_throw (answerOf_blamesNoJob answered)

/-- Choosing an action blames no job, if the page does not. -/
theorem choose_blamesNoJob (blames : page.BlamesNoJob) :
    Run.BlamesNoJob (client.choose page vars instruction) :=
  (blames.ask _).bind fun _ => (complete_blamesNoJob _ _).bind fun _ => blamesNoJob_pure _

/-- Extracting blames no job, if the page does not. -/
theorem extract_blamesNoJob (blames : page.BlamesNoJob) (instruction : String) (timeout : Nat) :
    Run.BlamesNoJob (client.extract page instruction timeout) :=
  (blames.askWithin _ _ _).bind fun _ => (complete_blamesNoJob _ _).bind fun _ => blamesNoJob_pure _

/-- What asking a model leaves alone: the calls, the rules, the output and the lines for the host.
-/
structure Aloof (s t : RunState) : Prop where
  calls : t.calls = s.calls
  rules : t.rules = s.rules
  output : t.output = s.output
  reporter : t.reporter = s.reporter

/-- What leaves calls, rules, output and lines alone can be put together. -/
theorem aloof_course : Course Aloof where
  refl _ := ⟨rfl, rfl, rfl, rfl⟩
  trans h h' := ⟨h'.calls.trans h.calls, h'.rules.trans h.rules, h'.output.trans h.output,
    h'.reporter.trans h.reporter⟩

/-- A client that asks its model leaves calls, rules, output and lines alone. -/
theorem asks_aloof (client : Client) : client.Asks Aloof where
  toCourse := aloof_course
  sends request s := by
    obtain same | same := client.left_send request s <;> rw [same] <;> exact ⟨rfl, rfl, rfl, rfl⟩
  records request reply s := by
    obtain ⟨inference, files, lines, same⟩ := client.left_record request reply s
    rw [same]
    exact ⟨rfl, rfl, rfl, rfl⟩

/-- To choose an action the page is looked at once, and nothing else of the run is touched. -/
theorem aloof_choose (client : Client) (page : Page) (vars : Variables) (instruction : String)
    (s : RunState) :
    Aloof (s.addCall (.page (.evaluate snapshotScript)))
      (left (client.choose page vars instruction s)) := by
  refine left_bind (P := Aloof (s.addCall (.page (.evaluate snapshotScript)))) ?_ ?_
  · rw [page.left_ask]
    exact ⟨rfl, rfl, rfl, rfl⟩
  · intro snapshot t looked
    have asked : Leads Aloof (do
        let reply ← client.complete "act"
          (actMessages instruction snapshot (vars.referencedNames instruction) client.instructions)
        return (PlannedAction.ofJson reply).toOption) :=
      aloof_course.leads_bind ((asks_aloof client).complete _ _) fun _ => aloof_course.leads_pure _
    exact aloof_course.trans looked (asked t)

/-! ## Carrying out an instruction -/

/-- Carrying out an instruction fails as if the job were at fault exactly if the text of the action
that was chosen cannot be filled in. -/
theorem act_fails_validation_iff (blames : page.BlamesNoJob) :
    client.act page vars instruction timeout s = .error e t ∧ e.isValidation = true ↔
      ∃ action, client.choose page vars instruction s = .ok (some action) t ∧
        plan vars timeout action = .error e := by
  rw [act_eq, bind_apply]
  cases chosen : client.choose page vars instruction s with
  | error e' u =>
    have other := choose_blamesNoJob blames s e' u chosen
    simp only [EStateM.Result.error.injEq, reduceCtorEq, false_and, exists_false, iff_false]
    rintro ⟨⟨rfl, -⟩, fault⟩
    rw [other] at fault
    cases fault
  | ok choice u =>
    cases choice with
    | none => simp [pure, EStateM.pure]
    | some action =>
      simp only [EStateM.Result.ok.injEq, Option.some.injEq]
      rw [bind_apply]
      cases planned : plan vars timeout action with
      | error missing =>
        rw [perform_of_plan_error planned]
        obtain ⟨value, -, unfilled⟩ := plan_eq_error_iff.mp planned
        obtain ⟨n, -, rfl⟩ := (vars.interpolate_eq_error_iff value missing).mp unfilled
        simp only [EStateM.Result.error.injEq]
        constructor
        · rintro ⟨⟨rfl, rfl⟩, -⟩
          exact ⟨action, ⟨rfl, rfl⟩, planned⟩
        · rintro ⟨_, ⟨rfl, rfl⟩, same⟩
          cases planned.symm.trans same
          exact ⟨⟨rfl, rfl⟩, rfl⟩
      | ok calls =>
        obtain ⟨outcome, v, performed⟩ := perform_of_plan_ok blames planned u
        rw [performed]
        simp only [pure, EStateM.pure, reduceCtorEq, false_and, false_iff]
        rintro ⟨_, ⟨rfl, -⟩, same⟩
        cases planned.symm.trans same

end Model.Client

/-! ## What is offered suffices -/

/-- The names of a text that are listed have a value each and stand in the order in which they
appear first, and a text can be filled in exactly if all its names are listed; it fails for one that
is not. So an action whose text has only placeholders that were offered for an instruction can be
filled in, and performing it does not fail, on a page that does not blame the job. -/
theorem offered_names_resolve (vars : Variables) (text : String) :
    let names := Placeholder.names text.toList
    let offered := vars.referencedNames text
    (∀ found, Placeholder.Scans text.toList found ↔ found = names) ∧
      offered.Nodup ∧
      offered.Pairwise (fun a b => names.idxOf a < names.idxOf b) ∧
      (∀ n, n ∈ offered ↔ n ∈ names ∧ vars.Resolves n) ∧
      ((∃ filled, vars.interpolate text = .ok filled) ↔ ∀ n ∈ names, n ∈ offered) ∧
      (∀ e, vars.interpolate text = .error e →
        ∃ n ∈ names, n ∉ offered ∧ e = .missingVariable n) ∧
      (∀ value : String, (∀ n ∈ Placeholder.names value.toList, n ∈ offered) →
        ∃ filled, vars.interpolate value = .ok filled) ∧
      ∀ (page : Page) (timeout : Nat) (action : PlannedAction) (s : RunState),
        page.BlamesNoJob →
        (∀ value ∈ action.typed?, ∀ n ∈ Placeholder.names value.toList, n ∈ offered) →
        ∃ outcome t, Model.Client.perform page vars timeout action s = .ok outcome t := by
  intro names offered
  have listed : ∀ n, n ∈ offered ↔ n ∈ names ∧ (vars.value? n).isSome = true := fun n =>
    vars.mem_referencedNames
  have fills : ∀ value : String, (∀ n ∈ Placeholder.names value.toList, n ∈ offered) →
      ∃ filled, vars.interpolate value = .ok filled := by
    intro value within
    refine vars.interpolate_ok_iff_values.mpr ?_
    intro n mem
    exact ((listed n).mp (within n mem)).2
  refine ⟨fun found => Placeholder.scans_iff.trans eq_comm, vars.nodup_referencedNames text,
    vars.pairwise_referencedNames text, fun n => ?_, vars.interpolate_ok_iff, fun e fails => ?_,
    fills, fun page timeout action s blames within => ?_⟩
  · rw [listed]
    refine and_congr_right fun mem => ?_
    exact (vars.resolves_iff mem).symm
  · obtain ⟨n, found, rfl⟩ := (vars.interpolate_eq_error_iff text e).mp fails
    refine ⟨n, List.mem_of_find?_eq_some found, ?_, rfl⟩
    intro mem
    have none := List.find?_some found
    have some := ((listed n).mp mem).2
    rw [Option.isNone_iff_eq_none.mp none] at some
    cases some
  · cases planned : Model.Client.plan vars timeout action with
    | ok calls => exact Model.Client.perform_of_plan_ok blames planned s
    | error e =>
      obtain ⟨value, typed, fails⟩ := Model.Client.plan_eq_error_iff.mp planned
      obtain ⟨filled, ok⟩ := fills value (within value typed)
      cases fails.symm.trans ok

/-- Between two placeholders a name stands by itself, though percent signs are on both sides of it;
it is not offered. -/
theorem offered_names_resolve_overlap :
    let vars : Variables := ⟨[("A", "1"), ("B", "2")]⟩
    let text := "%A%B%C% %A%"
    Placeholder.names text.toList = ["A", "C", "A"] ∧ vars.referencedNames text = ["A"] ∧
      (∃ filled, vars.interpolate "%A%:%A%" = .ok filled) ∧
      ¬ ∃ filled, vars.interpolate text = .ok filled := by
  intro vars text
  have names : Placeholder.names text.toList = ["A", "C", "A"] := by decide +kernel
  have offered : vars.referencedNames text = ["A"] := by decide +kernel
  obtain ⟨-, -, -, -, resolves, -, fills, -⟩ := offered_names_resolve vars text
  refine ⟨names, offered, fills "%A%:%A%" ?_, ?_⟩
  · have within : Placeholder.names "%A%:%A%".toList = ["A", "A"] := by decide +kernel
    rw [within, offered]
    simp
  · rw [resolves, names, offered]
    simp

/-! ## Faults that come late -/

/-- An instruction fails as if the job were at fault exactly if the assistant does. -/
theorem Effect.run_act_fails_validation_iff {scene : Scene} {instruction : String} {timeout : Nat}
    {s t : RunState} {e : Failure} :
    (act instruction timeout).run scene s = .error e t ∧ e.isValidation = true ↔
      scene.assistant.act scene.vars instruction timeout s = .error e t ∧
        e.isValidation = true := by
  refine and_congr_left fun fault => bind_eq_error.trans ?_
  refine or_iff_left ?_
  rintro ⟨outcome, u, -, fails⟩
  rw [judge_blamesNoJob instruction outcome u e t fails] at fault
  cases fault

/-- A step fails as if the job were at fault if it does not pass its checks, or if it is an
instruction and the model chose an action for it that cannot be filled in. -/
theorem Step.run_fails_validation_iff_of_model {scene : Scene} {client : Model.Client}
    (model : scene.assistant = client.assistant scene.page) (page : scene.page.BlamesNoJob)
    {step : Step} {s t : RunState} {e : Failure} :
    step.run scene s = .error e t ∧ e.isValidation = true ↔
      step.effect scene.settings scene.vars = .error e ∧ t = s ∨
      ∃ instruction timeout action,
        step.effect scene.settings scene.vars = .ok (some (.act instruction timeout)) ∧
        client.choose scene.page scene.vars instruction s = .ok (some action) t ∧
        Model.Client.plan scene.vars timeout action = .error e := by
  have acts : scene.assistant.act = client.act scene.page := congrArg Assistant.act model
  have extracts : ∀ instruction timeout,
      Run.BlamesNoJob (scene.assistant.extract instruction timeout) := by
    rw [model]
    exact Model.Client.extract_blamesNoJob page
  cases checked : step.effect scene.settings scene.vars with
  | error e' =>
    have other := isValidation_of_effect checked
    rw [run_of_effect_error checked]
    simp only [EStateM.Result.error.injEq, Except.error.injEq, reduceCtorEq, false_and,
      exists_false, or_false]
    constructor
    · rintro ⟨⟨rfl, rfl⟩, -⟩
      exact ⟨rfl, rfl⟩
    · rintro ⟨rfl, rfl⟩
      exact ⟨⟨rfl, rfl⟩, other⟩
  | ok effect =>
    simp only [Step.run, checked, reduceCtorEq, false_and, false_or, Except.ok.injEq]
    cases effect with
    | none => simp [pure, EStateM.pure]
    | some effect =>
      by_cases act : ∃ instruction timeout, effect = .act instruction timeout
      · obtain ⟨instruction, timeout, rfl⟩ := act
        refine Effect.run_act_fails_validation_iff.trans ?_
        rw [acts, Model.Client.act_fails_validation_iff page]
        constructor
        · rintro ⟨action, chosen, unfilled⟩
          exact ⟨instruction, timeout, action, rfl, chosen, unfilled⟩
        · rintro ⟨_, _, action, ⟨⟩, chosen, unfilled⟩
          exact ⟨action, chosen, unfilled⟩
      · have other : ∀ instruction timeout, effect ≠ .act instruction timeout :=
          fun instruction timeout same => act ⟨instruction, timeout, same⟩
        refine iff_of_false ?_ ?_
        · rintro ⟨fails, fault⟩
          rw [Effect.run_blamesNoJob_of_not_act page extracts other s e t fails] at fault
          cases fault
        · rintro ⟨instruction, timeout, _, same, -⟩
          exact other instruction timeout (Option.some.inj same)

/-- A step that fails with a fault of the job, where a model carries out the instructions, did not
pass its checks and left the state as it was; or it is an instruction, the page was looked at for
it once, and the action that the model then chose has a placeholder without a value. Nothing else
was asked of the page, no rule was registered and nothing was added to the output. -/
theorem validation_before_acting {scene : Scene} {client : Model.Client}
    (model : scene.assistant = client.assistant scene.page) (page : scene.page.BlamesNoJob)
    (step : Step) (s t : RunState) (e : Failure) :
    step.run scene s = .error e t ∧ e.isValidation = true ↔
      step.effect scene.settings scene.vars = .error e ∧ t = s ∨
      ∃ instruction timeout action value n,
        step.effect scene.settings scene.vars = .ok (some (.act instruction timeout)) ∧
        client.choose scene.page scene.vars instruction s = .ok (some action) t ∧
        action.typed? = some value ∧
        (Placeholder.names value.toList).find? (fun n => (scene.vars.value? n).isNone) = some n ∧
        e = .missingVariable n ∧
        t.calls = s.calls ++ [(s.now, .page (.evaluate Model.snapshotScript))] ∧
        t.rules = s.rules ∧ t.output = s.output := by
  rw [Step.run_fails_validation_iff_of_model model page]
  refine or_congr_right ⟨?_, ?_⟩
  · rintro ⟨instruction, timeout, action, effect, chosen, unplanned⟩
    obtain ⟨value, typed, unfilled⟩ := Model.Client.plan_eq_error_iff.mp unplanned
    obtain ⟨n, missing, same⟩ := (scene.vars.interpolate_eq_error_iff value e).mp unfilled
    have aloof := Model.Client.aloof_choose client scene.page scene.vars instruction s
    rw [chosen] at aloof
    exact ⟨instruction, timeout, action, value, n, effect, chosen, typed, missing, same,
      aloof.calls, aloof.rules, aloof.output⟩
  · rintro ⟨instruction, timeout, action, value, n, effect, chosen, typed, missing, same, -⟩
    have unfilled := (scene.vars.interpolate_eq_error_iff value e).mpr ⟨n, missing, same⟩
    exact ⟨instruction, timeout, action, effect, chosen,
      Model.Client.plan_eq_error_iff.mpr ⟨value, typed, unfilled⟩⟩

/-- A client whose model wants to put in the value of a variable. -/
def Model.Client.fillingIn : Client :=
  let content := "\x7b\"action\":\"fill\",\"element\":\"e0\",\"value\":\"%TOKEN%\"\x7d"
  let reply : Json := .object
    [("choices", .array [.object [("message", .object [("content", .string content)])]])]
  .ofServer fun _ => .answered 200 (Text.encode reply.print.toList)

/-- Such a client on a page that answers nothing, where there are no variables. -/
def tokenScene : Scene :=
  ⟨.ofParams .absent, ⟨[]⟩, silentPage, Model.Client.fillingIn.assistant silentPage, true⟩

/-- An instruction that names no variable. -/
def loggingIn : Step :=
  .action ⟨some "log in", none⟩

/-- The page of this scene blames no job. -/
theorem tokenScene_blamesNoJob : tokenScene.page.BlamesNoJob := by
  rintro h call e ⟨⟩

/-- The instruction passes the checks of its step. -/
theorem loggingIn_passes : (loggingIn.effect tokenScene.settings tokenScene.vars).isOk = true := by
  decide +kernel

/-- The instruction fails for want of the variable that the model chose. -/
theorem loggingIn_fails :
    outcome (loggingIn.run tokenScene (.initial ⟨true, .reliable⟩)) =
      .error (.missingVariable "TOKEN") := by
  decide +kernel

/-- The instruction names no variable, but the action that the model chooses for it does. -/
theorem validation_before_acting_token :
    let s := RunState.initial ⟨true, .reliable⟩
    let e := Failure.missingVariable "TOKEN"
    tokenScene.assistant = Model.Client.fillingIn.assistant tokenScene.page ∧
      tokenScene.page.BlamesNoJob ∧
      ∃ t, loggingIn.run tokenScene s = .error e t ∧ e.isValidation = true ∧
        ∃ (action : PlannedAction) (value : String), action.typed? = some value ∧
          "TOKEN" ∈ Placeholder.names value.toList ∧
          t.calls = [(0, .page (.evaluate Model.snapshotScript))] := by
  intro s e
  have fails := eq_error_of_outcome loggingIn_fails
  obtain ⟨checked, -⟩ | ⟨_, _, action, value, n, -, -, typed, missing, same, calls, -⟩ :=
    (validation_before_acting rfl tokenScene_blamesNoJob loggingIn s _ e).mp ⟨fails, rfl⟩
  · have passes := loggingIn_passes
    rw [checked] at passes
    cases passes
  · obtain rfl : "TOKEN" = n := Failure.missingVariable.inj same
    exact ⟨rfl, tokenScene_blamesNoJob, _, fails, rfl, action, value, typed,
      List.mem_of_find?_eq_some missing, calls⟩

/-- The page has been looked at when the value turns out to be missing. -/
theorem validation_after_looking :
    let ended := loggingIn.run tokenScene (.initial ⟨true, .reliable⟩)
    tokenScene.assistant = Model.Client.fillingIn.assistant tokenScene.page ∧
      tokenScene.page.BlamesNoJob ∧
      outcome ended = .error (.missingVariable "TOKEN") ∧
      (Failure.missingVariable "TOKEN").isValidation = true ∧
      (left ended).calls = [(0, .page (.evaluate Model.snapshotScript))] := by
  intro ended
  refine ⟨rfl, tokenScene_blamesNoJob, loggingIn_fails, rfl, ?_⟩
  obtain ⟨checked, -⟩ | ⟨instruction, _, _, -, chosen, -⟩ :=
    (Step.run_fails_validation_iff_of_model rfl tokenScene_blamesNoJob).mp
      ⟨eq_error_of_outcome loggingIn_fails, rfl⟩
  · have passes := loggingIn_passes
    rw [checked] at passes
    cases passes
  · have aloof := Model.Client.aloof_choose Model.Client.fillingIn tokenScene.page tokenScene.vars
      instruction (.initial ⟨true, .reliable⟩)
    rw [chosen] at aloof
    exact aloof.calls

end PageScript
