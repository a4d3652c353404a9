import PageScript.Proofs.Run.Computation

/-!
# Where steps lead

A run of steps leads along every relation of states along which the single things lead that steps
do: calls of the page, instructions, lines of the log and for the host, pauses, what is kept in the
output, and rules (`Running`). So what holds of whole runs is found by looking at these once.

**What it does not establish.** How a run ends, and that it succeeds.
-/

namespace PageScript

open Run

variable {R R' : RunState → RunState → Prop}

/-- What leads along a relation leads along every wider one. -/
theorem Run.Leads.mono {x : Run α} (leads : Leads R x) (wider : ∀ {s t}, R s t → R' s t) :
    Leads R' x :=
  fun s => wider (leads s)

/-- Wherever an assistant gets to, it leads there. -/
structure Assistant.Leads (R : RunState → RunState → Prop) (a : Assistant) : Prop where
  act : ∀ vars instruction timeout, Run.Leads R (a.act vars instruction timeout)
  extract : ∀ instruction timeout, Run.Leads R (a.extract instruction timeout)

/-- A relation of states that everything in a run of steps leads along. -/
structure Running (scene : Scene) (R : RunState → RunState → Prop) : Prop extends Calling R where
  instructed : scene.assistant.Leads R
  noted : ∀ s lines, R s (s.addLog lines)
  waited : ∀ s ms, R s (s.later ms)
  registered : ∀ s rule, R s (s.addRule rule)
  evaluated : ∀ s e, R s { s with output := s.output.addEvaluation e }
  extracted : ∀ s e, R s { s with output := s.output.addExtraction e }
  told : ∀ done total, Leads R (send (.progress done total))

namespace Running

variable {scene : Scene} (running : Running scene R)

include running

/-- An effect leads where the single things in it lead. -/
theorem effect (e : Effect) : Leads R (e.run scene) := by
  have asks : ∀ call, Leads R (scene.page.ask call) := fun call =>
    scene.page.ask_leads call running.toCalling
  cases e with
  | onPage call => exact running.leads_bind (asks call) fun _ => running.leads_pure ()
  | evaluate written filled =>
    exact running.leads_bind (asks _) fun value s => running.evaluated s ⟨written, value⟩
  | act instruction timeout =>
    refine running.leads_bind (running.instructed.act _ _ _) fun outcome => ?_
    cases Effect.judge instruction outcome with
    | ok _ => exact running.leads_pure ()
    | error e => exact running.leads_throw e
  | extract instruction timeout =>
    refine running.leads_bind (running.instructed.extract _ _) fun found => ?_
    cases found with
    | none => exact running.leads_throw _
    | some value => exact fun s => running.extracted s ⟨instruction, value⟩
  | capture rule =>
    intro s
    unfold Effect.run Effect.register
    cases scene.observed with
    | true => exact running.registered s rule
    | false => exact running.refl s
  | pause ms => exact fun s => running.waited s ms

/-- A step leads where its effect leads. -/
theorem step (step : Step) : Leads R (step.run scene) := by
  unfold Step.run
  cases step.effect scene.settings scene.vars with
  | error e => exact running.leads_throw e
  | ok effect =>
    cases effect with
    | none => exact running.leads_pure ()
    | some e => exact running.effect e

theorem progress (done total : Nat) : Leads R (progress done total) := by
  refine running.leads_bind (running.told done total) fun sent => ?_
  cases sent with
  | none => exact running.leads_pure ()
  | some trouble => exact fun s => running.noted s _

/-- Steps lead where each of them leads. -/
theorem stepsFrom (total : Nat) (all : List Step) (done : Nat) :
    Leads R (stepsFrom scene total done all) := by
  induction all generalizing done with
  | nil => exact running.leads_pure ()
  | cons step rest ih =>
    refine running.leads_bind ?_ fun _ => ih (done + 1)
    refine running.leads_bind (fun s => running.noted s _) fun _ => ?_
    refine running.leads_bind (running.step step) fun _ => ?_
    exact running.leads_bind (running.progress _ _) fun _ s => running.waited s _

/-- A run of steps leads where the single things lead that steps do. -/
theorem steps (all : List Step) : Leads R (steps scene all) := by
  unfold Run.steps
  split
  · exact running.leads_throw _
  · exact running.stepsFrom _ all 0

end Running

end PageScript
