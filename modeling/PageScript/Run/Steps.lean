import PageScript.Run.Assistant
import PageScript.Run.Effect

/-!
# Running steps

Steps run one after the other. Before a step the log tells what it does; after it the host is told
how far the run is, and the run pauses. The first step that fails ends the run, and what it failed
with is the failure of the run. Steps of unknown kind are passed over with a warning and count as
done.
-/

namespace PageScript

/-- What a run works with. -/
structure Scene where
  settings : Settings
  vars : Variables
  page : Page
  assistant : Assistant
  observed : Bool

namespace Effect

/-- Registers a rule with the observer of the network, if there is one. -/
def register (observed : Bool) (rule : CaptureRule) : Run Unit := fun s =>
  if observed then .ok () (s.addRule rule)
  else .error (.other "network capture observer has stopped") s

/-- Whether carrying out an instruction succeeded. -/
def judge (instruction : String) : Option ActOutcome → Except Failure Unit
  | some outcome =>
    if outcome.success then .ok ()
    else .error (.actionFailed (outcome.description ++ ": " ++ outcome.message))
  | none => .error (.actionFailed (instruction ++ ": no outcome returned"))

/-- Has an effect. -/
def run (scene : Scene) : Effect → Run Unit
  | .onPage call => do
    let _ ← scene.page.ask call
  | .evaluate written filled => do
    let value ← scene.page.ask (.evaluate filled)
    modify fun s => { s with output := s.output.addEvaluation ⟨written, value⟩ }
  | .act instruction timeout => do
    let outcome ← scene.assistant.act scene.vars instruction timeout
    match judge instruction outcome with
    | .ok () => return ()
    | .error e => throw e
  | .extract instruction timeout => do
    match ← scene.assistant.extract instruction timeout with
    | some value =>
      modify fun s => { s with output := s.output.addExtraction ⟨instruction, value⟩ }
    | none => throw (.extractionFailed instruction)
  | .capture rule => register scene.observed rule
  | .pause ms => Run.pause ms

end Effect

namespace Step

/-- What the log tells before a step. -/
def announcement (number total : Nat) : Step → LogLine
  | .unknown kind => .warning ("Skipping unknown step type: " ++ kind)
  | s =>
    .info ("🔵 Step " ++ String.ofList (Text.decimal number) ++ "/"
      ++ String.ofList (Text.decimal total) ++ ": " ++ s.describe)

/-- Runs a step. -/
def run (scene : Scene) (s : Step) : Run Unit :=
  match s.effect scene.settings scene.vars with
  | .ok (some effect) => effect.run scene
  | .ok none => return ()
  | .error e => throw e

end Step

namespace Run

/-- Tells the host how far the run is; a warning says if that does not work. -/
def progress (done total : Nat) : Run Unit := do
  match ← send (.progress done total) with
  | none => return ()
  | some trouble => note (.warning ("failed to report progress: " ++ trouble))

/-- Runs a step with what goes before and after it. -/
def step (scene : Scene) (number total : Nat) (s : Step) : Run Unit := do
  note (s.announcement number total)
  s.run scene
  progress number total
  pause scene.settings.stepDelay

/-- Runs the steps that are left when some are done. -/
def stepsFrom (scene : Scene) (total : Nat) (done : Nat) : List Step → Run Unit
  | [] => return ()
  | s :: rest => do
    step scene (done + 1) total s
    stepsFrom scene total (done + 1) rest

/-- The failure of a run without steps. -/
def noSteps : Failure :=
  .validation "Cannot run script: No steps found."

/-- Runs all steps. -/
def steps (scene : Scene) (all : List Step) : Run Unit :=
  if all.isEmpty then throw noSteps else stepsFrom scene all.length 0 all

end Run

end PageScript
