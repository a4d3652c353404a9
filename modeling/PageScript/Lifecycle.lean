import PageScript.Capture.Saving
import PageScript.Job
import PageScript.Model.Client
import PageScript.Run.Steps
import PageScript.Script.Compile

/-!
# The life of a job

A job prepares its directory, compiles its script, starts the browser and runs its steps. Whatever
happens, a browser that was started is shut down, what was captured until then is kept, the
inference log is packed, and one result line is written last. Shutting down comes before packing;
a job whose steps all succeeded and whose browser cannot be closed has failed.

`Browser` describes how the browser's side of it turns out, stage by stage.
-/

namespace PageScript

/-- How the recording of a run turns out. -/
structure Recording where
  name : String
  /-- Whether it starts, its file having been made. -/
  started : Except Failure Unit
  /-- Whether it stops in good order. -/
  stopped : Except Failure Unit
  /-- What has been recorded when it stops, by what the run has done. -/
  content : History → List UInt8

/-- What the observer of the network has seen. -/
structure Observation where
  captures : List Capture
  /-- What else it has led to, first finding first. -/
  findings : List Finding

/-- How a browser and what belongs to it behave. -/
structure Browser where
  /-- Whether it starts, its profile directory having been made. -/
  launch : Except Failure Unit
  /-- What the log tells once it has started. -/
  warnings : List LogLine
  openPage : Except Failure Unit
  /-- Whether the network can be observed. -/
  observe : Except Failure Unit
  recording : Recording
  page : Page
  /-- What the observer has seen when it is stopped, by what the run has done. -/
  observation : History → Observation
  /-- Whether it closes in good order, by what the run has done. -/
  close : History → Except Failure Unit

/-- What a job runs with. -/
structure Setting where
  work : Path
  vars : Variables
  browser : Browser
  /-- Whether the client of the language model can be made. -/
  client : Except Failure Unit
  /-- Who answers for the language model. -/
  server : Model.Server
  timestamp : Nat → String

namespace Setting

/-- Where downloads go. -/
def downloads (setting : Setting) : Path :=
  setting.work.join "downloads"

/-- Where the browser keeps its profile. -/
def profile (setting : Setting) : Path :=
  setting.work.join "profile"

/-- Where exchanges with the language model are kept. -/
def inference (setting : Setting) : Path :=
  setting.work.join Model.InferenceLog.directoryName

/-- The file of the recording. -/
def video (setting : Setting) : Path :=
  setting.downloads.join setting.browser.recording.name

end Setting

namespace Lifecycle

/-- A stage that turns out one way or the other. -/
def stage (outcome : Except Failure Unit) : Run Unit :=
  match outcome with
  | .ok () => return ()
  | .error e => throw e

/-- Changes the open session. -/
def onSession (change : Session → Session) : Run Unit :=
  modify fun s => { s with session := s.session.map change }

/-- The content of a diagnostic file. -/
def diagnostic (v : Json) : List UInt8 :=
  Text.encode (v.printTabbed ++ "\n").toList

/-- The variables as a value. -/
def variablesJson (vars : Variables) : Json :=
  .ofFields (vars.entries.map fun (name, value) => (name, .string value))

/-- Writes the job and the variables among the downloads. -/
def dumpDiagnostics (setting : Setting) (job : Job) : Run Unit := do
  Run.onFiles (·.write (setting.downloads.join "job.json") (diagnostic job.raw))
  Run.onFiles
    (·.write (setting.downloads.join "env.json") (diagnostic (variablesJson setting.vars)))

/-- The steps of a job, of which there must be some. -/
def stepsOf (job : Job) : Run (List Step) :=
  match (Script.compile job.params.script).1 with
  | .ok steps => if steps.isEmpty then throw Run.noSteps else return steps
  | .error e => throw e

/-- Makes ready what comes before the browser. -/
def prepare (setting : Setting) (job : Job) : Run (List Step) := do
  Run.onFiles (·.makeDirectory setting.downloads)
  if 2 ≤ job.settings.verbose then dumpDiagnostics setting job
  let steps ← stepsOf job
  stage setting.client
  if job.settings.aiLogInference then
    modify fun s => { s with inference := some (.ofDirectory setting.inference) }
  return steps

/-- Makes the profile directory. -/
def makeProfile (setting : Setting) : Run Unit := fun s =>
  match s.files.makeDirectory setting.profile with
  | .ok files => .ok () { s with files := files }
  | .error trouble =>
    .error (.launchFailed ("Failed to create profile directory: " ++ trouble.message)) s

/-- Starts the browser; from then on a session is open. -/
def launch (setting : Setting) : Run Unit := do
  Run.note (.info "🔵 Launching Chrome...")
  makeProfile setting
  stage setting.browser.launch
  Run.mark .launched
  modify (·.addLog setting.browser.warnings)
  modify fun s => { s with session := some ⟨false, none⟩ }

/-- Makes the file of the recording and starts to record. -/
def record (setting : Setting) : Run Unit := do
  Run.onFiles (·.write setting.video [])
  stage setting.browser.recording.started

/-- Starts to record if the settings ask for it; a run does without a recording that cannot be
made. -/
def tryRecord (setting : Setting) (mode : VideoMode) : Run Unit := do
  if mode.records then
    match ← (record setting).attempt with
    | .ok () => onSession ({ · with recording := some setting.video })
    | .error e => Run.note (.warning ("video recording unavailable: " ++ e.message))

/-- What the steps of a job work with. -/
def scene (setting : Setting) (settings : Settings) : Scene :=
  { settings := settings
    vars := setting.vars
    page := setting.browser.page
    assistant :=
      (Model.Client.ofSettings settings setting.server setting.timestamp).assistant
        setting.browser.page
    observed := true }

/-- All that comes before the end. -/
def execute (setting : Setting) (job : Job) : Run Unit := do
  let steps ← prepare setting job
  launch setting
  stage setting.browser.openPage
  stage setting.browser.observe
  onSession ({ · with observed := true })
  tryRecord setting job.settings.video
  Run.steps (scene setting job.settings) steps

/-- Stops the recording that is being made. Gives its file, unless that went wrong. -/
def stopRecording (setting : Setting) (session : Session) : Run (Option Path) := do
  match session.recording with
  | none => return none
  | some video =>
    match setting.browser.recording.stopped with
    | .ok () =>
      let content := setting.browser.recording.content (← get).history
      let _ ← (Run.onFiles (·.write video content)).attempt
      return some video
    | .error e =>
      Run.note (.warning e.message)
      return none

/-- Takes over what the observer has seen. -/
def takeCaptures (setting : Setting) : Run Unit := fun s =>
  let seen := setting.browser.observation s.history
  let (files, lines) := Finding.saveAll s.files setting.downloads seen.findings
  .ok ()
    { s with
      output := s.output.addCaptures seen.captures
      files := files
      log := s.log ++ lines
      milestones := s.milestones ++ [.tookCaptures] }

/-- Shuts a session down. Gives the file of its recording and whether the browser closed in good
order. -/
def shutDown (setting : Setting) (session : Session) :
    Run (Option Path × Except Failure Unit) := do
  modify fun s => { s with session := none }
  let video ← stopRecording setting session
  if session.observed then takeCaptures setting
  Run.mark .shutDown
  return (video, setting.browser.close (← get).history)

/-- Keeps a finished recording or throws it away. -/
def applyVideoPolicy (mode : VideoMode) (video : Option Path) : Run Unit := do
  match video with
  | none => return ()
  | some file =>
    if mode.keeps then Run.note (.info ("🔵 Video saved: " ++ file.text))
    else
      match ← (Run.onFiles (·.remove file)).attempt with
      | .ok () => return ()
      | .error (.storage trouble) =>
        Run.note (.warning ("failed to delete video " ++ file.text ++ ": " ++ trouble))
      | .error e =>
        Run.note (.warning ("failed to delete video " ++ file.text ++ ": " ++ e.message))

/-- Packs the inference log if there is one. -/
def archive (setting : Setting) (settings : Settings) : Run Unit := do
  if settings.aiLogInference then
    Run.mark .archived
    let s ← get
    match Model.InferenceLog.archive s.files setting.inference setting.downloads with
    | .ok (files, _) => set { s with files := files }
    | .error e => Run.note (.warning ("failed to archive inference log: " ++ e.message))

/-- Ends a job whose steps all succeeded. -/
def finish (setting : Setting) (settings : Settings) : Run Unit := do
  match (← get).session with
  | none => return ()
  | some session =>
    let (video, closed) ← shutDown setting session
    stage closed
    applyVideoPolicy settings.video video
    archive setting settings

/-- Writes the result line. -/
def conclude (report : Report) : Run Unit := do
  match ← Run.send report with
  | none => return ()
  | some trouble => Run.note (.failure ("Failed to write result: " ++ trouble))

/-- Ends a job that failed. -/
def abort (setting : Setting) (settings : Settings) (failure : Failure) : Run Unit := do
  Run.note (.failure failure.message)
  match (← get).session with
  | none => pure ()
  | some session =>
    let (video, _) ← shutDown setting session
    applyVideoPolicy settings.video video
  archive setting settings
  conclude (.failure failure.message (← get).output)

/-- Runs a job. Gives the exit code. -/
def run (setting : Setting) (job : Job) : Run Nat := do
  let settings := job.settings
  let main : Run Unit := do
    execute setting job
    finish setting settings
  match ← main.attempt with
  | .ok () =>
    Run.note (.info "✅ Completed all steps.")
    conclude (.success (← get).output)
    return 0
  | .error failure =>
    abort setting settings failure
    return 1

end Lifecycle

end PageScript
