import PageScript.Chrome.Launch
import PageScript.Chrome.Page
import PageScript.Lifecycle

/-!
# A browser that is talked to

The browser of a job when there is one to talk to. What it does at any moment follows from what it
was told before: the commands that open the page, then those that the calls of the run lead to.
`Driven.connectionAfter` says everything again up to that moment, and the page, the observation and
the end of the session are read off the connection.
-/

namespace PageScript.Chrome

namespace Talk

/-- What came of a computation, and the connection afterwards. -/
def outcome (x : Talk Unit) (c : Connection) : Except Failure Unit × Connection :=
  match x c with
  | .ok () c => (.ok (), c)
  | .error e c => (.error e, c)

/-- Lets downloads go where they belong. Gives what the log tells. -/
def allowDownloads (peer : Peer) (o : LaunchOptions) : Talk (List LogLine) := do
  match ← ask peer (.allowDownloads o.downloads.text) with
  | .ok _ => return []
  | .error reason => return [.warning ("could not enable downloads: " ++ reason)]

/-- Opens the page that the run works on. -/
def openPage (peer : Peer) (o : LaunchOptions) : Talk Unit := do
  match ← ask peer (.createTarget "about:blank") with
  | .error reason => throw (.launchFailed ("Failed to create page: " ++ reason))
  | .ok _ =>
    order peer .reportLifecycle
    order peer .reportNetwork
    if o.ignoreCertificates then order peer .ignoreCertificates
    order peer (.setViewport o.width o.height o.scale)

/-- Begins to observe the network. -/
def observe : Talk Unit :=
  modify fun c => { c with observer := some .start, reading := none }

/-- Begins to record the page: every picture is taken as it comes. -/
def record (peer : Peer) (o : LaunchOptions) : Talk Unit := do
  order peer (.startScreencast o.width o.height)
  let recorder :=
    Recorder.begun.run (peer.frames.flatMap fun f => [.frame f, .turn false .whole])
  modify fun c =>
    { c with
      recorder := some recorder
      sent := c.sent ++ recorder.acknowledged.map .acknowledge }

end Talk

/-- What a job drives. -/
structure Driven where
  peer : Peer
  options : LaunchOptions
  /-- The name of the recording, if there is to be one. -/
  recording : Option String

namespace Driven

/-- How a session begins. -/
structure Beginning where
  /-- What the log tells once the browser has started. -/
  warnings : List LogLine
  opened : Except Failure Unit
  recording : Except Failure Unit
  /-- The connection when the first step is about to run. -/
  connection : Connection

/-- Opens the page and observes it, and records it if there is to be a recording. -/
def openSession (d : Driven) (warnings : List LogLine) (c : Connection) : Beginning :=
  match (Talk.openPage d.peer d.options).outcome c with
  | (.error e, c) => ⟨warnings, .error e, .ok (), c⟩
  | (.ok (), c) =>
    let (_, c) := Talk.observe.outcome c
    match d.recording with
    | none => ⟨warnings, .ok (), .ok (), c⟩
    | some _ =>
      let (recording, c) := (Talk.record d.peer d.options).outcome c
      ⟨warnings, .ok (), recording, c⟩

/-- Begins a session. -/
def beginning (d : Driven) : Beginning :=
  match Talk.allowDownloads d.peer d.options .opened with
  | .ok warnings c => d.openSession warnings c
  | .error _ c => d.openSession [] c

/-- Registers the capture rules that came after so many calls. -/
def register (d : Driven) (rules : List Registration) (done : Nat) (c : Connection) : Connection :=
  (rules.filter (·.after == done)).foldl (fun c r => c.register d.peer r.rule) c

/-- Carries out a call. Gives what came of it and the connection afterwards. -/
def perform (d : Driven) (call : PageCall) (c : Connection) : Except Failure Json × Connection :=
  match Talk.perform d.peer d.options.scale call c with
  | .ok v c => (.ok v, c.catchUp d.peer)
  | .error e c => (.error e, c)

/-- Carries out the calls that are left when some are done. -/
def performFrom (d : Driven) (rules : List Registration) (done : Nat) :
    List Call → Connection → Connection
  | [], c => d.register rules done c
  | .page call :: rest, c =>
    performFrom d rules (done + 1) rest (d.perform call (d.register rules done c)).2
  | _ :: rest, c => performFrom d rules (done + 1) rest (d.register rules done c)

/-- The connection after what a run has done. -/
def connectionAfter (d : Driven) (history : History) : Connection :=
  d.performFrom history.rules 0 history.calls d.beginning.connection

/-- The connection after the recording of a run was stopped, if there was one, and then the
observer. -/
def connectionAtEnd (d : Driven) (history : History) : Connection :=
  let c := d.connectionAfter history
  let c := match c.recorder with
    | none => c
    | some _ => (c.send d.peer .stopScreencast).2
  c.stopObserving d.peer

/-- Closes the browser. -/
def closing (d : Driven) (history : History) : Except Failure Unit × Connection :=
  (Talk.order d.peer .close).outcome (d.connectionAtEnd history)

/-- All commands of a run. -/
def commands (d : Driven) (history : History) : List Command :=
  (d.closing history).2.sent

/-- An answer of the page; a millisecond that has begun counts in full. -/
def answer (d : Driven) (history : History) (call : PageCall) : Answer :=
  let c := d.connectionAfter history
  let (outcome, after) := d.perform call c
  ⟨(after.time - c.time + millisecond - 1) / millisecond, outcome⟩

/-- What the observer has seen. -/
def observation (d : Driven) (history : History) : Observation :=
  let (captures, findings) := (d.connectionAtEnd history).observed
  ⟨captures, findings⟩

/-- The browser of a job. -/
def browser (d : Driven) : Browser :=
  let beginning := d.beginning
  { launch := .ok ()
    warnings := beginning.warnings
    openPage := beginning.opened
    observe := .ok ()
    recording :=
      { name := d.recording.getD ""
        started := beginning.recording
        stopped := .ok ()
        content := fun history => (d.connectionAfter history).recorded }
    page := ⟨d.answer⟩
    observation := d.observation
    close := fun history => (d.closing history).1 }

end Driven

end PageScript.Chrome
