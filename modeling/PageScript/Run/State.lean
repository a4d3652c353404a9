import PageScript.Log
import PageScript.Model.InferenceLog
import PageScript.Model.Server
import PageScript.Report
import PageScript.Run.Call

/-!
# The state of a run

All that a run leaves behind while it goes on: the calls it made and when, the requests
that were answered, the rules it registered, its output, its report lines and its log. A computation of type `Run`
works on this state; where it fails the state stays as it was when it failed.

`Page` describes the page of a run by its answers: what it answers to a call may depend on all that
came before, and may take its time.
-/

namespace PageScript

/-- A step in the life of a job. -/
inductive Milestone where
  | launched
  /-- The browser session was shut down. -/
  | shutDown
  /-- The captures were added to the output. -/
  | tookCaptures
  /-- The inference log was to be packed. -/
  | archived
  /-- A line was to be written for the host. -/
  | reported (report : Report)

/-- What is open while the browser runs. -/
structure Session where
  /-- Whether the network is being observed. -/
  observed : Bool
  /-- The file of the recording that is being made. -/
  recording : Option Path
  deriving DecidableEq, Repr

/-- A capture rule that was registered. -/
structure Registration where
  after : Nat
  rule : CaptureRule
  deriving DecidableEq, Repr

/-- What the surroundings of a run have noticed of it. -/
structure History where
  calls : List Call
  /-- The capture rules, first registered first. -/
  rules : List Registration
  deriving DecidableEq, Repr

/-- What a run has done so far. -/
structure RunState where
  /-- The time, in milliseconds from the start. -/
  now : Nat
  /-- The calls with their times, first call first. -/
  calls : List (Nat × Call)
  /-- The requests that the server of the language model answered, first request first. -/
  requests : List Model.Request
  /-- The log of the exchanges with the language model, if they are kept. -/
  inference : Option Model.InferenceLog
  files : FileTree
  /-- The capture rules, first registered first. -/
  rules : List Registration
  output : Output
  reporter : Reporter
  log : List LogLine
  /-- The browser session that is open. -/
  session : Option Session
  /-- What has happened, first thing first. -/
  milestones : List Milestone

/-- A computation that a run performs. -/
abbrev Run (α : Type) := EStateM Failure RunState α

/-- An answer of the page. -/
structure Answer where
  /-- How long it takes, in milliseconds. -/
  delay : Nat
  outcome : Except Failure Json

/-- The page of a run, by its answer to a call, given what came before it. -/
structure Page where
  answer : History → PageCall → Answer

namespace RunState

/-- The state of a run that is about to begin. -/
def initial (reporter : Reporter) : RunState :=
  { now := 0, calls := [], requests := [], inference := none, files := .empty, rules := []
    output := .empty, reporter := reporter, log := [], session := none, milestones := [] }

/-- What the surroundings have noticed. -/
def history (s : RunState) : History :=
  ⟨s.calls.map (·.2), s.rules⟩

/-- The state with a call added. -/
def addCall (s : RunState) (call : Call) : RunState :=
  { s with calls := s.calls ++ [(s.now, call)] }

/-- The state with a capture rule added. -/
def addRule (s : RunState) (rule : CaptureRule) : RunState :=
  { s with rules := s.rules ++ [⟨s.calls.length, rule⟩] }

/-- The state some milliseconds later. -/
def later (s : RunState) (ms : Nat) : RunState :=
  { s with now := s.now + ms }

/-- The state with lines added to the log. -/
def addLog (s : RunState) (lines : List LogLine) : RunState :=
  { s with log := s.log ++ lines }

end RunState

namespace Run

/-- Adds a line to the log. -/
def note (line : LogLine) : Run Unit :=
  modify (·.addLog [line])

/-- Records a milestone. -/
def mark (m : Milestone) : Run Unit :=
  modify fun s => { s with milestones := s.milestones ++ [m] }

/-- Lets time pass. -/
def pause (ms : Nat) : Run Unit :=
  modify (·.later ms)

/-- Changes the files, or fails as the file system does. -/
def onFiles (change : FileTree → Except FileTrouble FileTree) : Run Unit := fun s =>
  match change s.files with
  | .ok files => .ok () { s with files := files }
  | .error trouble => .error (.storage trouble.message) s

/-- Writes a line for the host. Gives why that did not work, if it did not. -/
def send (report : Report) : Run (Option String) := fun s =>
  let s := { s with milestones := s.milestones ++ [Milestone.reported report] }
  match s.reporter.send report with
  | .ok reporter => .ok none { s with reporter := reporter }
  | .error trouble => .ok (some trouble) s

/-- Performs a computation and gives its failure as a value. -/
def attempt (x : Run α) : Run (Except Failure α) := fun s =>
  match x s with
  | .ok a s => .ok (.ok a) s
  | .error e s => .ok (.error e) s

end Run

namespace Page

/-- Calls the page and waits for the answer. -/
def ask (page : Page) (call : PageCall) : Run Json := fun s =>
  let answer := page.answer s.history call
  let s := (s.addCall (.page call)).later answer.delay
  match answer.outcome with
  | .ok v => .ok v s
  | .error e => .error e s

/-- Calls the page and waits for the answer, but no longer than a number of milliseconds. -/
def askWithin (page : Page) (ms : Nat) (what : String) (call : PageCall) : Run Json := fun s =>
  if (page.answer s.history call).delay ≤ ms then page.ask call s
  else .error (.timeout ms what) ((s.addCall (.page call)).later ms)

end Page

end PageScript
