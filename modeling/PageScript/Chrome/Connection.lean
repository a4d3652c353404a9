import PageScript.Chrome.Observer
import PageScript.Chrome.Polling
import PageScript.Chrome.Recorder
import PageScript.Failure
import PageScript.Run.State

/-!
# The connection to the browser

Everything that is said between a run and the browser goes over one connection: the commands of the
run, and in between those of the observer, which asks for bodies, and of the recorder, which
acknowledges pictures. A computation of type `Talk` works on the connection.

The observer is told of the network as it comes and has its turns at once. A turn that asks for a
body takes until there is an answer, and what comes meanwhile reaches the observer after it. An
answer that was held back is taken in when the run goes on: before its next command, or after a
call that worked. A run that fails ends before that.

Times are in nanoseconds.
-/

namespace PageScript.Chrome

/-- A turn of the observer that waits for a body. -/
structure Reading where
  /-- The request whose body was asked for. -/
  request : String
  /-- How many commands were sent before that. -/
  place : Nat
  /-- When the answer is given up. -/
  deadline : Nat
  /-- What has come since, first come first. -/
  missed : List Occurrence

/-- The connection, by what has gone over it. -/
structure Connection where
  /-- The time since it was opened. -/
  time : Nat
  sent : List Command
  /-- The observer of the network, once there is one. -/
  observer : Option Observer
  /-- The turn that the observer is at, if that waits for a body. -/
  reading : Option Reading
  /-- The recorder of the page, once there is one. -/
  recorder : Option Recorder

/-- A computation that talks to the browser. -/
abbrev Talk (α : Type) := EStateM Failure Connection α

/-- How long an answer is waited for. -/
def patience : Nat := 30000 * millisecond

namespace Connection

/-- A connection over which nothing has gone. -/
def opened : Connection :=
  ⟨0, [], none, none, none⟩

/-- The answer to the request for a body, as far as the browser has given one. -/
def answered? (peer : Peer) (c : Connection) (r : Reading) : Option Reply :=
  peer.answer (c.sent.take r.place) (.responseBody r.request) (c.sent.drop (r.place + 1))

/-- Asks for a body. -/
def read (c : Connection) (id : String) : Connection :=
  { c with
    sent := c.sent ++ [.responseBody id]
    reading := some ⟨id, c.sent.length, c.time + patience, []⟩ }

/-- Takes the turn of an observer. What it missed reaches it afterwards. -/
def turn (c : Connection) (o : Observer) (reply : Option Reply) (missed : List Occurrence) :
    Connection :=
  let bodies : Bodies := fun _ _ => reply
  { c with observer := some ((o.turn bodies).follow bodies missed), reading := none }

/-- Takes a turn of the observer, or the part of it that can be taken now. -/
def advance (peer : Peer) (c : Connection) : Connection :=
  match c.observer, c.reading with
  | none, _ => c
  | some o, none =>
    match o.wants? with
    | some id => c.read id
    | none => c.turn o none []
  | some o, some r =>
    match c.answered? peer r with
    | some reply => c.turn o (some reply) r.missed
    | none => if r.deadline ≤ c.time then c.turn o none r.missed else c

/-- So many turns or parts of them. -/
def advanceFor (peer : Peer) : Nat → Connection → Connection
  | 0, c => c
  | n + 1, c => advanceFor peer n (c.advance peer)

/-- How much waits for the observer. -/
def load (c : Connection) : Nat :=
  let waiting (o : Observer) := o.rules.length + o.events.length
  (c.observer.map waiting).getD 0 + (c.reading.map (·.missed.length)).getD 0

/-- Goes on until nothing waits for the observer, or it waits for a body. Each event takes two parts
of a turn at most, and the last turn ends the observer if it was told to stop. -/
def catchUp (peer : Peer) (c : Connection) : Connection :=
  c.advanceFor peer (2 * c.load + 2)

/-- Tells the observer of something. -/
def tell (peer : Peer) (c : Connection) (news : Occurrence) : Connection :=
  match c.observer, c.reading with
  | none, _ => c
  | some o, none => { c with observer := some (o.step (fun _ _ => none) news) }.catchUp peer
  | some _, some r => { c with reading := some { r with missed := r.missed ++ [news] } }

/-- Takes in an event; what happens in the life of documents is for whoever waits for it. -/
def receive (peer : Peer) (c : Connection) : Event → Connection
  | .network e => c.tell peer (.event e)
  | .lifecycle _ | .withinDocument _ => c

/-- Takes in events. -/
def receiveAll (peer : Peer) (c : Connection) (events : List Event) : Connection :=
  events.foldl (receive peer) c

/-- Lets time pass. -/
def later (c : Connection) (duration : Nat) : Connection :=
  { c with time := c.time + duration }

/-- Sends a command and takes in all that it leads to. -/
def send (peer : Peer) (c : Connection) (command : Command) : Delivery × Connection :=
  let c := c.catchUp peer
  let delivery := peer.deliver c.sent command
  let sent := { c with sent := c.sent ++ [command] }
  (delivery, sent.receiveAll peer delivery.events)

/-- Registers a capture rule with the observer. -/
def register (peer : Peer) (c : Connection) (rule : CaptureRule) : Connection :=
  c.tell peer (.rule rule)

/-- Tells the observer to stop and waits until it has. An answer that it waits for comes now or not
in time. -/
def stopObserving (peer : Peer) (c : Connection) : Connection :=
  let c := (c.tell peer .stop).catchUp peer
  match c.reading with
  | none => c
  | some r => { c with time := max c.time r.deadline }.catchUp peer

/-- The captures and findings of the observer. -/
def observed (c : Connection) : List Capture × List Finding :=
  match c.observer with
  | none => ([], [])
  | some o => (o.router.captures, o.findings)

/-- What the recorder has written. -/
def recorded (c : Connection) : List UInt8 :=
  (c.recorder.map (·.content)).getD []

end Connection

namespace Talk

/-- Sends a command. Gives the events that came, and the answer unless none comes in time. -/
def exchange (peer : Peer) (command : Command) : Talk Delivery := fun c =>
  let (delivery, c) := c.send peer command
  match delivery.reply with
  | some _ => .ok delivery c
  | none => .ok delivery (c.later patience)

/-- The result that an answer holds, or why there is none. -/
def resultOf : Option Reply → Except String Json
  | some (.ok v) => .ok v
  | some (.error reason) => .error (refusal reason)
  | none => .error noAnswer

/-- Sends a command and gives its result, or why there is none. -/
def ask (peer : Peer) (command : Command) : Talk (Except String Json) := do
  let delivery ← exchange peer command
  return resultOf delivery.reply

/-- Sends a command that has to work. -/
def order (peer : Peer) (command : Command) : Talk Unit := do
  match ← ask peer command with
  | .ok _ => return ()
  | .error reason => throw (.connection reason)

end Talk

end PageScript.Chrome
