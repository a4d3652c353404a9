import PageScript.Chrome.Peer
import PageScript.Chrome.Polling
import PageScript.Failure
import PageScript.Json.Mismatch

/-!
# When a navigation is finished

A navigation is asked for with one command; what happens in the life of documents is told all the
while. `goto` waits for the answer and then for an event of the very loading that the answer names;
`reload` learns the loading from the first event of it. Events of other frames and of other
loadings are passed over, those that came before the answer count. Each wait has its limit.

Times are in nanoseconds from the command on.
-/

namespace PageScript.Chrome

/-- Something and when it happened. -/
structure Timed (α : Type) where
  time : Nat
  value : α
  deriving DecidableEq, Repr

/-- What is told of the lives of documents, first told first, and when the connection closed, if
it did. -/
structure LifecycleStream where
  /-- What was told, with its time. -/
  events : List (Timed Lifecycle)
  closed : Option Nat

/-- The answer to a navigation. -/
structure NavigateReply where
  /-- The frame that went to the address. -/
  frame : String
  /-- The loading that brings the document; none if the document stays the same. -/
  loader : Option String
  /-- Why the address could not be opened. -/
  errorText : Option String
  deriving DecidableEq, Repr

namespace NavigateReply

/-- A text that may be absent. -/
def text? : Option Json → Except Json.Mismatch (Option String)
  | none | some .null => .ok none
  | some v => v.asText.map some

/-- The answer that a value is. -/
def ofJson (v : Json) : Except Json.Mismatch NavigateReply := do
  let frame ← match v.field? "frameId" with
    | some frame => frame.asText
    | none => .error (.missingField "frameId")
  let loader ← text? (v.field? "loaderId")
  let errorText ← text? (v.field? "errorText")
  return ⟨frame, loader, errorText⟩

end NavigateReply

namespace Navigation

/-- When the wait for an event ends: at the event, or when the connection closes. -/
def endOf (event : Option Nat) (stream : LifecycleStream) : Option Nat :=
  event.or stream.closed

/-- When an event of a frame, a loading and a name is told. -/
def event? (frame loader name : String) (stream : LifecycleStream) : Option Nat :=
  (stream.events.find? fun e =>
    e.value.frame == frame && e.value.name == name && e.value.loader == loader).map (·.time)

/-- The name of the event that begins a loading. -/
def beginning : String := "init"

/-- When an event of a name is told that belongs to the last loading a frame has begun; `loader` is
the loading it has begun so far. -/
def reloaded? (frame name : String) (loader : Option String) : List (Timed Lifecycle) → Option Nat
  | [] => none
  | e :: rest =>
    if e.value.frame != frame then reloaded? frame name loader rest
    else if e.value.name == beginning then reloaded? frame name (some e.value.loader) rest
    else if e.value.name == name && loader == some e.value.loader then some e.time
    else reloaded? frame name loader rest

/-- Waits, from `start` on, for something that happens at `moment`, but not past `limit`. -/
def await (start limit : Nat) (moment : Option Nat) (late : Failure) :
    Timed (Except Failure Unit) :=
  match moment with
  | some t => if max start t ≤ limit then ⟨max start t, .ok ()⟩ else ⟨limit, .error late⟩
  | none => ⟨limit, .error late⟩

/-- What a wait for an address is called. -/
def opening (url : String) : String :=
  "navigating to \"" ++ url ++ "\""

/-- What a wait for an event is called. -/
def awaiting (what event : String) : String :=
  what ++ ", waiting until \"" ++ event ++ "\""

/-- Opens an address: how it ends and when. `timeout` is in milliseconds. -/
def goto (url : String) (timeout : Nat) (event : Option String)
    (reply : Option (Timed (Except String NavigateReply))) (stream : LifecycleStream) :
    Timed (Except Failure Unit) :=
  let limit := timeout * millisecond
  let late : Timed (Except Failure Unit) := ⟨limit, .error (.timeout timeout (opening url))⟩
  match reply with
  | none => late
  | some ⟨answered, outcome⟩ =>
    if limit < answered then late
    else
      match outcome with
      | .error reason => ⟨answered, .error (.navigationFailed (url ++ ": " ++ reason))⟩
      | .ok ⟨frame, loader, errorText⟩ =>
        match errorText, event, loader with
        | some text, _, _ => ⟨answered, .error (.navigationFailed (text ++ " at " ++ url))⟩
        | none, some event, some loader =>
          await answered limit (endOf (event? frame loader event stream) stream)
            (.timeout timeout (awaiting (opening url) event))
        | none, _, _ => ⟨answered, .ok ()⟩

/-- Loads the page in a frame again, the command being answered at `answered`: how it ends and
when. `timeout` is in milliseconds and counted from the answer. -/
def reload (frame : String) (timeout : Nat) (event : Option String) (answered : Nat)
    (stream : LifecycleStream) : Timed (Except Failure Unit) :=
  match event with
  | none => ⟨answered, .ok ()⟩
  | some event =>
    await answered (answered + timeout * millisecond)
      (endOf (reloaded? frame event none stream.events) stream)
      (.timeout timeout (awaiting "reloading" event))

/-- Whether an event shows that the main frame goes somewhere, to a document that a loading brings
or within the same document. -/
def shows (mainFrame : String) (loader : Option String) : Event → Bool
  | .lifecycle e => e.frame == mainFrame && loader == some e.loader
  | .withinDocument _ => true
  | .network _ => false

/-- Whether the answer to a navigation comes through: at once if the address could not be opened,
else only when the main frame is seen to go somewhere. -/
def comesThrough (mainFrame : String) (reply : NavigateReply) (events : List Event) : Bool :=
  (reply.errorText.any fun text => !text.isEmpty) || events.any (shows mainFrame reply.loader)

end Navigation

end PageScript.Chrome
