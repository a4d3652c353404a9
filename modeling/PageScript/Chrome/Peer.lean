import PageScript.Capture.Response
import PageScript.Chrome.Command

/-!
# What the browser says

The browser answers commands and tells of events of its own accord. A `Peer` describes a browser by
what it says to each command, which may depend on all commands before. What has no answer within
half a minute is given up.
-/

namespace PageScript.Chrome

/-- Something that happened in the life of a document. -/
structure Lifecycle where
  /-- The frame that shows the document. -/
  frame : String
  /-- The loading that brought the document. -/
  loader : String
  name : String
  deriving DecidableEq, Repr

/-- Something that happened on the network. -/
inductive NetworkEvent where
  /-- The response to a request has come, without its body. -/
  | response (request : String) (response : ResponseMeta)
  | finished (request : String)
  | failed (request reason : String)

/-- Something that the browser tells of its own accord. -/
inductive Event where
  /-- Something happened in the life of a document. -/
  | lifecycle (e : Lifecycle)
  | network (e : NetworkEvent)
  /-- The main frame went to another place of the same document. -/
  | withinDocument (url : String)

/-- A picture of the page. -/
structure Frame where
  /-- The number to acknowledge it by. -/
  session : Int
  data : String
  deriving DecidableEq, Repr

/-- The answer to a command: a result, or why it was refused. -/
abbrev Reply := Except String Json

/-- What a command leads to. -/
structure Delivery where
  /-- What the browser tells before it answers. -/
  before : List Event
  /-- The answer, unless none ever comes. -/
  reply : Option Reply
  /-- What the browser tells after it has answered. -/
  after : List Event

namespace Delivery

/-- All that the browser tells. -/
def events (d : Delivery) : List Event :=
  d.before ++ d.after

end Delivery

/-- A browser, by what it says. -/
structure Peer where
  /-- The frame that shows the document of the page. -/
  mainFrame : String
  /-- What a command leads to, by the commands before it. -/
  deliver : List Command → Command → Delivery
  /-- The answer to the request for a body, by the commands before it and those since, once there is
  one. -/
  answer : List Command → Command → List Command → Option Reply
  /-- The pictures it sends while it is asked for pictures. -/
  frames : List Frame

/-- How a refusal reads. -/
def refusal (reason : String) : String :=
  "Error -32000: " ++ reason

/-- How a command without an answer reads. -/
def noAnswer : String :=
  "Request timed out."

end PageScript.Chrome
