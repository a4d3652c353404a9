import PageScript.Capture.Saving
import PageScript.Chrome.Peer
import PageScript.Json.Mismatch

/-!
# Observing the network

The observer has three things to attend to: rules that a run sends, events on the network, and the
word to stop. It does one thing a turn: it registers a rule if there is one, else it stops if it is
to stop, else it handles an event. So a rule is registered before any event that is handled after
it was sent; and what has not been handled when the word to stop comes is not handled any more.

Handling an event tells the router of it, and reads the body of a captured response once it is
complete. `Observer.turn` is one turn, body and all; `Observer.follow` goes through any sequence of
arrivals and turns.
-/

namespace PageScript

namespace Chrome

/-- What the browser answers to the request for a body, by the requests whose bodies were asked for
before. -/
abbrev Bodies := List String → String → Option Reply

namespace BodyReply

/-- A field that must be there. -/
def required (name : String) (v : Json) : Except Json.Mismatch Json :=
  match v.field? name with
  | some value => .ok value
  | none => .error (.missingField name)

/-- A truth value. -/
def asFlag : Json → Except Json.Mismatch Bool
  | .bool b => .ok b
  | v => v.mismatch "a boolean"

/-- The body that a browser hands out and whether it is encoded. -/
def ofJson (v : Json) : Except Json.Mismatch (String × Bool) := do
  let body ← required "body" v
  let body ← body.asText
  let encoded ← required "base64Encoded" v
  let encoded ← asFlag encoded
  return (body, encoded)

/-- The body of a response of a content type, or why it could not be read. -/
def decode (contentType : String) : Option Reply → Except String ResponseBody
  | none => .error noAnswer
  | some (.error reason) => .error (refusal reason)
  | some (.ok v) =>
    match ofJson v with
    | .error m => .error m.message
    | .ok (body, encoded) => (ResponseBody.decode body encoded contentType).mapError Failure.message

end BodyReply

end Chrome

namespace Router

open Chrome (NetworkEvent Bodies)

/-- What is to be settled after an event: a request with the way its loading ended. -/
abbrev Due := Option (String × LoadingEnd)

/-- Is told of an event. Gives the router, what is to be settled now, and what the log tells. -/
def receive (r : Router) : NetworkEvent → Router × Due × List LogLine
  | .response id m =>
    let (r, matched, lines) := r.onResponse id m
    if matched then
      let (r, early) := r.takeEarlyEnd id
      (r, early.map (id, ·), lines)
    else (r, none, lines)
  | .finished id =>
    let (r, due) := r.onLoadingEnd id .finished
    (r, due.map (id, ·), [])
  | .failed id reason =>
    let (r, due) := r.onLoadingEnd id (.failed reason)
    (r, due.map (id, ·), [])

/-- The content type of the response that a request waits for the body of. -/
def pendingType (r : Router) (id : String) : String :=
  ((find? id r.pending).map (·.response.contentType)).getD ""

end Router

namespace Chrome

/-- The observer of the network. -/
structure Observer where
  /-- Rules that were sent and are not registered yet, first sent first. -/
  rules : List CaptureRule
  /-- Events that came and are not handled yet, first come first. -/
  events : List NetworkEvent
  /-- Whether no more events can come. -/
  closed : Bool
  /-- Whether it was told to stop. -/
  stopping : Bool
  stopped : Bool
  /-- What was captured and what is captured for. -/
  router : Router
  /-- The requests whose bodies were asked for, first asked for first. -/
  asked : List String
  /-- What this has led to, first finding first. -/
  findings : List Finding

/-- Something that reaches the observer, or a turn of it. -/
inductive Occurrence where
  | rule (rule : CaptureRule)
  | event (event : NetworkEvent)
  | close
  | stop
  | turn

namespace Observer

/-- An observer that has seen nothing. -/
def start : Observer :=
  { rules := [], events := [], closed := false, stopping := false, stopped := false
    router := .empty, asked := [], findings := [] }

/-- Adds what settling a body leads to. -/
def addSettled (o : Observer) (settled : Router.Settled) : Observer :=
  { o with router := settled.router, findings := o.findings ++ settled.findings }

/-- Settles what is to be settled, reading the body unless loading failed. -/
def settle (bodies : Bodies) (o : Observer) : Router.Due → Observer
  | none => o
  | some (id, .failed reason) => o.addSettled (o.router.settle id (.error reason))
  | some (id, .finished) =>
    let body := BodyReply.decode (o.router.pendingType id) (bodies o.asked id)
    { o with asked := o.asked ++ [id] }.addSettled (o.router.settle id body)

/-- Handles an event. -/
def handle (bodies : Bodies) (o : Observer) (e : NetworkEvent) : Observer :=
  let (router, due, lines) := o.router.receive e
  { o with router := router, findings := o.findings ++ lines.map Finding.line }.settle bodies due

/-- One turn. Nothing happens if there is nothing to do, or any more. -/
def turn (bodies : Bodies) (o : Observer) : Observer :=
  if o.stopped then o
  else
    match o.rules with
    | rule :: rest => { o with rules := rest, router := o.router.register rule }
    | [] =>
      if o.stopping then { o with stopped := true }
      else
        match o.events with
        | e :: rest => { o with events := rest }.handle bodies e
        | [] => if o.closed then { o with stopped := true } else o

/-- Goes through one occurrence. -/
def step (bodies : Bodies) (o : Observer) : Occurrence → Observer
  | .rule rule => { o with rules := o.rules ++ [rule] }
  | .event e => { o with events := o.events ++ [e] }
  | .close => { o with closed := true }
  | .stop => { o with stopping := true }
  | .turn => o.turn bodies

/-- Goes through occurrences. -/
def follow (bodies : Bodies) (o : Observer) (all : List Occurrence) : Observer :=
  all.foldl (step bodies) o

/-- The request whose body the next turn asks for, if it asks for one. -/
def wants? (o : Observer) : Option String :=
  if o.stopped || !o.rules.isEmpty || o.stopping then none
  else
    match o.events.head?.map fun e => (o.router.receive e).2.1 with
    | some (some (id, .finished)) => some id
    | _ => none

end Observer

end Chrome

end PageScript
