import PageScript.Capture.FileName
import PageScript.Capture.Response
import PageScript.Log

/-!
# Matching responses with rules

The router learns of responses and of the ends of requests, in either order, and of bodies. A
response that a rule is meant for waits for its body; one that no rule is meant for is remembered
until its request ends; an end without a response is held until the response comes. Bodies become
captures, in the order in which they are settled. `Router.settle` tells what to write to the
downloads directory; whether that works does not change the router.
-/

namespace PageScript

/-- How the loading of a request ended. -/
inductive LoadingEnd where
  | finished
  /-- It failed, with the reason given. -/
  | failed (reason : String)
  deriving DecidableEq, Repr

/-- A response that waits for its body. -/
structure PendingCapture where
  rule : CaptureRule
  response : ResponseMeta
  /-- The end of its request, if that came first and has not been asked for. -/
  earlyEnd : Option LoadingEnd

/-- A file to write into the downloads directory. -/
structure Download where
  name : String
  bytes : List UInt8
  deriving DecidableEq, Repr

/-- The state of the router. -/
structure Router where
  rules : List CaptureRule
  /-- Responses that wait for their bodies, by request. -/
  pending : List (String × PendingCapture)
  /-- Requests with a response that no rule was meant for and that have not ended. -/
  ignored : List String
  /-- Ends of requests whose response has not come. -/
  earlyEnds : List (String × LoadingEnd)
  captures : List Capture

namespace Router

/-- The value of a request. -/
def find? (id : String) : List (String × α) → Option α
  | [] => none
  | (other, a) :: rest => if other = id then some a else find? id rest

/-- All but the value of a request. -/
def without (id : String) (table : List (String × α)) : List (String × α) :=
  table.filter (·.1 != id)

/-- Gives a request a value in place of any other. -/
def assign (id : String) (a : α) (table : List (String × α)) : List (String × α) :=
  (id, a) :: without id table

/-- A router that has seen nothing. -/
def empty : Router := ⟨[], [], [], [], []⟩

/-- Adds a rule after those already there. -/
def register (r : Router) (rule : CaptureRule) : Router :=
  { r with rules := r.rules ++ [rule] }

/-- The first rule meant for an address. -/
def ruleFor? (r : Router) (url : String) : Option CaptureRule :=
  r.rules.find? (·.applies url)

/-- Whether a request waits for its body. -/
def isPending (r : Router) (id : String) : Bool :=
  (find? id r.pending).isSome

/-- What the log tells of a captured response. -/
def capturedLine (m : ResponseMeta) : LogLine :=
  .info ("🟢 Request Captured [" ++ String.ofList (Text.signedDecimal m.status) ++ "] " ++ m.url)

/-- The response of a request has come. Gives the router, whether a rule is meant for it, and what
the log tells. -/
def onResponse (r : Router) (id : String) (m : ResponseMeta) : Router × Bool × List LogLine :=
  let early := find? id r.earlyEnds
  let r := { r with earlyEnds := without id r.earlyEnds }
  match r.ruleFor? m.url with
  | none =>
    match early with
    | none => ({ r with ignored := if r.ignored.contains id then r.ignored else id :: r.ignored },
        false, [])
    | some _ => (r, false, [])
  | some rule =>
    ({ r with pending := assign id ⟨rule, m, early⟩ r.pending }, true, [capturedLine m])

/-- The loading of a request has ended. Gives the end back if its body should be settled now. -/
def onLoadingEnd (r : Router) (id : String) (ending : LoadingEnd) : Router × Option LoadingEnd :=
  if r.isPending id then (r, some ending)
  else if r.ignored.contains id then ({ r with ignored := r.ignored.filter (· != id) }, none)
  else ({ r with earlyEnds := assign id ending r.earlyEnds }, none)

/-- Takes the end that came before the response of a request. -/
def takeEarlyEnd (r : Router) (id : String) : Router × Option LoadingEnd :=
  match find? id r.pending with
  | none => (r, none)
  | some p => ({ r with pending := assign id { p with earlyEnd := none } r.pending }, p.earlyEnd)

/-- What settling a body leads to. -/
structure Settled where
  router : Router
  log : List LogLine
  download : Option Download

/-- What the log tells of a body that could not be read. -/
def bodyLog : Except String ResponseBody → List LogLine
  | .ok _ => []
  | .error reason => [.failure ("Error reading response body: " ++ reason)]

/-- The bytes of a body that may not have been read, in a file. -/
def bodyBytes (pretty : Bool) : Except String ResponseBody → List UInt8
  | .ok body => body.fileBytes pretty
  | .error _ => []

/-- A body that may not have been read, in the output document. -/
def bodyValue : Except String ResponseBody → Json
  | .ok body => body.inline
  | .error _ => .null

/-- The body of a request was read, or could not be. A request that does not wait for its body
changes nothing. -/
def settle (r : Router) (id : String) (body : Except String ResponseBody) : Settled :=
  match find? id r.pending with
  | none => ⟨r, [], none⟩
  | some p =>
    let m := p.response
    let name := FileName.derive m.url m.contentType
    let payload := if p.rule.download then .file name else .inline (bodyValue body)
    let download :=
      if p.rule.download then some ⟨name, bodyBytes p.rule.pretty body⟩ else none
    ⟨{ r with
        pending := without id r.pending
        captures := r.captures ++ [⟨m.url, m.status, m.headers, payload⟩] },
      bodyLog body, download⟩

end Router

end PageScript
