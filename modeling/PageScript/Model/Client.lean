import PageScript.Json.Parser
import PageScript.Model.Endpoint
import PageScript.Model.PageView
import PageScript.Model.PlannedAction
import PageScript.Model.Prompt
import PageScript.Model.Reply
import PageScript.Run.Assistant
import PageScript.Settings

/-!
# The language model as an assistant

An instruction becomes one request: what the model needs to see of the page goes with it, the reply
names one action, and the action is performed. A page that refuses an operation makes the outcome
an unsuccessful one; that the model cannot be asked, or that its answer is no JSON, is a failure of
the step. The values of variables are filled in after the model has answered.
-/

namespace PageScript.Model

/-- What is needed to ask a language model. -/
structure Client where
  endpoint : Endpoint
  apiKey : String
  /-- Instructions that go before those of this program. -/
  instructions : Option String
  server : Server
  timestamp : Nat → String

namespace Client

/-- The client that settings ask for. -/
def ofSettings (settings : Settings) (server : Server) (timestamp : Nat → String) : Client :=
  { endpoint := .resolve settings.aiModel settings.aiBaseUrl
    apiKey := settings.aiApiKey
    instructions := settings.aiSystemPrompt
    server := server
    timestamp := timestamp }

/-- What is asked. -/
def requestBody (client : Client) (messages : List Message) : Json :=
  .ofFields
    [("model", .string client.endpoint.model), ("messages", .array (messages.map Message.toJson)),
     ("temperature", .ofFloat 0.1),
     ("response_format", .object [("type", .string "json_object")])]

/-- The request for a purpose. -/
def request (client : Client) (purpose : String) (messages : List Message) : Request :=
  { purpose := purpose
    url := client.endpoint.url
    authorization := "Bearer " ++ client.apiKey
    body := client.requestBody messages }

/-- Sends a request. Gives the status and the document that came back. A request that reaches no
server leaves no trace in the state; one that was answered does, whatever the answer is. -/
def send (client : Client) (request : Request) : Run (Nat × Json) := fun s =>
  if !fitsHeader request.authorization then .error (.model "builder error") s
  else
    let sent := { s with requests := s.requests ++ [request] }
    match client.server sent.requests with
    | .unreachable =>
      .error (.model ("error sending request for url (" ++ request.url ++ ")")) s
    | .answered status body =>
      match Json.parseBytes body with
      | .ok reply => .ok (status, reply) sent
      | .error _ => .error (.model "error decoding response body") sent

/-- Keeps an exchange if exchanges are kept. -/
def record (client : Client) (request : Request) (reply : Json) : Run Unit := fun s =>
  match s.inference with
  | none => .ok () s
  | some log =>
    let (log, files, lines) :=
      log.record s.files request.purpose (client.timestamp s.now) request.body reply
    .ok () { s with inference := some log, files := files, log := s.log ++ lines }

/-- The text that a reply holds. -/
def content (status : Nat) (reply : Json) : Except Failure String :=
  if isSuccess status then
    match ((((reply.field "choices").item 0).field "message").field "content").text? with
    | some text => .ok text
    | none => .error (.model ("No content in model response: " ++ reply.print))
  else
    let message := ((reply.field "error").field "message").text?.getD "Unknown API error"
    .error (.model ("API error (" ++ statusText status ++ "): " ++ message))

/-- The document that the text of a reply is. -/
def document (content : String) : Except Failure Json :=
  match Json.parse (unfence content) with
  | .ok v => .ok v
  | .error e => .error (.model ("Failed to parse model response: " ++ e.message))

/-- The document that a reply holds. -/
def answerOf (status : Nat) (reply : Json) : Except Failure Json := do
  let text ← content status reply
  document text

/-- Asks the model and gives its answer. -/
def complete (client : Client) (purpose : String) (messages : List Message) : Run Json := do
  let request := client.request purpose messages
  let (status, reply) ← client.send request
  client.record request reply
  match answerOf status reply with
  | .ok v => return v
  | .error e => throw e

/-- How far to scroll at once. -/
def scrollStep : Float := 600

/-- The calls that an action consists of, values filled in. -/
def plan (vars : Variables) (timeout : Nat) : PlannedAction → Except Failure (List PageCall)
  | .click element _ => .ok [.click (.css (elementSelector element)) timeout none 1]
  | .fill element value _ => do
    let value ← vars.interpolate value
    return [.fill (.css (elementSelector element)) value timeout]
  | .type element value _ => do
    let value ← vars.interpolate value
    return [.click (.css (elementSelector element)) timeout none 1, .insertText value]
  | .press key _ => .ok [.keyDown key, .keyUp key]
  | .scroll direction _ =>
    .ok [.scrollBy 0 (if direction.toLower == "up" then -scrollStep else scrollStep)]
  | .none _ _ => .ok []

/-- Makes calls one after the other, up to the first that fails. -/
def makeCalls (page : Page) : List PageCall → Run Unit
  | [] => return ()
  | call :: rest => do
    let _ ← page.ask call
    makeCalls page rest

/-- The outcome of an action whose calls were all made. -/
def outcome (action : PlannedAction) : ActOutcome :=
  match action with
  | .none description reason => ⟨false, description, reason⟩
  | action => ⟨true, action.description, "Action performed"⟩

/-- Performs an action. Only a variable without a value is a failure; any other trouble makes the
outcome an unsuccessful one. -/
def perform (page : Page) (vars : Variables) (timeout : Nat) (action : PlannedAction) :
    Run ActOutcome := do
  match plan vars timeout action with
  | .error e => throw e
  | .ok calls =>
    match ← (makeCalls page calls).attempt with
    | .ok () => return outcome action
    | .error (.missingVariable name) => throw (.missingVariable name)
    | .error e => return ⟨false, action.description, e.message⟩

/-- Carries out an instruction. -/
def act (client : Client) (page : Page) (vars : Variables) (instruction : String)
    (timeout : Nat) : Run (Option ActOutcome) := do
  let snapshot ← page.ask (.evaluate snapshotScript)
  let messages :=
    actMessages instruction snapshot (vars.referencedNames instruction) client.instructions
  let reply ← client.complete "act" messages
  match PlannedAction.ofJson reply with
  | .error _ => return none
  | .ok action =>
    let outcome ← perform page vars timeout action
    return some outcome

/-- Reads data off the page. -/
def extract (client : Client) (page : Page) (instruction : String) (timeout : Nat) :
    Run (Option Json) := do
  let text ← page.askWithin timeout "reading page text" (.evaluate pageTextScript)
  let reply ← client.complete "extract" (extractMessages instruction text client.instructions)
  return (reply.field? "result").filter (!·.isNull)

/-- The model as an assistant on a page. -/
def assistant (client : Client) (page : Page) : Assistant where
  act := client.act page
  extract := client.extract page

end Client

end PageScript.Model
