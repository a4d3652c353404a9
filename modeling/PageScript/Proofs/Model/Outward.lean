import PageScript.Proofs.Model.Comparing

/-!
# A language model only reaches outward

Asking a model sends a request and may keep the exchange in files, and the action it names is
performed by calls of the page. Whatever relation of states these keep is kept by instructions as a
whole (`assistant_leads`). Nothing of this touches the rules, the output or the lines for the host,
so that what holds of runs with an assistant that only reaches outward holds of runs with a model.

**What it does not establish.** What a model answers, and which of its answers can be used.
-/

namespace PageScript

variable {R : RunState → RunState → Prop}

/-- The document that a reply is, if it is one. -/
def Model.Reply.document? : Reply → Option Json
  | .unreachable => none
  | .answered _ body => (Json.parseBytes body).toOption

namespace Model.Client

open Run

variable (client : Client)

/-! ## Requests and records -/

/-- A request counts as sent if there is a reply, and gives the document that the reply is. -/
theorem send_cases (request : Request) (s : RunState) :
    let sent := { s with requests := s.requests ++ [request] }
    let document? := (client.server (s.requests ++ [request])).document?
    (∃ e, client.send request s = .error e s) ∨
      document? = none ∧ (∃ e, client.send request s = .error e sent) ∨
      ∃ status reply, document? = some reply ∧
        client.send request s = .ok (status, reply) sent := by
  unfold send
  dsimp only
  split
  · exact .inl ⟨_, rfl⟩
  cases client.server (s.requests ++ [request]) with
  | unreachable => exact .inl ⟨_, rfl⟩
  | answered status body =>
    rw [Reply.document?]
    dsimp only
    cases Json.parseBytes body with
    | error fault => exact .inr (.inl ⟨rfl, _, rfl⟩)
    | ok reply => exact .inr (.inr ⟨status, reply, rfl, rfl⟩)

/-- Nothing but the requests changes when one is sent. -/
theorem left_send (request : Request) (s : RunState) :
    left (client.send request s) = s ∨
      left (client.send request s) = { s with requests := s.requests ++ [request] } := by
  obtain ⟨e, sends⟩ | ⟨-, e, sends⟩ | ⟨status, reply, -, sends⟩ := client.send_cases request s
  · exact .inl (by rw [sends]; rfl)
  · exact .inr (by rw [sends]; rfl)
  · exact .inr (by rw [sends]; rfl)

/-- Nothing but the log of exchanges, the files and the log changes when an exchange is kept. -/
theorem left_record (request : Request) (reply : Json) (s : RunState) :
    ∃ inference files lines, left (client.record request reply s) =
      { s with inference := inference, files := files, log := s.log ++ lines } := by
  unfold record
  split
  · exact ⟨s.inference, s.files, [], by rw [List.append_nil]; rfl⟩
  · exact ⟨_, _, _, rfl⟩

/-! ## Relations along which a client leads -/

/-- A relation of states that asking a model leads along, and keeping the exchange. -/
structure Asks (R : RunState → RunState → Prop) : Prop extends Course R where
  sends : ∀ request, Leads R (client.send request)
  records : ∀ request reply, Leads R (client.record request reply)

/-- A relation of states that everything a model needs leads along. -/
structure Reaches (R : RunState → RunState → Prop) : Prop extends Calling R where
  sends : ∀ request, Leads R (client.send request)
  records : ∀ request reply, Leads R (client.record request reply)

/-- A relation of states that calls of the page lead along, and whole exchanges with a model. -/
structure Exchanges (R : RunState → RunState → Prop) : Prop extends Calling R where
  acts : ∀ messages, Leads R (client.complete "act" messages)
  extracts : ∀ messages, Leads R (client.complete "extract" messages)

variable {client}

theorem Asks.complete (asks : client.Asks R) (purpose : String) (messages : List Message) :
    Leads R (client.complete purpose messages) := by
  refine asks.leads_bind (asks.sends _) fun answer => ?_
  refine asks.leads_bind (asks.records _ _) fun _ => ?_
  cases answerOf answer.1 answer.2 with
  | ok v => exact asks.leads_pure v
  | error e => exact asks.leads_throw e

/-- Instructions lead along whatever their exchanges and calls lead along. -/
theorem Exchanges.assistant (exchanges : client.Exchanges R) (page : Page) :
    (client.assistant page).Leads R :=
  assistant_leads exchanges.toCourse (fun call => page.ask_leads call exchanges.toCalling)
    (fun ms what call => page.askWithin_leads call exchanges.toCalling ms what) exchanges.acts
    exchanges.extracts

theorem Reaches.exchanges (reaches : client.Reaches R) : client.Exchanges R :=
  have asks : client.Asks R := ⟨reaches.toCourse, reaches.sends, reaches.records⟩
  ⟨reaches.toCalling, asks.complete "act", asks.complete "extract"⟩

/-- Instructions lead along whatever their single operations lead along. -/
theorem Reaches.assistant (reaches : client.Reaches R) (page : Page) :
    (client.assistant page).Leads R :=
  reaches.exchanges.assistant page

variable (client)

theorem reaches_beyond : client.Reaches Beyond where
  toCalling := Beyond.calling
  sends request s := by
    obtain same | same := client.left_send request s <;> rw [same]
    · exact Beyond.course.refl s
    · exact ⟨List.prefix_rfl, rfl, rfl, rfl⟩
  records request reply s := by
    obtain ⟨inference, files, lines, same⟩ := client.left_record request reply s
    rw [same]
    exact ⟨List.prefix_rfl, rfl, rfl, rfl⟩

/-- A model as an assistant only reaches outward. -/
theorem assistant_outward (page : Page) : (client.assistant page).Outward :=
  ⟨(client.reaches_beyond.assistant page).act, (client.reaches_beyond.assistant page).extract⟩

/-- A client of a server, with nothing else to it. -/
def ofServer (server : Server) : Client :=
  { endpoint := .resolve "llama3" none
    apiKey := "key"
    instructions := none
    server := server
    timestamp := fun _ => "" }

end Model.Client

/-- A page that answers nothing. -/
def silentPage : Page :=
  ⟨fun _ _ => ⟨0, .ok .null⟩⟩

end PageScript
