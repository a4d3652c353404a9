import PageScript.Proofs.Model.Choosing

/-!
# What becomes of an instruction

For an instruction, `act` evaluates the snapshot script on the page, sends the model one request
with what the script gave, and makes the page calls of the action in its reply one after the other
(`Page.Makes`), up to the first that fails. These calls are a function of the action, the variables
and the timeout (`PlannedAction.Plan`), known before the first of them is made. `act` then ends in
one of four ways (`Acts`): with a failure, because the model gave no document or because the text of
its action has a placeholder without a value, and then the snapshot script is the only call; without
an outcome, because the document is no action; or with an `ActOutcome`, which is unsuccessful if a
call failed (`act_account`).

**What it does not establish.** The page and the server are given by their answers and never wait
for each other; nothing is said of how long an instruction takes, nor of pages that themselves fail
for want of a variable.
-/

namespace PageScript

open Run

/-- No answer of the page is the failure `missingVariable`, which only filling in raises. -/
def Page.MissesNoVariable (page : Page) : Prop :=
  ∀ h call n, (page.answer h call).outcome ≠ .error (.missingVariable n)

/-! ## Calls one after the other -/

/-- From a state the page is asked a list of calls one after the other up to the first that fails:
the calls that were asked, the failure of the last of them if it failed, and the state after it. -/
inductive Page.Makes (page : Page) :
    RunState → List PageCall → List PageCall → Option Failure → RunState → Prop where
  | done {s : RunState} : page.Makes s [] [] none s
  | fails {s t : RunState} {call : PageCall} {rest : List PageCall} {e : Failure}
    (failed : page.ask call s = .error e t) : page.Makes s (call :: rest) [call] (some e) t
  | next {s t u : RunState} {call : PageCall} {v : Json} {rest made : List PageCall}
    {trouble : Option Failure} (answered : page.ask call s = .ok v t)
    (later : page.Makes t rest made trouble u) :
    page.Makes s (call :: rest) (call :: made) trouble u

namespace Page

variable {page : Page} {s t : RunState} {call : PageCall} {plan made : List PageCall}
  {trouble : Option Failure}

/-- `ask` appends the call to the calls of the history, whether it is answered or fails. -/
theorem calls_ask (page : Page) (call : PageCall) (s : RunState) :
    (left (page.ask call s)).history.calls = s.history.calls ++ [.page call] := by
  rw [left_ask]
  simp [RunState.history, RunState.addCall, RunState.later]

/-- `ask` leaves the requests to the model as they are. -/
theorem requests_ask (page : Page) (call : PageCall) (s : RunState) :
    (left (page.ask call s)).requests = s.requests := by
  rw [left_ask]
  rfl

/-- On such a page `ask` does not fail with `missingVariable`. -/
theorem MissesNoVariable.ask (misses : page.MissesNoVariable) {n : String} :
    page.ask call s ≠ .error (.missingVariable n) t := by
  intro failed
  have outcome := page.outcome_ask call s
  rw [failed] at outcome
  exact misses _ _ _ outcome.symm

namespace Makes

/-- The calls that were asked are the first of the plan, in its order. -/
theorem isPrefix (makes : page.Makes s plan made trouble t) : made <+: plan := by
  induction makes with
  | done => exact List.prefix_rfl
  | fails failed => exact List.prefix_append [_] _
  | next answered later ih => exact (List.prefix_cons_inj _).mpr ih

/-- If no call failed, all calls of the plan were asked. -/
theorem eq_of_none (makes : page.Makes s plan made none t) : made = plan := by
  generalize nothing : (none : Option Failure) = trouble at makes
  induction makes with
  | done => rfl
  | fails failed => cases nothing
  | next answered later ih => rw [ih nothing]

/-- The history has the calls that were asked after those before, and no others. -/
theorem calls (makes : page.Makes s plan made trouble t) :
    t.history.calls = s.history.calls ++ made.map .page := by
  induction makes with
  | done => rw [List.map_nil, List.append_nil]
  | @fails s t call rest e failed =>
    have called := page.calls_ask call s
    rw [failed] at called
    exact called
  | @next s t u call v rest made trouble answered later ih =>
    have called := page.calls_ask call s
    rw [answered] at called
    have here : t.history.calls = s.history.calls ++ [.page call] := called
    rw [ih, here, List.append_assoc, List.singleton_append, List.map_cons]

/-- Making the calls of an action sends no request to the model. -/
theorem requests (makes : page.Makes s plan made trouble t) : t.requests = s.requests := by
  induction makes with
  | done => rfl
  | @fails s t call rest e failed =>
    have same := page.requests_ask call s
    rw [failed] at same
    exact same
  | @next s t u call v rest made trouble answered later ih =>
    have same := page.requests_ask call s
    rw [answered] at same
    exact ih.trans same

/-- On a page that misses no variable the failure of the last call is not `missingVariable`. -/
theorem ne_missingVariable (misses : page.MissesNoVariable)
    (makes : page.Makes s plan made trouble t) (n : String) :
    trouble ≠ some (.missingVariable n) := by
  induction makes with
  | done => nofun
  | fails failed =>
    rintro ⟨⟩
    exact misses.ask failed
  | next answered later ih => exact ih

end Makes

/-- `makeCalls` asks the calls of a plan up to the first that fails, and ends as that one does. -/
theorem exists_makes (page : Page) (plan : List PageCall) (s : RunState) :
    ∃ made trouble t, page.Makes s plan made trouble t ∧
      Model.Client.makeCalls page plan s =
        match trouble with
        | none => .ok () t
        | some e => .error e t := by
  induction plan generalizing s with
  | nil => exact ⟨[], none, s, .done, rfl⟩
  | cons call rest ih =>
    cases answered : page.ask call s with
    | error e t => exact ⟨[call], some e, t, .fails answered, bind_of_error answered _⟩
    | ok v t =>
      obtain ⟨made, trouble, u, later, ends⟩ := ih t
      exact ⟨call :: made, trouble, u, .next answered later, (bind_of_ok answered _).trans ends⟩

end Page

/-! ## Plans -/

namespace PlannedAction

open Model

/-- The page calls of an action: a click and a key press are not filled in, the value of a `fill` or
`type` is, and a scroll goes up only for the word `up` in any case. -/
inductive Plan (vars : Variables) (timeout : Nat) : PlannedAction → List PageCall → Prop where
  | click {element description : String} :
    Plan vars timeout (.click element description)
      [.click (.css (elementSelector element)) timeout Option.none 1]
  | fill {element value description filled : String}
    (fills : vars.interpolate value = .ok filled) :
    Plan vars timeout (.fill element value description)
      [.fill (.css (elementSelector element)) filled timeout]
  | type {element value description filled : String}
    (fills : vars.interpolate value = .ok filled) :
    Plan vars timeout (.type element value description)
      [.click (.css (elementSelector element)) timeout Option.none 1, .insertText filled]
  | press {key description : String} :
    Plan vars timeout (.press key description) [.keyDown key, .keyUp key]
  | scroll {direction description : String} :
    Plan vars timeout (.scroll direction description)
      [.scrollBy 0 (if direction.toLower = "up" then -600 else 600)]
  | none {description reason : String} : Plan vars timeout (.none description reason) []

/-- The `ActOutcome` of an action of whose plan some calls were made: successful if the action is
other than `none`, all its calls were made and none failed; with the description of the action, and
with the message of the failed call if there is one. -/
structure Reported (action : PlannedAction) (plan made : List PageCall) (trouble : Option Failure)
    (result : ActOutcome) : Prop where
  success : result.success = true ↔
    (∀ description reason, action ≠ .none description reason) ∧ made = plan ∧ trouble = .none
  description : result.description = action.description
  message : ∀ e, trouble = some e → result.message = e.message

end PlannedAction

namespace Model.Client

variable {client : Client} {page : Page} {vars : Variables} {timeout : Nat}
  {action : PlannedAction} {instruction : String} {s t : RunState} {v : Json}

/-- The function `plan` computes `Plan`. -/
theorem plan_eq_ok_iff {calls : List PageCall} :
    plan vars timeout action = .ok calls ↔ action.Plan vars timeout calls := by
  constructor
  · intro planned
    cases action with
    | click element description =>
      cases planned
      exact .click
    | fill element value description =>
      cases fills : vars.interpolate value with
      | error e => simp [plan, fills, bind, Except.bind] at planned
      | ok filled =>
        simp only [plan, fills] at planned
        cases planned
        exact .fill fills
    | type element value description =>
      cases fills : vars.interpolate value with
      | error e => simp [plan, fills, bind, Except.bind] at planned
      | ok filled =>
        simp only [plan, fills] at planned
        cases planned
        exact .type fills
    | press key description =>
      cases planned
      exact .press
    | scroll direction description =>
      simp only [plan, beq_iff_eq] at planned
      cases planned
      exact .scroll
    | none description reason =>
      cases planned
      exact .none
  · intro planned
    cases planned with
    | click => rfl
    | fill fills => rw [plan, fills]; rfl
    | type fills => rw [plan, fills]; rfl
    | press => rfl
    | scroll =>
      simp only [plan, beq_iff_eq]
      rfl
    | none => rfl

/-- `perform` makes the calls of the plan and gives an `ActOutcome`, also where one of them fails.
-/
theorem perform_of_plan (misses : page.MissesNoVariable) {calls : List PageCall}
    (planned : action.Plan vars timeout calls) (s : RunState) :
    ∃ made trouble result t, page.Makes s calls made trouble t ∧
      action.Reported calls made trouble result ∧
      perform page vars timeout action s = .ok result t := by
  obtain ⟨made, trouble, t, makes, ends⟩ := page.exists_makes calls s
  unfold perform
  rw [plan_eq_ok_iff.mpr planned]
  dsimp only
  rw [bind_apply, attempt, ends]
  cases trouble with
  | none =>
    refine ⟨made, none, outcome action, t, makes, ?_, rfl⟩
    have all := makes.eq_of_none
    cases action <;> exact ⟨by simp [outcome, all], rfl, by simp⟩
  | some e =>
    have other := makes.ne_missingVariable misses
    refine ⟨made, some e, ⟨false, action.description, e.message⟩, t, makes, ?_, ?_⟩
    · refine ⟨by simp, rfl, ?_⟩
      rintro _ ⟨⟩
      rfl
    · cases e with
      | missingVariable n => exact absurd rfl (other n)
      | _ => rfl

end Model.Client

/-! ## What the model answers -/

namespace Model

/-- A reply has a status of success and a JSON body whose first choice has a content, and that
content, without code fences around it, is the text of the document. -/
inductive Reply.Holds : Reply → Json → Prop where
  | answered {status : Nat} {body : List UInt8} {reply v : Json} {text : String}
    (success : isSuccess status = true) (read : Json.parseBytes body = .ok reply)
    (content : ((((reply.field "choices").item 0).field "message").field "content").text? =
      some text)
    (parsed : Json.parse (unfence text) = .ok v) : Reply.Holds (.answered status body) v

/-- A reply holds one document at most. -/
theorem Reply.Holds.unique {reply : Reply} {v w : Json} (holds : reply.Holds v)
    (holds' : reply.Holds w) : v = w := by
  obtain ⟨-, read, content, parsed⟩ := holds
  obtain ⟨-, read', content', parsed'⟩ := holds'
  cases read.symm.trans read'
  cases content.symm.trans content'
  cases parsed.symm.trans parsed'
  rfl

namespace Client

variable (client : Client) {page : Page} {vars : Variables} {timeout : Nat}
  {action : PlannedAction} {instruction : String} {s t : RunState} {v : Json}

/-- A document is taken from a reply if the status is a success, the content of the first choice is
a text, and the text parses once fences are taken off. -/
theorem answerOf_eq_ok_iff {status : Nat} {reply : Json} :
    answerOf status reply = .ok v ↔ isSuccess status = true ∧
      ∃ text, ((((reply.field "choices").item 0).field "message").field "content").text? =
        some text ∧ Json.parse (unfence text) = .ok v := by
  unfold answerOf content
  by_cases success : isSuccess status = true
  · rw [if_pos success]
    cases ((((reply.field "choices").item 0).field "message").field "content").text? with
    | none => simp [bind, Except.bind]
    | some text =>
      cases parsed : Json.parse (unfence text) <;>
        simp [bind, Except.bind, document, parsed, success]
  · rw [if_neg success]
    simp [bind, Except.bind, success]

/-- Keeping an exchange never fails, also where it cannot be written. -/
theorem record_ok (request : Request) (reply : Json) (s : RunState) :
    ∃ t, client.record request reply s = .ok () t := by
  unfold record
  split <;> exact ⟨_, rfl⟩

/-- `send` gives a status and a document exactly if the key fits into a header and the server
answers with a body that is JSON; the request is then the last of the requests. -/
theorem send_eq_ok_iff {request : Request} {status : Nat} {reply : Json} :
    client.send request s = .ok (status, reply) t ↔
      fitsHeader request.authorization = true ∧
        (∃ body, client.server (s.requests ++ [request]) = .answered status body ∧
          Json.parseBytes body = .ok reply) ∧
        t = { s with requests := s.requests ++ [request] } := by
  unfold send
  by_cases fits : fitsHeader request.authorization = true
  · simp only [fits, Bool.not_true, Bool.false_eq_true, if_false, true_and]
    cases client.server (s.requests ++ [request]) with
    | unreachable => simp
    | answered status' body =>
      cases read : Json.parseBytes body with
      | error fault => simp [read]
      | ok reply' =>
        simp only [read]
        constructor
        · rintro ⟨⟩
          exact ⟨⟨body, rfl, read⟩, rfl⟩
        · rintro ⟨⟨_, ⟨⟩, read'⟩, rfl⟩
          cases read.symm.trans read'
          rfl
  · simp [fits]

/-- `complete` gives a document exactly if the key fits into a header and the reply of the server to
the request holds the document. -/
theorem complete_eq_ok_iff {purpose : String} {messages : List Message} :
    (∃ t, client.complete purpose messages s = .ok v t) ↔
      fitsHeader (client.request purpose messages).authorization = true ∧
        (client.server (s.requests ++ [client.request purpose messages])).Holds v := by
  constructor
  · rintro ⟨t, done⟩
    obtain ⟨⟨status, reply⟩, u, sends, rest⟩ := bind_eq_ok.mp done
    obtain ⟨-, w, -, ends⟩ := bind_eq_ok.mp rest
    obtain ⟨fits, ⟨body, answered, read⟩, -⟩ := client.send_eq_ok_iff.mp sends
    refine ⟨fits, ?_⟩
    rw [answered]
    cases answer : answerOf status reply with
    | error e =>
      rw [answer] at ends
      cases ends
    | ok w =>
      rw [answer] at ends
      cases ends
      obtain ⟨success, text, content, parsed⟩ := answerOf_eq_ok_iff.mp answer
      exact .answered success read content parsed
  · rintro ⟨fits, holds⟩
    generalize answered : client.server (s.requests ++ [client.request purpose messages]) = whole
      at holds
    obtain @⟨status, body, reply, v, text, success, read, content, parsed⟩ := holds
    have sends := client.send_eq_ok_iff.mpr ⟨fits, ⟨body, answered, read⟩, rfl⟩
    obtain ⟨t, records⟩ := client.record_ok (client.request purpose messages) reply
      { s with requests := s.requests ++ [client.request purpose messages] }
    have answer := answerOf_eq_ok_iff.mpr ⟨success, text, content, parsed⟩
    refine ⟨t, ?_⟩
    unfold complete
    rw [bind_of_ok sends]
    dsimp only
    rw [bind_of_ok records, answer]
    rfl

/-- `complete` adds its own request to the requests, or none. -/
theorem requests_complete (purpose : String) (messages : List Message) (s : RunState) :
    (left (client.complete purpose messages s)).requests = s.requests ∨
      (left (client.complete purpose messages s)).requests =
        s.requests ++ [client.request purpose messages] := by
  refine left_bind (P := fun t => t.requests = s.requests ∨
    t.requests = s.requests ++ [client.request purpose messages]) ?_ fun answer t sent => ?_
  · obtain same | same := client.left_send (client.request purpose messages) s
    · exact .inl (by rw [same])
    · exact .inr (by rw [same])
  · refine left_bind (P := fun u => u.requests = s.requests ∨
      u.requests = s.requests ++ [client.request purpose messages]) ?_ fun _ u recorded => ?_
    · obtain ⟨inference, files, lines, same⟩ :=
        client.left_record (client.request purpose messages) answer.2 t
      rw [same]
      exact sent
    · cases answerOf answer.1 answer.2 <;> exact recorded

/-- The model answers an instruction with a document: the page answers the snapshot script, the key
fits into a header, and the server's reply to the request with that snapshot holds the document. -/
def Answers (page : Page) (vars : Variables) (instruction : String) (s : RunState) (v : Json) :
    Prop :=
  ∃ snapshot looked, page.ask (.evaluate snapshotScript) s = .ok snapshot looked ∧
    let request := client.request "act"
      (actMessages instruction snapshot (vars.referencedNames instruction) client.instructions)
    fitsHeader request.authorization = true ∧
      (client.server (s.requests ++ [request])).Holds v

variable {client}

/-- The model answers an instruction with one document at most. -/
theorem Answers.unique {w : Json} (answers : client.Answers page vars instruction s v)
    (answers' : client.Answers page vars instruction s w) : v = w := by
  obtain ⟨snapshot, looked, looks, -, holds⟩ := answers
  obtain ⟨snapshot', looked', looks', -, holds'⟩ := answers'
  cases looks.symm.trans looks'
  exact holds.unique holds'

/-- Two answers to one instruction are decoded alike. -/
theorem Answers.decoded_unique {w : Json} {decoded decoded' : Except Json.Mismatch PlannedAction}
    (answers : client.Answers page vars instruction s v)
    (answers' : client.Answers page vars instruction s w)
    (first : PlannedAction.ofJson v = decoded) (second : PlannedAction.ofJson w = decoded') :
    decoded = decoded' := by
  rw [← first, ← second, answers.unique answers']

/-- `choose` succeeds exactly if the model answers, with the action that the answer decodes to, or
with none if it decodes to none. -/
theorem choose_eq_ok_iff {choice : Option PlannedAction} :
    (∃ t, client.choose page vars instruction s = .ok choice t) ↔
      ∃ v, client.Answers page vars instruction s v ∧
        choice = (PlannedAction.ofJson v).toOption := by
  constructor
  · rintro ⟨t, chosen⟩
    obtain ⟨snapshot, looked, looks, asks⟩ := bind_eq_ok.mp chosen
    obtain ⟨v, u, completes, ends⟩ := bind_eq_ok.mp asks
    have same := page.requests_ask (.evaluate snapshotScript) s
    rw [looks] at same
    have answers := client.complete_eq_ok_iff.mp ⟨u, completes⟩
    rw [show looked.requests = s.requests from same] at answers
    cases ends
    exact ⟨v, ⟨snapshot, looked, looks, answers⟩, rfl⟩
  · rintro ⟨v, ⟨snapshot, looked, looks, answers⟩, rfl⟩
    have same := page.requests_ask (.evaluate snapshotScript) s
    rw [looks] at same
    rw [← show looked.requests = s.requests from same] at answers
    obtain ⟨t, completes⟩ := client.complete_eq_ok_iff.mpr answers
    refine ⟨t, ?_⟩
    unfold choose
    rw [bind_of_ok looks, bind_of_ok completes]
    rfl

/-- `choose` sends no request, or the one with the snapshot that the page gave. -/
theorem requests_choose (client : Client) (page : Page) (vars : Variables) (instruction : String)
    (s : RunState) :
    let t := left (client.choose page vars instruction s)
    t.requests = s.requests ∨
      ∃ snapshot looked, page.ask (.evaluate snapshotScript) s = .ok snapshot looked ∧
        t.requests = s.requests ++ [client.request "act"
          (actMessages instruction snapshot (vars.referencedNames instruction)
            client.instructions)] := by
  dsimp only
  have same := page.requests_ask (.evaluate snapshotScript) s
  unfold choose
  cases looks : page.ask (.evaluate snapshotScript) s with
  | error e looked =>
    rw [looks] at same
    rw [bind_of_error looks]
    exact .inl same
  | ok snapshot looked =>
    rw [looks] at same
    have before : looked.requests = s.requests := same
    rw [bind_of_ok looks, ← before]
    let messages :=
      actMessages instruction snapshot (vars.referencedNames instruction) client.instructions
    let Sent : RunState → Prop := fun t => t.requests = looked.requests ∨
      t.requests = looked.requests ++ [client.request "act" messages]
    have sent : Sent (left ((client.complete "act" messages >>= fun reply =>
        (return (PlannedAction.ofJson reply).toOption : Run _)) looked)) :=
      left_bind (P := Sent) (client.requests_complete "act" messages looked) fun _ _ kept => kept
    obtain none | one := sent
    · exact .inl none
    · exact .inr ⟨snapshot, looked, rfl, one⟩

/-! ## The whole course -/

/-- What `choose` leaves, however it ends: the snapshot script as one more call, and no request more
or the one with the snapshot. -/
structure Asked (client : Client) (page : Page) (vars : Variables) (instruction : String)
    (s u : RunState) : Prop where
  history : u.history = (s.addCall (.page (.evaluate snapshotScript))).history
  requests : u.requests = s.requests ∨
    ∃ snapshot looked, page.ask (.evaluate snapshotScript) s = .ok snapshot looked ∧
      u.requests = s.requests ++ [client.request "act"
        (actMessages instruction snapshot (vars.referencedNames instruction) client.instructions)]

/-- After `choose` the snapshot script is the one call more. -/
theorem Asked.calls {u : RunState} (asked : client.Asked page vars instruction s u) :
    u.history.calls = s.history.calls ++ [.page (.evaluate snapshotScript)] := by
  rw [asked.history]
  simp [RunState.history, RunState.addCall]

/-- `choose` leaves what `Asked` says, whether it succeeds or fails. -/
theorem asked_choose (client : Client) (page : Page) (vars : Variables) (instruction : String)
    (s : RunState) :
    client.Asked page vars instruction s (left (client.choose page vars instruction s)) where
  history := by
    have aloof := client.aloof_choose page vars instruction s
    unfold RunState.history
    rw [aloof.calls, aloof.rules]
  requests := client.requests_choose page vars instruction s

/-- How `act` can end, with the page calls that it made after the snapshot script. `unanswered`: the
model gave no document, and `act` fails. `undecided`: the document is no action, and there is no
outcome. `unfilled`: the text of the action has a placeholder without a value, and `act` fails with
it. `performed`: calls of the action's plan were made, and there is an `ActOutcome`. -/
inductive Acts (client : Client) (page : Page) (vars : Variables) (instruction : String)
    (timeout : Nat) (s : RunState) :
    List PageCall → EStateM.Result Failure RunState (Option ActOutcome) → Prop where
  | unanswered {e : Failure} {u : RunState} (asked : client.Asked page vars instruction s u)
    (none : ∀ v, ¬ client.Answers page vars instruction s v) :
    Acts client page vars instruction timeout s [] (.error e u)
  | undecided {v : Json} {fault : Json.Mismatch} {u : RunState}
    (asked : client.Asked page vars instruction s u)
    (answers : client.Answers page vars instruction s v)
    (decoded : PlannedAction.ofJson v = .error fault) :
    Acts client page vars instruction timeout s [] (.ok Option.none u)
  | unfilled {v : Json} {action : PlannedAction} {value n : String} {u : RunState}
    (asked : client.Asked page vars instruction s u)
    (answers : client.Answers page vars instruction s v)
    (decoded : PlannedAction.ofJson v = .ok action) (typed : action.typed? = some value)
    (missing : vars.interpolate value = .error (.missingVariable n)) :
    Acts client page vars instruction timeout s [] (.error (.missingVariable n) u)
  | performed {v : Json} {action : PlannedAction} {plan made : List PageCall}
    {trouble : Option Failure} {result : ActOutcome} {u t : RunState}
    (asked : client.Asked page vars instruction s u)
    (answers : client.Answers page vars instruction s v)
    (decoded : PlannedAction.ofJson v = .ok action) (planned : action.Plan vars timeout plan)
    (makes : page.Makes u plan made trouble t)
    (reported : action.Reported plan made trouble result) :
    Acts client page vars instruction timeout s made (.ok (some result) t)

/-- Once `choose` has given an action, `act` ends as `performed` or `unfilled`. -/
theorem exists_acts_of_chosen (misses : page.MissesNoVariable) {u : RunState}
    (asked : client.Asked page vars instruction s u)
    (answers : client.Answers page vars instruction s v)
    (decoded : PlannedAction.ofJson v = .ok action) :
    ∃ made, client.Acts page vars instruction timeout s made
      ((perform page vars timeout action >>= fun result =>
        (return some result : Run (Option ActOutcome))) u) := by
  cases planned : plan vars timeout action with
  | error e =>
    obtain ⟨value, typed, unfilled⟩ := plan_eq_error_iff.mp planned
    obtain ⟨n, -, rfl⟩ := (vars.interpolate_eq_error_iff value e).mp unfilled
    rw [bind_of_error (perform_of_plan_error planned)]
    exact ⟨[], .unfilled asked answers decoded typed unfilled⟩
  | ok calls =>
    have planned := plan_eq_ok_iff.mp planned
    obtain ⟨made, trouble, result, t, makes, reported, performed⟩ :=
      perform_of_plan misses planned u
    rw [bind_of_ok performed]
    exact ⟨made, .performed asked answers decoded planned makes reported⟩

/-- Every run of `act` ends in one of the four ways. -/
theorem exists_acts (misses : page.MissesNoVariable) (client : Client) (vars : Variables)
    (instruction : String) (timeout : Nat) (s : RunState) :
    ∃ made, client.Acts page vars instruction timeout s made
      (client.act page vars instruction timeout s) := by
  have asked := client.asked_choose page vars instruction s
  rw [act_eq]
  cases chosen : client.choose page vars instruction s with
  | error e u =>
    rw [chosen] at asked
    rw [bind_of_error chosen]
    refine ⟨[], .unanswered asked ?_⟩
    intro v answers
    obtain ⟨_, ok⟩ := choose_eq_ok_iff.mpr ⟨v, answers, rfl⟩
    cases chosen.symm.trans ok
  | ok choice u =>
    rw [chosen] at asked
    rw [bind_of_ok chosen]
    obtain ⟨v, answers, rfl⟩ := choose_eq_ok_iff.mp ⟨u, chosen⟩
    cases decoded : PlannedAction.ofJson v with
    | error fault => exact ⟨[], .undecided asked answers decoded⟩
    | ok action => exact exists_acts_of_chosen misses asked answers decoded

namespace Acts

variable {made : List PageCall} {ended : EStateM.Result Failure RunState (Option ActOutcome)}

/-- The calls of `act` are the snapshot script and then the calls made of the plan. -/
theorem calls (acts : client.Acts page vars instruction timeout s made ended) :
    (left ended).history.calls =
      s.history.calls ++ (PageCall.evaluate snapshotScript :: made).map .page := by
  cases acts with
  | unanswered asked | undecided asked | unfilled asked => exact asked.calls
  | performed asked _ _ _ makes =>
    unfold left
    rw [makes.calls, asked.calls, List.append_assoc]
    rfl

/-- `act` sends no request, or one whose messages hold the instruction, the snapshot and the names
that are offered. -/
theorem requests (acts : client.Acts page vars instruction timeout s made ended) :
    (left ended).requests = s.requests ∨
      ∃ snapshot looked, page.ask (.evaluate snapshotScript) s = .ok snapshot looked ∧
        (left ended).requests = s.requests ++ [client.request "act"
          (actMessages instruction snapshot (vars.referencedNames instruction)
            client.instructions)] := by
  cases acts with
  | unanswered asked | undecided asked | unfilled asked => exact asked.requests
  | performed asked _ _ _ makes =>
    unfold left
    rw [makes.requests]
    exact asked.requests

/-- If `act` fails, no call of an action has been made. -/
theorem eq_nil_of_error {e : Failure}
    (acts : client.Acts page vars instruction timeout s made (.error e t)) : made = [] := by
  cases acts <;> rfl

/-- If the model gives no document, `act` fails. -/
theorem fails_of_unanswered (acts : client.Acts page vars instruction timeout s made ended)
    (no : ∀ v, ¬ client.Answers page vars instruction s v) :
    ∃ e, ended = .error e (left ended) := by
  cases acts with
  | unanswered | unfilled => exact ⟨_, rfl⟩
  | undecided _ answers => exact absurd answers (no _)
  | performed _ answers => exact absurd answers (no _)

variable (acts : client.Acts page vars instruction timeout s made ended)
  (answers : client.Answers page vars instruction s v)
include acts answers

/-- If the document is no action, `act` gives no outcome and made no call but the snapshot script.
-/
theorem of_undecided {fault : Json.Mismatch} (decoded : PlannedAction.ofJson v = .error fault) :
    ended = .ok none (left ended) ∧ made = [] := by
  cases acts with
  | unanswered _ no => exact absurd answers (no v)
  | undecided => exact ⟨rfl, rfl⟩
  | unfilled _ answers' decoded' =>
    cases answers.decoded_unique answers' decoded decoded'
  | performed _ answers' decoded' =>
    cases answers.decoded_unique answers' decoded decoded'

/-- If the action has a plan, `act` gives an `ActOutcome`, having made calls of the plan from the
first on. -/
theorem of_plan {plan : List PageCall} (decoded : PlannedAction.ofJson v = .ok action)
    (planned : action.Plan vars timeout plan) :
    ∃ looked trouble result,
      looked.history = (s.addCall (.page (.evaluate snapshotScript))).history ∧
      page.Makes looked plan made trouble (left ended) ∧ made <+: plan ∧
      ended = .ok (some result) (left ended) ∧ action.Reported plan made trouble result := by
  cases acts with
  | unanswered _ no => exact absurd answers (no v)
  | undecided _ answers' decoded' =>
    cases answers.decoded_unique answers' decoded decoded'
  | unfilled _ answers' decoded' typed missing =>
    cases answers.decoded_unique answers' decoded decoded'
    have unplanned : Client.plan vars timeout action = .error _ :=
      plan_eq_error_iff.mpr ⟨_, typed, missing⟩
    cases unplanned.symm.trans (plan_eq_ok_iff.mpr planned)
  | @performed _ _ _ _ trouble result looked _ asked answers' decoded' planned' makes reported =>
    cases answers.decoded_unique answers' decoded decoded'
    cases (plan_eq_ok_iff.mpr planned).symm.trans (plan_eq_ok_iff.mpr planned')
    exact ⟨looked, trouble, result, asked.history, makes, makes.isPrefix, rfl, reported⟩

/-- If the action has no plan, `act` fails with the placeholder of its text that has no value. -/
theorem of_no_plan (decoded : PlannedAction.ofJson v = .ok action)
    (no : ∀ plan, ¬ action.Plan vars timeout plan) :
    ∃ value n, action.typed? = some value ∧
      vars.interpolate value = .error (.missingVariable n) ∧
      ended = .error (.missingVariable n) (left ended) := by
  cases acts with
  | unanswered _ none => exact absurd answers (none v)
  | undecided _ answers' decoded' =>
    cases answers.decoded_unique answers' decoded decoded'
  | @unfilled _ _ value n _ _ answers' decoded' typed missing =>
    cases answers.decoded_unique answers' decoded decoded'
    exact ⟨value, n, typed, missing, rfl⟩
  | performed _ answers' decoded' planned =>
    cases answers.decoded_unique answers' decoded decoded'
    exact absurd planned (no _)

end Acts

/-- The calls of `act` are the snapshot script and then some page calls; it sends no request, or one
with the snapshot. If it fails it has made no further call, and it fails if the model gives no
document. If the document is no action, there is no outcome and no further call. If it is an action
with a plan, the further calls are those of the plan from the first on, up to the first that fails,
and the `ActOutcome` is successful exactly if there is something to do, all calls were made and none
failed. If it is an action without a plan, its text has a placeholder without a value, with which
`act` fails. -/
theorem act_account (misses : page.MissesNoVariable) (client : Client) (vars : Variables)
    (instruction : String) (timeout : Nat) (s : RunState) :
    let ended := client.act page vars instruction timeout s
    let t := left ended
    ∃ made,
      t.history.calls = s.history.calls ++ (PageCall.evaluate snapshotScript :: made).map .page ∧
      (t.requests = s.requests ∨
        ∃ snapshot looked, page.ask (.evaluate snapshotScript) s = .ok snapshot looked ∧
          t.requests = s.requests ++ [client.request "act"
            (actMessages instruction snapshot (vars.referencedNames instruction)
              client.instructions)]) ∧
      (∀ e, ended = .error e t → made = []) ∧
      ((∀ v, ¬ client.Answers page vars instruction s v) → ∃ e, ended = .error e t) ∧
      ∀ v, client.Answers page vars instruction s v →
        (∀ fault, PlannedAction.ofJson v = .error fault → ended = .ok none t ∧ made = []) ∧
        ∀ action, PlannedAction.ofJson v = .ok action →
          (∀ plan, action.Plan vars timeout plan → ∃ looked trouble result,
            looked.history = (s.addCall (.page (.evaluate snapshotScript))).history ∧
            page.Makes looked plan made trouble t ∧ made <+: plan ∧
            ended = .ok (some result) t ∧ action.Reported plan made trouble result) ∧
          ((∀ plan, ¬ action.Plan vars timeout plan) → ∃ value n, action.typed? = some value ∧
            vars.interpolate value = .error (.missingVariable n) ∧
            ended = .error (.missingVariable n) t) := by
  intro ended t
  obtain ⟨made, acts⟩ := exists_acts misses client vars instruction timeout s
  refine ⟨made, acts.calls, acts.requests, ?_, acts.fails_of_unanswered, ?_⟩
  · intro e fails
    have acts' : client.Acts page vars instruction timeout s made ended := acts
    rw [fails] at acts'
    exact acts'.eq_nil_of_error
  · intro v answers
    refine ⟨fun fault decoded => acts.of_undecided answers decoded, fun action decoded => ?_⟩
    refine ⟨fun plan planned => ?_, acts.of_no_plan answers decoded⟩
    exact acts.of_plan answers decoded planned

/-- A client whose model wants to type the value of a variable. -/
def typingIn : Client :=
  let content := "\x7b\"action\":\"type\",\"element\":\"e0\",\"value\":\"%NAME%\"," ++
    "\"description\":\"enter the name\"\x7d"
  let reply : Json := .object
    [("choices", .array [.object [("message", .object [("content", .string content)])]])]
  .ofServer fun _ => .answered 200 (Text.encode reply.print.toList)

/-- A page on which an element can be clicked, but no text can be put in. -/
def lockedPage : Page where
  answer _ call :=
    match call with
    | .insertText _ => ⟨0, .error (.actionFailed "locked")⟩
    | _ => ⟨0, .ok .null⟩

theorem lockedPage_missesNoVariable : lockedPage.MissesNoVariable := by
  intro h call n
  cases call <;> rintro ⟨⟩

/-- On the locked page a click is answered and the `insertText` after it fails. -/
theorem lockedPage_makes {target : Target} {offset : Option (Float × Float)} {n : Nat}
    {text : String} {made : List PageCall} {trouble : Option Failure}
    (makes : lockedPage.Makes s [.click target timeout offset n, .insertText text] made trouble t) :
    made = [.click target timeout offset n, .insertText text] ∧
      trouble = some (.actionFailed "locked") := by
  have clicked := lockedPage.outcome_ask (.click target timeout offset n)
  have refused := lockedPage.outcome_ask (.insertText text)
  cases makes with
  | fails failed =>
    have other := clicked s
    rw [failed] at other
    cases other
  | @next _ u _ _ _ _ _ _ answered later =>
    have locked := refused u
    cases later with
    | next answered' later =>
      rw [answered'] at locked
      cases locked
    | fails failed =>
      rw [failed] at locked
      cases locked
      exact ⟨rfl, rfl⟩

/-- The client wants the value of `NAME` typed into the element `e0`. -/
theorem typingIn_chooses :
    Run.outcome (typingIn.choose lockedPage ⟨[("NAME", "ada")]⟩ "sign up"
      (.initial ⟨true, .reliable⟩)) = .ok (some (.type "e0" "%NAME%" "enter the name")) := by
  decide +kernel

/-- The element is clicked before `insertText` fails, and the `ActOutcome` is unsuccessful, with the
message of that failure. -/
theorem act_account_locked :
    let ended := typingIn.act lockedPage ⟨[("NAME", "ada")]⟩ "sign up" 5000
      (.initial ⟨true, .reliable⟩)
    lockedPage.MissesNoVariable ∧
      (∃ result, ended = .ok (some result) (left ended) ∧ result.success = false ∧
        result.description = "enter the name" ∧ result.message = "Action failed: locked") ∧
      (left ended).history.calls = [.page (.evaluate snapshotScript),
        .page (.click (.css (elementSelector "e0")) 5000 none 1), .page (.insertText "ada")] := by
  intro ended
  obtain ⟨made, calls, -, -, -, told⟩ := act_account lockedPage_missesNoVariable typingIn
    ⟨[("NAME", "ada")]⟩ "sign up" 5000 (.initial ⟨true, .reliable⟩)
  obtain ⟨v, answers, chosen⟩ := choose_eq_ok_iff.mp ⟨_, eq_ok_of_outcome typingIn_chooses⟩
  have decoded : PlannedAction.ofJson v = .ok (.type "e0" "%NAME%" "enter the name") := by
    cases decoded : PlannedAction.ofJson v with
    | error fault =>
      rw [decoded] at chosen
      cases chosen
    | ok action =>
      rw [decoded] at chosen
      rw [← Option.some.inj chosen]
  have filled : Variables.interpolate ⟨[("NAME", "ada")]⟩ "%NAME%" = .ok "ada" := by
    decide +kernel
  obtain ⟨looked, trouble, result, -, makes, -, ends, reported⟩ :=
    ((told v answers).2 _ decoded).1 _ (.type filled)
  obtain ⟨rfl, rfl⟩ := lockedPage_makes makes
  refine ⟨lockedPage_missesNoVariable, ⟨result, ends, ?_, reported.description,
    reported.message _ rfl⟩, calls⟩
  have success := reported.success
  simpa using success

end Client

end Model

end PageScript
