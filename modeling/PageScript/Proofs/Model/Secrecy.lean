import PageScript.Model.Client
import PageScript.Proofs.Model.Timestamps
import PageScript.Proofs.Run.Secrecy

/-!
# Variables stay secret from the language model

A model is asked with the names of variables; their values are put in after it has answered, into
the texts of calls. Two runs are compared whose variables have values for the same names, whose
page gives the same answers and takes the same time for them, and whose model is asked on the same
server. `model_learns_no_values` says that the server is sent the same requests in the same
order, that the same exchanges are kept but for their times, and that the runs come to the same.

States are compared as for any assistant (`RunState.LooksLike`), the files apart: those may differ
in the times of exchanges.

**What it does not establish.** Only the variables are secret: what a page shows reaches the model,
also a value that was typed into it. Pages whose answers depend on the texts of calls are left out.
-/

namespace PageScript

open Run

/-- Two pages take the same time for their answers, which may depend on all but texts. -/
def Page.TakesAsLong (page page' : Page) : Prop :=
  ∀ h h' call call', h.withoutTexts = h'.withoutTexts → call.withoutText = call'.withoutText →
    (page.answer h call).delay = (page'.answer h' call').delay

/-- Pages that take the same time for the k-th call made to them. -/
theorem Page.inTurn_takesAsLong {answers answers' : Nat → Answer}
    (same : ∀ k, (answers k).delay = (answers' k).delay) :
    (inTurn answers).TakesAsLong (inTurn answers') := by
  intro h h' call call' before _
  simp only [inTurn]
  rw [← h.countP_withoutTexts, ← h'.countP_withoutTexts, before]
  exact same _

/-! ## States that differ in the times of exchanges -/

namespace RunState

/-- Nothing but texts, times and the times in the files of exchanges tells two states apart. -/
structure Agrees (s t : RunState) : Prop where
  beside : ({ s with files := .empty } : RunState).LooksLike { t with files := .empty }
  files : s.files.SameButTimes t.files

/-- Every state agrees with itself. -/
theorem agrees_refl (s : RunState) : s.Agrees s :=
  ⟨rfl, s.files.sameButTimes_refl⟩

/-- What leaves the files aside does not change them. -/
theorem Aside.files_eq {f : RunState → RunState} (aside : Aside f) (s : RunState) :
    (f s).files = s.files := by
  have same := congrArg RunState.files (aside.files s s.files)
  exact same

/-- Agreeing is a way in which runs can be compared. -/
theorem agrees_likeness : Likeness Agrees where
  reporter h := h.beside.reporter
  aside {s t f} h aside := by
    refine ⟨?_, ?_⟩
    · rw [← aside.files, ← aside.files]
      exact h.beside.congr aside.veiled
    · rw [aside.files_eq, aside.files_eq]
      exact h.files
  later _ h := ⟨h.beside.later _ _, h.files⟩

namespace Agrees

variable {s t : RunState}

/-- States that agree have the same calls, but for their texts. -/
theorem history (h : s.Agrees t) : s.history.withoutTexts = t.history.withoutTexts :=
  h.beside.history

/-- States that agree sent the same requests. -/
theorem requests (h : s.Agrees t) : s.requests = t.requests :=
  h.beside.requests

/-- States that agree have logged as many exchanges, in the same directory. -/
theorem inference (h : s.Agrees t) : s.inference = t.inference :=
  h.beside.inference

/-- Calls that differ in their texts only, however long they take, leave states that agree. -/
theorem called (h : s.Agrees t) {call call' : PageCall}
    (same : call.withoutText = call'.withoutText) (ms ms' : Nat) :
    ((s.addCall (.page call)).later ms).Agrees ((t.addCall (.page call')).later ms') := by
  refine ⟨(h.beside.addCall ?_).later ms ms', h.files⟩
  simp only [Call.withoutText, same]

end Agrees

end RunState

open RunState (Agrees agrees_likeness)

/-! ## Calls -/

section Calls

variable {page page' : Page}

/-- Pages that answer alike are asked alike. -/
theorem Page.AnswersLike.ask_agrees (pages : page.AnswersLike page') {call call' : PageCall}
    (same : call.withoutText = call'.withoutText) :
    Alike Agrees (page.ask call) (page'.ask call') := by
  intro s t h
  rw [outcome_ask, outcome_ask, left_ask, left_ask]
  exact ⟨pages _ _ _ _ h.history same, h.called same _ _⟩

/-- A page that takes the same time is waited for, or given up, in both runs. -/
theorem Page.AnswersLike.askWithin_agrees (pages : page.AnswersLike page')
    (times : page.TakesAsLong page') (ms : Nat) (what : String) (call : PageCall) :
    Alike Agrees (page.askWithin ms what call) (page'.askWithin ms what call) := by
  intro s t h
  simp only [askWithin, times _ _ _ _ h.history rfl]
  split
  · exact pages.ask_agrees rfl s t h
  · exact ⟨rfl, h.called rfl _ _⟩

end Calls

/-! ## Asking the model -/

namespace Model.Client

variable (client : Client) (timestamp : Nat → String)

/-- Sending a request is the same for both clients, but for the time in the file of the exchange. -/
theorem send_agrees (request : Request) :
    Alike Agrees (client.send request) ({ client with timestamp := timestamp }.send request) := by
  intro s t h
  simp only [send, h.requests]
  split
  · exact ⟨rfl, h⟩
  · cases client.server (t.requests ++ [request]) with
    | unreachable => exact ⟨rfl, h⟩
    | answered status body =>
      have sent := agrees_likeness.aside
        (f := fun s => { s with requests := t.requests ++ [request] })
        h ⟨fun _ => rfl, fun _ _ => rfl⟩
      dsimp only
      cases Json.parseBytes body with
      | ok reply => exact ⟨rfl, sent⟩
      | error _ => exact ⟨rfl, sent⟩

/-- The same exchange is kept, at a time that may be another. -/
theorem record_agrees (request : Request) (reply : Json) :
    Alike Agrees (client.record request reply)
      ({ client with timestamp := timestamp }.record request reply) := by
  intro s t h
  simp only [record, h.inference]
  cases t.inference with
  | none => exact ⟨rfl, h⟩
  | some log =>
    obtain ⟨logs, files, lines⟩ := Model.InferenceLog.record_sameButTimes h.files log
      request.purpose (client.timestamp s.now) (timestamp t.now) request.body reply
    refine ⟨rfl, ?_, files⟩
    simp only [logs, lines]
    exact h.beside.congr (f := fun s => { s with inference := _, log := s.log ++ _ }) fun _ => rfl

/-- Both clients get the same answer to the same messages. -/
theorem complete_agrees (purpose : String) (messages : List Message) :
    Alike Agrees (client.complete purpose messages)
      ({ client with timestamp := timestamp }.complete purpose messages) := by
  refine (client.send_agrees timestamp _).bind fun answer => ?_
  refine (client.record_agrees timestamp _ _).bind fun _ => ?_
  cases answerOf answer.1 answer.2 with
  | ok v => exact alike_pure v
  | error e => exact alike_throw e

end Model.Client

/-! ## Carrying out what the model chose -/

namespace Model.Client

variable {vars vars' : Variables} {page page' : Page}

/-- The calls of an action are the same but for their texts, or cannot be made for the same
reason. -/
theorem plan_withoutText (names : vars.SameNames vars') (timeout : Nat) (action : PlannedAction) :
    (plan vars timeout action).map (List.map PageCall.withoutText) =
      (plan vars' timeout action).map (List.map PageCall.withoutText) := by
  cases action with
  | fill element value description => exact map_bind_congr (names.interpolate _) fun _ _ => rfl
  | type element value description => exact map_bind_congr (names.interpolate _) fun _ _ => rfl
  | _ => rfl

/-- The calls of one action are answered alike on both pages. -/
theorem makeCalls_agrees (pages : page.AnswersLike page') {calls calls' : List PageCall}
    (same : calls.map PageCall.withoutText = calls'.map PageCall.withoutText) :
    Alike Agrees (makeCalls page calls) (makeCalls page' calls') := by
  induction calls generalizing calls' with
  | nil =>
    obtain rfl := List.map_eq_nil_iff.mp same.symm
    exact alike_pure ()
  | cons call rest ih =>
    obtain ⟨call', rest', rfl, first, later⟩ := List.map_eq_cons_iff.mp same.symm
    exact (pages.ask_agrees first.symm).bind fun _ => ih later.symm

/-- Performing an action goes the same way with either values of the variables. -/
theorem perform_agrees (names : vars.SameNames vars') (pages : page.AnswersLike page')
    (timeout : Nat) (action : PlannedAction) :
    Alike Agrees (perform page vars timeout action) (perform page' vars' timeout action) := by
  have plans := plan_withoutText names timeout action
  unfold perform
  cases h : plan vars timeout action <;> cases h' : plan vars' timeout action <;>
    simp only [h, h', Except.map, Except.error.injEq, Except.ok.injEq, reduceCtorEq] at plans
  case error.error =>
    subst plans
    exact alike_throw _
  case ok.ok calls calls' =>
    refine (makeCalls_agrees pages plans).attempt.bind fun ended => ?_
    cases ended with
    | ok _ => exact alike_pure _
    | error e =>
      cases e with
      | missingVariable name => exact alike_throw _
      | _ => exact alike_pure _

variable (client : Client) (timestamp : Nat → String)

/-- An instruction is carried out alike by both clients. -/
theorem act_agrees (names : vars.SameNames vars') (pages : page.AnswersLike page')
    (instruction : String) (timeout : Nat) :
    Alike Agrees (client.act page vars instruction timeout)
      ({ client with timestamp := timestamp }.act page' vars' instruction timeout) := by
  refine (pages.ask_agrees rfl).bind fun snapshot => ?_
  rw [names.referencedNames]
  refine (client.complete_agrees timestamp _ _).bind fun reply => ?_
  cases PlannedAction.ofJson reply with
  | error _ => exact alike_pure none
  | ok action => exact (perform_agrees names pages timeout action).bind fun outcome => alike_pure _

/-- Data are extracted alike by both clients. -/
theorem extract_agrees (pages : page.AnswersLike page') (times : page.TakesAsLong page')
    (instruction : String) (timeout : Nat) :
    Alike Agrees (client.extract page instruction timeout)
      ({ client with timestamp := timestamp }.extract page' instruction timeout) := by
  refine (pages.askWithin_agrees times _ _ _).bind fun text => ?_
  exact (client.complete_agrees timestamp _ _).bind fun reply => alike_pure _

end Model.Client

/-! ## Runs with a model -/

section Runs

variable {vars vars' : Variables} {page page' : Page}

/-- The scenes of the two runs are alike. -/
theorem Model.Client.scenes_agree (client : Client) (timestamp : Nat → String)
    (names : vars.SameNames vars') (pages : page.AnswersLike page')
    (times : page.TakesAsLong page') (settings : Settings) (observed : Bool) :
    Scene.Like Agrees ⟨settings, vars, page, client.assistant page, observed⟩
      ⟨settings, vars', page', { client with timestamp := timestamp }.assistant page',
        observed⟩ where
  settings := rfl
  observed := rfl
  names := names
  ask _ _ := pages.ask_agrees
  act := client.act_agrees timestamp names pages
  extract := client.extract_agrees timestamp pages times

/-- Two runs with a model whose variables have values for the same names, and whose page gives the
same answers in the same time, send the server the same requests in the same order and keep the
same exchanges but for their times. They come to the same result or failure and leave the same
output, lines for the host, capture rules and log, and they make the same calls but for the texts
that are filled in, inserted or evaluated. -/
theorem model_learns_no_values (names : vars.SameNames vars') (pages : page.AnswersLike page')
    (times : page.TakesAsLong page') (settings : Settings) (server : Model.Server)
    (timestamp timestamp' : Nat → String) (observed : Bool) (all : List Step) (s : RunState) :
    let client := Model.Client.ofSettings settings server timestamp
    let client' := Model.Client.ofSettings settings server timestamp'
    let one := steps ⟨settings, vars, page, client.assistant page, observed⟩ all s
    let other := steps ⟨settings, vars', page', client'.assistant page', observed⟩ all s
    outcome one = outcome other ∧
      (left one).requests = (left other).requests ∧
      (left one).inference = (left other).inference ∧
      (left one).files.SameButTimes (left other).files ∧
      (left one).output = (left other).output ∧
      (left one).reporter = (left other).reporter ∧
      (left one).rules = (left other).rules ∧
      (left one).log = (left other).log ∧
      (left one).calls.map (fun call => call.2.withoutText) =
        (left other).calls.map fun call => call.2.withoutText := by
  intro client client' one other
  have scenes := client.scenes_agree timestamp' names pages times settings observed
  obtain ⟨same, after⟩ := scenes.steps_alike agrees_likeness all s s s.agrees_refl
  exact ⟨same, after.requests, after.inference, after.files, after.beside.output,
    after.beside.reporter, after.beside.rules, after.beside.log, after.beside.texts⟩

/-- A model that has a password filled in, on a page that breaks down later; the exchange is
kept. -/
theorem model_learns_no_values_password :
    let one : Variables := ⟨[("PASSWORD", "hunter2")]⟩
    let other : Variables := ⟨[("PASSWORD", "swordfish")]⟩
    let page := Page.inTurn fun k => ⟨5, if k < 3 then .ok .null else .error (.other "gone")⟩
    let choice := "\x7b\"action\": \"fill\", \"element\": \"e1\", \"value\": \"%PASSWORD%\"\x7d"
    let reply : Json := .object [("choices", .array [.object
      [("message", .object [("content", .string choice)])]])]
    let server : Model.Server := fun _ => .answered 200 (Text.encode reply.print.toList)
    let all : List Step :=
      [.action ⟨some "Log in with %PASSWORD%", none⟩, .text ⟨some "%PASSWORD%", none⟩,
        .extract ⟨some "the balance", none⟩]
    one.SameNames other ∧ page.AnswersLike page ∧ page.TakesAsLong page ∧
      ∀ settings s,
        let run (vars : Variables) (now : Nat → String) := left (steps ⟨settings, vars, page,
          (Model.Client.ofSettings settings server now).assistant page, true⟩ all s)
        (run one fun _ => "noon").requests = (run other fun _ => "midnight").requests ∧
          (run one fun _ => "noon").files.SameButTimes (run other fun _ => "midnight").files := by
  intro one other page choice reply server all
  have names : one.SameNames other := by
    intro name
    by_cases h : "PASSWORD" = name
    · subst h
      rfl
    · simp [one, other, Variables.value?, Variables.get?, h]
  have pages : page.AnswersLike page := Page.inTurn_answersLike fun _ => rfl
  have times : page.TakesAsLong page := Page.inTurn_takesAsLong fun _ => rfl
  refine ⟨names, pages, times, fun settings s => ?_⟩
  obtain ⟨-, requests, -, files, -⟩ := model_learns_no_values names pages times settings server
    (fun _ => "noon") (fun _ => "midnight") true all s
  exact ⟨requests, files⟩

end Runs

end PageScript
