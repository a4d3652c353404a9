import PageScript.Model.Client
import PageScript.Proofs.Run.Leading

/-!
# Two language models compared

An instruction looks at the page, asks the model once and makes calls of the page. So two clients
with the same instructions carry it out alike, whatever counts as looking alike, if states that look
alike still do after calls of the page and after questions to the models (`Matched.act`,
`Matched.extract`). Compared with itself, a client leads wherever the calls and the questions lead
(`assistant_leads`).

**What it does not establish.** What two models have to answer to be asked alike: that is the
premise of each comparison.
-/

namespace PageScript.Model.Client

open Run

variable {R : RunState → RunState → Prop} {client client' : Client} {page : Page}

/-- From states that look alike, a page is called alike, and two models are asked alike. -/
structure Matched (R : RunState → RunState → Prop) (client client' : Client) (page : Page) :
    Prop where
  instructions : client.instructions = client'.instructions
  ask : ∀ call, Alike R (page.ask call) (page.ask call)
  askWithin : ∀ ms what call,
    Alike R (page.askWithin ms what call) (page.askWithin ms what call)
  completeAct : ∀ messages,
    Alike R (client.complete "act" messages) (client'.complete "act" messages)
  completeExtract : ∀ messages,
    Alike R (client.complete "extract" messages) (client'.complete "extract" messages)

namespace Matched

variable (matched : Matched R client client' page)

include matched

/-- The calls of an action are made alike. -/
theorem makeCalls (calls : List PageCall) :
    Alike R (makeCalls page calls) (makeCalls page calls) := by
  induction calls with
  | nil => exact alike_pure ()
  | cons call rest ih => exact (matched.ask call).bind fun _ => ih

/-- An action is performed alike. -/
theorem perform (vars : Variables) (timeout : Nat) (action : PlannedAction) :
    Alike R (perform page vars timeout action) (perform page vars timeout action) := by
  unfold Client.perform
  cases plan vars timeout action with
  | error e => exact alike_throw e
  | ok calls =>
    refine (matched.makeCalls calls).attempt.bind fun ended => ?_
    cases ended with
    | ok _ => exact alike_pure _
    | error e => cases e <;> first | exact alike_throw _ | exact alike_pure _

theorem act (vars : Variables) (instruction : String) (timeout : Nat) :
    Alike R (client.act page vars instruction timeout)
      (client'.act page vars instruction timeout) := by
  refine (matched.ask _).bind fun snapshot => ?_
  rw [← matched.instructions]
  refine (matched.completeAct _).bind fun reply => ?_
  cases PlannedAction.ofJson reply with
  | error _ => exact alike_pure none
  | ok action =>
    exact (matched.perform vars timeout action).bind fun outcome => alike_pure _

theorem extract (instruction : String) (timeout : Nat) :
    Alike R (client.extract page instruction timeout)
      (client'.extract page instruction timeout) := by
  refine (matched.askWithin _ _ _).bind fun text => ?_
  rw [← matched.instructions]
  exact (matched.completeExtract _).bind fun reply => alike_pure _

end Matched

/-- Instructions lead along every course that calls of the page and whole exchanges with the model
lead along. -/
theorem assistant_leads (course : Course R) (ask : ∀ call, Leads R (page.ask call))
    (askWithin : ∀ ms what call, Leads R (page.askWithin ms what call))
    (completeAct : ∀ messages, Leads R (client.complete "act" messages))
    (completeExtract : ∀ messages, Leads R (client.complete "extract" messages)) :
    (client.assistant page).Leads R := by
  -- Wherever the client began, it is alike to itself in not leaving the course.
  have matched (s : RunState) : Matched (fun t t' => t = t' ∧ R s t) client client page :=
    ⟨rfl, fun call => course.alike_self (ask call) s,
      fun ms what call => course.alike_self (askWithin ms what call) s,
      fun messages => course.alike_self (completeAct messages) s,
      fun messages => course.alike_self (completeExtract messages) s⟩
  refine ⟨fun vars instruction timeout s => ?_, fun instruction timeout s => ?_⟩
  · exact ((matched s).act vars instruction timeout s s ⟨rfl, course.refl s⟩).2.2
  · exact ((matched s).extract instruction timeout s s ⟨rfl, course.refl s⟩).2.2

end PageScript.Model.Client
