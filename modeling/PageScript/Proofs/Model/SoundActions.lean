import PageScript.Proofs.Model.Acting
import PageScript.Proofs.Run.SoundCalls

/-!
# The calls of a run are sound

A step hands over only what can be used (`Step.call?_isSound`), to the page or to the assistant, and
what it hands over is all that comes of it but for the calls that an assistant makes by itself
(`Attempt.Makes`). The assistant of the program is a model. It evaluates one script to see the page,
and then makes calls of the action that the model chose (`Client.calls_act`), or it evaluates one
script to read the page (`Client.calls_extract`). These calls have the timeout of the instruction
and targets that can be found (`PlannedAction.Plan.isSound`).

What they put in is another matter. A model may leave out the value of a `type` or name no key for
a `press`, and nothing between its reply and the page looks at that: then an empty text or an empty
key reaches the page (`PlannedAction.LeavesEmpty`, `Run.steps_calls_empty`).

**What it does not establish.** Nothing is said of the calls that other assistants make by
themselves, and nothing about whether a call that is sound succeeds.
-/

namespace PageScript

open Run

/-! ## What comes of a step -/

/-- What a step hands over, and the calls of the attempt: none, the one call of the page, or those
that the assistant adds on being given the instruction in the state in which the step begins. -/
inductive Attempt.Makes (scene : Scene) (a : Attempt) : Option Call → Prop where
  | nothing (still : a.calls scene = []) : Makes scene a none
  | page {call : PageCall} (one : a.calls scene = [(a.begins.now, .page call)]) :
    Makes scene a (some (.page call))
  | act {instruction : String} {timeout : Nat}
    (added : (left (scene.assistant.act scene.vars instruction timeout a.begins)).calls =
      a.begins.calls ++ a.calls scene) :
    Makes scene a (some (.act instruction timeout (scene.vars.referencedNames instruction)))
  | extract {instruction : String} {timeout : Nat}
    (added : (left (scene.assistant.extract instruction timeout a.begins)).calls =
      a.begins.calls ++ a.calls scene) :
    Makes scene a (some (.extract instruction timeout))

/-- The calls of an attempt are those that come of what its step hands over. -/
theorem Attempt.makes {scene : Scene} (outward : scene.assistant.Outward) (a : Attempt) :
    a.Makes scene (a.step.call? scene.settings scene.vars) := by
  obtain ⟨step, s⟩ := a
  cases has : step.effect scene.settings scene.vars with
  | error e =>
    rw [show step.call? scene.settings scene.vars = none by rw [Step.call?, has]]
    have still : calls scene ⟨step, s⟩ = [] := by simp only [calls, Step.calls, has]
    exact .nothing still
  | ok effect =>
    rw [show step.call? scene.settings scene.vars = effect.bind (·.call? scene.vars) by
      rw [Step.call?, has]]
    cases effect with
    | none =>
      have still : calls scene ⟨step, s⟩ = [] := by simp only [calls, Step.calls, has]
      exact .nothing still
    | some e =>
      have made : calls scene ⟨step, s⟩ = e.calls scene s := by simp only [calls, Step.calls, has]
      cases e with
      | onPage call => exact .page made
      | evaluate written filled => exact .page made
      | act instruction timeout =>
        exact .act (made ▸ Effect.calls_act outward instruction timeout s)
      | extract instruction timeout =>
        exact .extract (made ▸ Effect.calls_extract outward instruction timeout s)
      | capture rule => exact .nothing made
      | pause ms => exact .nothing made

/-! ## What a model has done -/

namespace Model.Client

variable {client : Client} {page : Page} {vars : Variables} {timeout : Nat}
  {action : PlannedAction} {instruction : String} {s : RunState}

/-- Performing an action makes calls of its plan, from the first on. -/
theorem calls_perform (page : Page) {plan : List PageCall} (planned : action.Plan vars timeout plan)
    (s : RunState) :
    ∃ made, made <+: plan ∧
      (left (perform page vars timeout action s)).history.calls =
        s.history.calls ++ made.map .page := by
  obtain ⟨made, trouble, t, makes, ends⟩ := page.exists_makes plan s
  refine ⟨made, makes.isPrefix, ?_⟩
  rw [← makes.calls]
  unfold perform
  rw [plan_eq_ok_iff.mpr planned]
  dsimp only
  rw [bind_apply, attempt, ends]
  cases trouble with
  | none => rfl
  | some e => cases e <;> rfl

/-- Carrying out an instruction evaluates the script that tells of the page, and then makes calls of
the action that the model chose, from the first on. -/
theorem calls_act (client : Client) (page : Page) (vars : Variables) (instruction : String)
    (timeout : Nat) (s : RunState) :
    ∃ made,
      (left (client.act page vars instruction timeout s)).history.calls =
        s.history.calls ++ (PageCall.evaluate snapshotScript :: made).map .page ∧
      (made = [] ∨ ∃ action plan u, client.choose page vars instruction s = .ok (some action) u ∧
        action.Plan vars timeout plan ∧ made <+: plan) := by
  have asked := (client.asked_choose page vars instruction s).calls
  rw [act_eq, bind_apply]
  cases chosen : client.choose page vars instruction s with
  | error e u =>
    rw [chosen] at asked
    exact ⟨[], asked, .inl rfl⟩
  | ok choice u =>
    rw [chosen] at asked
    cases choice with
    | none => exact ⟨[], asked, .inl rfl⟩
    | some action =>
      dsimp only
      cases planned : plan vars timeout action with
      | error e =>
        rw [bind_of_error (perform_of_plan_error planned)]
        exact ⟨[], asked, .inl rfl⟩
      | ok plan =>
        have planned := plan_eq_ok_iff.mp planned
        obtain ⟨made, first, calls⟩ := calls_perform page planned u
        refine ⟨made, ?_, .inr ⟨action, plan, u, rfl, planned, first⟩⟩
        refine left_bind (P := fun t : RunState => t.history.calls = s.history.calls ++
          (PageCall.evaluate snapshotScript :: made).map Call.page) ?_ fun _ _ same => same
        have looked : u.history.calls = _ := asked
        rw [calls, looked, List.append_assoc]
        rfl

/-- Reading data off the page makes one call, which evaluates the script that gives its text. -/
theorem calls_extract (client : Client) (page : Page) (instruction : String) (timeout : Nat)
    (s : RunState) :
    (left (client.extract page instruction timeout s)).calls =
      s.calls ++ [(s.now, .page (.evaluate pageTextScript))] := by
  refine left_bind (P := fun t => t.calls = _) ?_ fun text t looked => ?_
  · unfold Page.askWithin
    split
    · rw [page.left_ask]
      rfl
    · rfl
  · refine left_bind (P := fun t => t.calls = _) ?_ fun _ _ same => same
    exact ((asks_aloof client).complete _ _ t).calls.trans looked

end Model.Client

/-! ## Soundness of what a model has done -/

/-- A call that puts in what the action has left empty: the text of a `type`, or the key of a
`press`. -/
inductive PlannedAction.LeavesEmpty : PlannedAction → PageCall → Prop where
  | text {element description : String} :
    LeavesEmpty (.type element "" description) (.insertText "")
  | keyDown {description : String} : LeavesEmpty (.press "" description) (.keyDown "")
  | keyUp {description : String} : LeavesEmpty (.press "" description) (.keyUp "")

section Soundness

open Call (IsSound IsTimeout)

variable {settings : Settings} {own : Option Nat}

/-- The calls of a plan are sound, but for those that put in what the action has left empty. -/
theorem PlannedAction.Plan.isSound {vars : Variables} {timeout : Nat} {action : PlannedAction}
    {plan : List PageCall} (planned : action.Plan vars timeout plan)
    (limit : IsTimeout own settings.domTimeout timeout) {call : PageCall} (mem : call ∈ plan) :
    (Call.page call).IsSound settings own ∨ action.LeavesEmpty call := by
  have found (selector : String) : (Target.css selector).alternatives ≠ [] := List.cons_ne_nil _ _
  cases planned with
  | click =>
    obtain rfl := List.mem_singleton.mp mem
    exact .inl (.limited (found _) rfl limit)
  | fill fills =>
    obtain rfl := List.mem_singleton.mp mem
    exact .inl (.limited (found _) rfl limit)
  | @type element value description filled fills =>
    rcases List.mem_cons.mp mem with rfl | mem
    · exact .inl (.limited (found _) rfl limit)
    obtain rfl := List.mem_singleton.mp mem
    by_cases empty : value = ""
    · obtain rfl := empty
      have same : vars.interpolate "" = .ok "" := by
        simp [Variables.interpolate, Placeholder.pieces, Variables.fill]
      cases same.symm.trans fills
      exact .inr .text
    · have kept := vars.checks_interpolate value
      rw [fills] at kept
      exact .inl (.unlimited (kept.2 empty) rfl)
  | @press key description =>
    by_cases empty : key = ""
    · obtain rfl := empty
      rcases List.mem_cons.mp mem with rfl | mem
      · exact .inr .keyDown
      · obtain rfl := List.mem_singleton.mp mem
        exact .inr .keyUp
    · rcases List.mem_cons.mp mem with rfl | mem
      · exact .inl (.unlimited empty rfl)
      · obtain rfl := List.mem_singleton.mp mem
        exact .inl (.unlimited empty rfl)
  | scroll =>
    obtain rfl := List.mem_singleton.mp mem
    exact .inl (.unlimited trivial rfl)
  | none => cases mem

theorem Call.isSound_snapshot : (Call.page (.evaluate Model.snapshotScript)).IsSound settings own :=
  .unlimited (show Model.snapshotScript ≠ "" by decide +kernel) rfl

theorem Call.isSound_pageText : (Call.page (.evaluate Model.pageTextScript)).IsSound settings own :=
  .unlimited (show Model.pageTextScript ≠ "" by decide +kernel) rfl

/-- A call that comes of an instruction which a model carries out is sound, or it puts in what the
action that the model chose has left empty. -/
theorem Model.Client.isSound_of_act {client : Model.Client} {page : Page} {vars : Variables}
    {instruction : String} {timeout : Nat} {s : RunState} {added : List (Nat × Call)}
    (adds : (left (client.act page vars instruction timeout s)).calls = s.calls ++ added)
    (limit : IsTimeout own settings.domTimeout timeout) {entry : Nat × Call}
    (mem : entry ∈ added) :
    entry.2.IsSound settings own ∨
      ∃ action u call, client.choose page vars instruction s = .ok (some action) u ∧
        entry.2 = .page call ∧ action.LeavesEmpty call := by
  obtain ⟨made, calls, origin⟩ := client.calls_act page vars instruction timeout s
  have all : added.map (·.2) = (PageCall.evaluate Model.snapshotScript :: made).map .page := by
    rw [RunState.history, adds, List.map_append] at calls
    exact List.append_cancel_left calls
  have entered : entry.2 ∈ added.map (·.2) := List.mem_map_of_mem mem
  rw [all] at entered
  obtain ⟨call, among, same⟩ := List.mem_map.mp entered
  rcases List.mem_cons.mp among with rfl | among
  · exact .inl (same ▸ Call.isSound_snapshot)
  rcases origin with rfl | ⟨action, plan, u, chosen, planned, first⟩
  · cases among
  rcases planned.isSound limit (first.subset among) with fit | empty
  · exact .inl (same ▸ fit)
  · exact .inr ⟨action, u, call, chosen, same.symm, empty⟩

/-- Where a model carries out the instructions, a call of an attempt is sound, or it puts in what
the action that the model chose for the step has left empty. -/
theorem Attempt.isSound_of_model {scene : Scene} {client : Model.Client} {a : Attempt}
    (model : scene.assistant = client.assistant scene.page)
    (sound : ∀ call, a.step.call? scene.settings scene.vars = some call →
      call.IsSound scene.settings a.step.ownTimeout)
    {entry : Nat × Call} (mem : entry ∈ a.calls scene) :
    entry.2.IsSound scene.settings a.step.ownTimeout ∨
      ∃ instruction timeout names action u call,
        a.step.call? scene.settings scene.vars = some (.act instruction timeout names) ∧
        client.choose scene.page scene.vars instruction a.begins = .ok (some action) u ∧
        entry.2 = .page call ∧ action.LeavesEmpty call := by
  have outward : scene.assistant.Outward := model ▸ client.assistant_outward scene.page
  have makes := a.makes outward
  generalize handed : a.step.call? scene.settings scene.vars = handed at makes
  cases makes with
  | nothing still =>
    rw [still] at mem
    cases mem
  | page one =>
    rw [one] at mem
    obtain rfl := List.mem_singleton.mp mem
    exact .inl (sound _ handed)
  | @act instruction timeout added =>
    rw [model, show (client.assistant scene.page).act = client.act scene.page from rfl] at added
    have limit := (sound _ handed).timeout timeout rfl
    refine (Model.Client.isSound_of_act added limit mem).imp_right ?_
    rintro ⟨action, u, call, chosen, same, empty⟩
    exact ⟨_, _, _, action, u, call, rfl, chosen, same, empty⟩
  | extract added =>
    rw [model, show (client.assistant scene.page).extract = client.extract scene.page from rfl,
      client.calls_extract] at added
    rw [← List.append_cancel_left added] at mem
    obtain rfl := List.mem_singleton.mp mem
    exact .inl Call.isSound_pageText

end Soundness

/-! ## Whole runs -/

/-- The calls of a run are those of its attempts, with settings as they come from the parameters of
a job. What the step of an attempt hands over, to the page or to the assistant, is sound, and its
calls come of that; with an assistant that only answers they are just what the steps hand over.
Where a model carries out the instructions, each call is sound, or it puts in what the action that
the model chose has left empty. The rules that the run registers have an address. -/
theorem Run.steps_calls_sound {scene : Scene} {p : Params} (settled : scene.settings = .ofParams p)
    (outward : scene.assistant.Outward) (all : List Step) (s : RunState) :
    let tries := attempts scene all.length 0 all s
    let t := left (steps scene all s)
    t.calls = s.calls ++ tries.flatMap (·.calls scene) ∧
    (∀ a ∈ tries, a.Makes scene (a.step.call? scene.settings scene.vars) ∧
      ∀ call, a.step.call? scene.settings scene.vars = some call →
        call.IsSound scene.settings a.step.ownTimeout) ∧
    (scene.assistant.OnlyAnswers → t.calls.map (·.2) =
      s.calls.map (·.2) ++ tries.filterMap (·.step.call? scene.settings scene.vars)) ∧
    (∀ client : Model.Client, scene.assistant = client.assistant scene.page →
      ∀ a ∈ tries, ∀ entry ∈ a.calls scene,
        entry.2.IsSound scene.settings a.step.ownTimeout ∨
        ∃ instruction timeout names action u call,
          a.step.call? scene.settings scene.vars = some (.act instruction timeout names) ∧
          client.choose scene.page scene.vars instruction a.begins = .ok (some action) u ∧
          entry.2 = .page call ∧ action.LeavesEmpty call) ∧
    ∃ rules, t.rules = s.rules ++ rules ∧ ∀ r ∈ rules, r.rule.url ≠ "" := by
  intro tries t
  have sound (a : Attempt) (call : Call)
      (handed : a.step.call? scene.settings scene.vars = some call) :
      call.IsSound scene.settings a.step.ownTimeout := by
    rw [settled] at handed ⊢
    exact Step.call?_isSound handed
  have left_t : t = left (stepsFrom scene all.length 0 all s) := left_steps all s
  refine ⟨?_, fun a _ => ⟨a.makes outward, sound a⟩, ?_, ?_, ?_⟩
  · rw [left_t]
    exact stepsFrom_calls outward all 0 s
  · rintro ⟨act, extract, answers⟩
    rw [left_t]
    exact stepsFrom_calls_answering answers all.length 0 all s
  · intro client model a _ entry mem
    exact Attempt.isSound_of_model model (sound a) mem
  · rw [left_t]
    refine (stepsFrom_gains outward all 0 s).rules.entries ?_
    rintro a r ⟨_, _, _, nonempty, _⟩
    exact nonempty

/-- A client whose model wants to type without saying what, and then to press no key. -/
def Model.Client.leavingEmpty : Client :=
  let reply (content : String) : Json := .object
    [("choices", .array [.object [("message", .object [("content", .string content)])]])]
  let typing := "\x7b\"action\":\"type\",\"element\":\"e0\"\x7d"
  let pressing := "\x7b\"action\":\"press\",\"key\":\"\"\x7d"
  .ofServer fun requests =>
    .answered 200
      (Text.encode (reply (if requests.length = 1 then typing else pressing)).print.toList)

/-- Such a client on a page that answers nothing. -/
def emptyScene : Scene :=
  ⟨.ofParams .absent, .empty, silentPage, Model.Client.leavingEmpty.assistant silentPage, true⟩

/-- An assistant that has the page evaluate a script with nothing in it. -/
def Assistant.evaluatingNothing (page : Page) : Assistant where
  act _ _ _ := do
    let _ ← page.ask (.evaluate "")
    return none
  extract _ _ := return none

theorem Assistant.evaluatingNothing_outward (page : Page) : (evaluatingNothing page).Outward where
  act _ _ _ := (page.ask_outward _).bind fun _ => outward_pure _
  extract _ _ := outward_pure _

/-- Two instructions one after the other. -/
def twoInstructions : List Step :=
  [.action ⟨some "log in", none⟩, .action ⟨some "go on", none⟩]

/-- A run whose last step names no key, on a page whose elements are given 50 milliseconds; and one
where a model leaves a text and a key empty. -/
theorem Run.steps_calls_sound_keyless :
    let p : Params := { Params.absent with domTimeout := some 50, navTimeout := some 0 }
    let page : Page := ⟨fun _ _ => ⟨0, .ok .null⟩⟩
    let assistant : Assistant := .answering (fun _ => .ok none) fun _ => .ok (some .null)
    let scene : Scene := ⟨.ofParams p, .empty, page, assistant, true⟩
    let all : List Step := [.navigate ⟨some (.string "a://b"), none, none⟩, .reload ⟨some 7, none⟩,
      .capture ⟨some (.string "/api/"), true, false⟩, .extract ⟨some "a", some 0⟩,
      .keyDown ⟨some ""⟩]
    let s := RunState.initial ⟨false, .reliable⟩
    let t := left (steps scene all s)
    scene.settings = .ofParams p ∧ scene.assistant.Outward ∧
      t.calls.map (·.2) =
        [.page (.goto "a://b" 30000 .load), .page (.reload 7 .load), .extract "a" 50] ∧
      (∀ a ∈ attempts scene all.length 0 all s, ∀ call,
        a.step.call? scene.settings scene.vars = some call →
          call.IsSound scene.settings a.step.ownTimeout) ∧
      (∃ r ∈ t.rules, r.rule.url ≠ "") ∧
      emptyScene.settings = .ofParams .absent ∧ emptyScene.assistant.Outward ∧
      ∀ entry ∈ (left (steps emptyScene twoInstructions s)).calls,
        (∃ own, entry.2.IsSound emptyScene.settings own) ∨
          ∃ (action : PlannedAction) (call : PageCall),
            entry.2 = .page call ∧ action.LeavesEmpty call := by
  intro p page assistant scene all s t
  have outward : scene.assistant.Outward := Assistant.answering_outward _ _
  obtain ⟨-, each, answered, -, rules, registered, urls⟩ :=
    @steps_calls_sound scene p rfl outward all s
  have outward' : emptyScene.assistant.Outward := Model.Client.assistant_outward _ _
  obtain ⟨grown, -, -, asked, -⟩ :=
    @steps_calls_sound emptyScene .absent rfl outward' twoInstructions s
  refine ⟨rfl, outward, ?_, fun a mem => (each a mem).2, ?_, rfl, outward', fun entry mem => ?_⟩
  · rw [answered ⟨_, _, rfl⟩]
    decide +kernel
  · have some : t.rules ≠ [] := by decide +kernel
    obtain ⟨r, mem⟩ := List.exists_mem_of_ne_nil _ some
    refine ⟨r, mem, urls r ?_⟩
    rw [registered] at mem
    exact mem
  · rw [grown, show s.calls = [] from rfl, List.nil_append] at mem
    obtain ⟨a, tried, made⟩ := List.mem_flatMap.mp mem
    refine (asked _ rfl a tried entry made).imp (fun sound => ⟨_, sound⟩) ?_
    rintro ⟨_, _, _, action, _, call, -, -, same, empty⟩
    exact ⟨action, call, same, empty⟩

/-- The text that a model leaves empty reaches the page, and so does the key; and another assistant
may have an empty script evaluated. None of these calls is sound. -/
theorem Run.steps_calls_empty :
    let s := RunState.initial ⟨false, .reliable⟩
    let other : Scene := { emptyScene with assistant := .evaluatingNothing silentPage }
    emptyScene.settings = .ofParams .absent ∧
      (∀ call ∈ [PageCall.insertText "", .keyDown "", .keyUp ""],
        Call.page call ∈ (left (steps emptyScene twoInstructions s)).calls.map (·.2)) ∧
      other.assistant.Outward ∧
      (left (steps other twoInstructions s)).calls.map (·.2) = [.page (.evaluate "")] ∧
      ∀ call ∈ [PageCall.insertText "", .keyDown "", .keyUp "", .evaluate ""],
        ∀ settings own, ¬ (Call.page call).IsSound settings own := by
  intro s other
  refine ⟨rfl, ?_, Assistant.evaluatingNothing_outward _, ?_, ?_⟩
  · decide +kernel
  · decide +kernel
  · intro call mem settings own sound
    have usable : call.IsSound := sound.usable
    simp only [List.mem_cons, List.not_mem_nil, or_false] at mem
    obtain rfl | rfl | rfl | rfl := mem <;> exact usable rfl

end PageScript
