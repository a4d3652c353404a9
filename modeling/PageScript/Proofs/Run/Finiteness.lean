import PageScript.Proofs.Job.Acceptance
import PageScript.Proofs.Lenient.Floats
import PageScript.Proofs.Run.SoundCalls
import PageScript.Proofs.Script.Grammar
import PageScript.Proofs.Script.Leniency
import PageScript.Proofs.Script.Normalization

/-!
# Which floating-point numbers reach the browser

The scale of a run is above zero, and where it is clicked within an element is told by two numbers
or not at all. These numbers are finite unless they were written as texts that denote infinity or no
number (`floats_account`): numbers of documents are finite, but such texts are read as well.

**What it does not establish.** What a browser does with a number that is not finite.
-/

namespace PageScript

open Run

/-! ## The scale -/

/-- The scale is above zero, and no finite number just if it was given as one. -/
theorem Settings.scaleOr_cases (x : Option Float) :
    0 < scaleOr x ∧ ((scaleOr x).isFinite = false ↔
      ∃ y, x = some y ∧ 0 < y ∧ y.isFinite = false) := by
  have one : 0 < (1 : Float) ∧ ¬ (1 : Float).isFinite = false := by decide +kernel
  cases x with
  | none => exact ⟨one.1, iff_of_false one.2 (by rintro ⟨y, ⟨⟩, -⟩)⟩
  | some y =>
    unfold scaleOr
    dsimp only
    split
    · rename_i positive
      refine ⟨positive, fun infinite => ⟨y, rfl, positive, infinite⟩, ?_⟩
      rintro ⟨_, ⟨⟩, -, infinite⟩
      exact infinite
    · rename_i small
      refine ⟨one.1, iff_of_false one.2 ?_⟩
      rintro ⟨_, ⟨⟩, positive, -⟩
      exact small positive

/-- What is found among finite parameters is finite. -/
theorem Params.finite_of_find? {name : String} {given : Option Json} {v : Json}
    (finite : ∀ w ∈ given, w.Finite) (found : find? name given = some v) : v.Finite := by
  unfold find? at found
  split at found
  · cases finite _ rfl with
    | object each => exact Json.Finite.lookup? each found
  · cases finite _ rfl with
    | array each =>
      exact Json.Finite.lookup? (fun f mem => each f.2 (List.of_mem_zip mem).2) found
  · cases found

/-! ## Offsets of clicks -/

/-- An item of the steps of a script, which may be an object or the text of one. -/
inductive Script.HasItem : Json → Json → Prop where
  | object {fields : List (String × Json)} {items : List Json} {item : Json}
    (steps : Json.lookup? "steps" fields = some (.array items)) (mem : item ∈ items) :
    HasItem (.object fields) item
  | text {text : String} {fields : List (String × Json)} {items : List Json} {item : Json}
    (read : Json.parse (String.ofList (Text.trim text.toList)) = .ok (.object fields))
    (steps : Json.lookup? "steps" fields = some (.array items)) (mem : item ∈ items) :
    HasItem (.string text) item

/-- The items of a finite script are finite. -/
theorem Script.HasItem.finite {script item : Json} (has : HasItem script item)
    (finite : script.Finite) : item.Finite := by
  cases has with
  | object steps mem =>
    cases finite.field? steps with
    | array each => exact each item mem
  | text read steps mem =>
    cases (Json.finite_of_parse read).field? steps with
    | array each => exact each item mem

namespace Step

/-- What a step of a click or a double click holds. -/
def clicks? : Step → Option Click
  | .click c | .doubleClick c => some c
  | _ => none

/-- A line never holds a click with an offset. -/
theorem clicks?_line (line : List Char) : (Line.step line).clicks? = none := by
  rcases Line.step_eq_iff.mp (rfl : Line.step line = Line.step line) with means | ⟨-, action⟩
  · generalize Line.step line = s at means
    cases means <;> rfl
  · rw [action]
    rfl

/-- A step that clicks was read from a document of that kind. -/
theorem clicks?_ofJson {item : Json} {c : Click} (clicks : (ofJson item).clicks? = some c) :
    c = clicking item := by
  have kind := kind_ofJson item
  cases read : ofJson item with
  | click c' =>
    rw [read] at clicks kind
    cases clicks
    have same : ofJson item = .click (clicking item) := by
      simp only [ofJson, ← kind]
      rfl
    exact Step.click.inj (read.symm.trans same)
  | doubleClick c' =>
    rw [read] at clicks kind
    cases clicks
    have same : ofJson item = .doubleClick (clicking item) := by
      simp only [ofJson, ← kind]
      rfl
    exact Step.doubleClick.inj (read.symm.trans same)
  | _ =>
    rw [read] at clicks
    cases clicks

/-- A call to click is made by a step that clicks, at its offset. -/
theorem clicks?_of_call? {settings : Settings} {vars : Variables} {step : Step} {target : Target}
    {ms count : Nat} {offset : Option (Float × Float)}
    (makes : step.call? settings vars = some (.page (.click target ms offset count))) :
    ∃ c, step.clicks? = some c ∧ c.offset = offset := by
  obtain ⟨e, has, makes⟩ := call?_eq_some_iff.mp makes
  cases effective_of_effect has <;> cases makes
  · exact ⟨_, rfl, rfl⟩
  · exact ⟨_, rfl, rfl⟩

end Step

/-- The steps of a script that is an object are read from its items. -/
theorem Script.exists_item_of_ofObject {fields : List (String × Json)} {steps : List Step}
    (given : ofObject (.object fields) = .ok steps) {step : Step} (mem : step ∈ steps) :
    ∃ items, Json.lookup? "steps" fields = some (.array items) ∧
      ∃ item ∈ items, step = Step.ofJson item := by
  unfold ofObject at given
  split at given
  · cases given
    cases mem
  · cases given
    cases mem
  · rename_i items found
    cases given
    obtain ⟨item, among, rfl⟩ := List.mem_map.mp mem
    exact ⟨items, found, item, among, rfl⟩
  · cases given

/-- A step that clicks is an item of a script that is a document. -/
theorem Script.exists_item {script : Json} {steps : List Step}
    (compiled : (compile script).1 = .ok steps) {step : Step} (mem : step ∈ steps)
    (clicks : step.clicks? ≠ none) : ∃ item, HasItem script item ∧ step = Step.ofJson item := by
  have compiles := compiles_compile script
  rw [compiled] at compiles
  generalize made : Except.ok steps = result at compiles
  generalize (compile script).2 = kept at compiles
  cases compiles with
  | object fields =>
    obtain ⟨items, found, item, among, read⟩ := exists_item_of_ofObject made.symm mem
    exact ⟨item, .object found among, read⟩
  | document shape parsed =>
    obtain ⟨items, found, item, among, read⟩ := exists_item_of_ofObject made.symm mem
    exact ⟨item, .text parsed found among, read⟩
  | unreadable => cases made
  | lines =>
    cases made
    obtain ⟨line, -, rfl⟩ := List.mem_map.mp mem
    exact absurd (Step.clicks?_line line) clicks
  | nothing =>
    cases made
    cases mem
  | refused => cases made

/-- A field of a value is such. -/
def Json.Holds (item : Json) (name : String) (such : Json → Prop) : Prop :=
  ∃ v, item.field? name = some v ∧ such v

/-- Where an item has it clicked: at the coordinates that it holds, if both can be read, and else at
no place of its own. A coordinate is not finite just if it is a text that says so. -/
structure Step.Places (item : Json) (offset : Option (Float × Float)) : Prop where
  read : ∀ x y, offset = some (x, y) →
    Step.float? item "offsetX" = some x ∧ Step.float? item "offsetY" = some y
  dropped : offset = none ↔ ¬ (item.Holds "offsetX" Lenient.IsNumber ∧
    item.Holds "offsetY" Lenient.IsNumber)
  endless : ∀ x y, offset = some (x, y) →
    (x.isFinite = false ↔ item.Holds "offsetX" Lenient.IsEndless) ∧
      (y.isFinite = false ↔ item.Holds "offsetY" Lenient.IsEndless)

namespace Step

variable {item : Json} {name : String} {x : Float}

/-- A field is read as a float if and only if it holds a number or the text of one. -/
theorem exists_float?_field_iff :
    (∃ x, float? item name = some x) ↔ item.Holds name Lenient.IsNumber := by
  constructor
  · rintro ⟨x, read⟩
    obtain ⟨v, found, given⟩ := Option.bind_eq_some_iff.mp read
    exact ⟨v, found, Lenient.exists_float?_iff.mp ⟨x, given⟩⟩
  · rintro ⟨v, found, number⟩
    obtain ⟨x, given⟩ := Lenient.exists_float?_iff.mpr number
    exact ⟨x, Option.bind_eq_some_iff.mpr ⟨v, found, given⟩⟩

/-- A float that was read from a field is endless if and only if the field is a text that says so.
-/
theorem not_isFinite_float?_field_iff (finite : item.Finite) (read : float? item name = some x) :
    x.isFinite = false ↔ item.Holds name Lenient.IsEndless := by
  have spelled : (∃ y, float? item name = some y ∧ y.isFinite = false) ↔
      item.Holds name Lenient.IsEndless :=
    Lenient.exists_bind_float?_iff fun v found =>
      Lenient.not_isFinite_float?_iff (finite.field? found)
  refine Iff.trans ⟨fun infinite => ⟨x, read, infinite⟩, ?_⟩ spelled
  rintro ⟨y, read', infinite⟩
  cases read.symm.trans read'
  exact infinite

/-- A click has an offset if both its numbers were read. -/
theorem offset_eq_some_iff {c : Click} {x y : Float} :
    c.offset = some (x, y) ↔ c.offsetX = some x ∧ c.offsetY = some y := by
  unfold Click.offset
  split
  · rename_i given given'
    simp [given, given']
  · rename_i absent
    exact iff_of_false nofun fun given => absent x y given.1 given.2

/-- A click is placed by the fields of its item. -/
theorem places_clicking (finite : item.Finite) : Places item (clicking item).offset where
  read x y given := offset_eq_some_iff.mp given
  dropped := by
    rw [← exists_float?_field_iff, ← exists_float?_field_iff, Option.eq_none_iff_forall_ne_some]
    constructor
    · rintro absent ⟨⟨x, given⟩, y, given'⟩
      exact absent (x, y) (offset_eq_some_iff.mpr ⟨given, given'⟩)
    · rintro absent ⟨x, y⟩ given
      obtain ⟨given, given'⟩ := offset_eq_some_iff.mp given
      exact absent ⟨⟨x, given⟩, y, given'⟩
  endless x y given := by
    obtain ⟨given, given'⟩ := offset_eq_some_iff.mp given
    exact ⟨not_isFinite_float?_field_iff finite given, not_isFinite_float?_field_iff finite given'⟩

end Step

/-! ## Jobs and runs -/

/-- A run comes to none but its steps. -/
theorem Run.step_mem_of_mem_attempts {scene : Scene} {total done : Nat} {all : List Step}
    {s : RunState} {a : Attempt} (mem : a ∈ attempts scene total done all s) : a.step ∈ all := by
  induction all generalizing done s with
  | nil => cases mem
  | cons step rest ih =>
    rw [attempts] at mem
    rcases List.mem_cons.mp mem with rfl | later
    · exact List.mem_cons_self
    · split at later
      · exact List.mem_cons_of_mem _ (ih later)
      · cases later

/-- The scale of a job is above zero, and endless only if it was written above all numbers. -/
theorem Job.scale_cases {raw : Json} {job : Job} (finite : raw.Finite)
    (read : ofJson raw = .ok job) :
    job.raw = raw ∧ job.params.script.Finite ∧ 0 < job.settings.scale ∧
      (job.settings.scale.isFinite = false ↔
        ∃ v, Params.find? "scale" (raw.field? "params") = some v ∧ Lenient.IsAboveAll v) := by
  cases raw with
  | object fields =>
    rw [ofJson_object] at read
    cases params : readParams (Json.lookup? "params" fields) with
    | error e =>
      rw [params] at read
      cases read
    | ok p =>
      rw [params] at read
      cases read
      obtain rfl := readParams_eq params
      have given : ∀ w ∈ Json.lookup? "params" fields, w.Finite := fun w found =>
        finite.field? found
      obtain ⟨positive, infinite⟩ := Settings.scaleOr_cases
        ((Params.find? "scale" (Json.lookup? "params" fields)).bind Lenient.float?)
      refine ⟨rfl, ?_, positive, infinite.trans (Lenient.exists_bind_float?_iff fun v found => ?_)⟩
      · show ((Params.find? "script" (Json.lookup? "params" fields)).getD .null).Finite
        cases found : Params.find? "script" (Json.lookup? "params" fields) with
        | none => exact .null
        | some v => exact Params.finite_of_find? given found
      · exact Lenient.infinite_float?_iff (Params.finite_of_find? given found)
  | null | bool | number | string | array => cases read

/-- A click of a step is where an item of the script places it. -/
theorem Attempt.places {script : Json} {steps : List Step} (finite : script.Finite)
    (compiled : (Script.compile script).1 = .ok steps) {scene : Scene} {done : Nat} {s : RunState}
    {a : Attempt} (mem : a ∈ attempts scene steps.length done steps s) {entry : Nat × Call}
    (calls : entry ∈ a.calls scene) {target : Target} {ms count : Nat}
    {offset : Option (Float × Float)} (isClick : entry.2 = .page (.click target ms offset count)) :
    a.step.isInstruction = true ∨
      ∃ item, Script.HasItem script item ∧ a.step = Step.ofJson item ∧ Step.Places item offset := by
  rcases call?_of_mem_calls calls with makes | ⟨instruction, -⟩
  · rw [isClick] at makes
    obtain ⟨c, clicks, rfl⟩ := Step.clicks?_of_call? makes
    have noNone : a.step.clicks? ≠ none := by
      rw [clicks]
      exact nofun
    obtain ⟨item, has, read⟩ := Script.exists_item compiled (step_mem_of_mem_attempts mem) noNone
    rw [read] at clicks
    obtain rfl := Step.clicks?_ofJson clicks
    exact .inr ⟨item, has, read, Step.places_clicking (has.finite finite)⟩
  · exact .inl instruction

/-- The scale of a job is above zero. The clicks that its steps make, or those of any other script,
are placed by two numbers that were read, or by none. A number that is not finite is one that was
given as a text that denotes infinity or no number, by a word or by a decimal that overflows. -/
theorem floats_account {text : String} {job : Job} (accepted : Job.parse text = .ok job) :
    (0 < job.settings.scale ∧ (job.settings.scale.isFinite = false ↔
      ∃ v, Params.find? "scale" (job.raw.field? "params") = some v ∧ Lenient.IsAboveAll v)) ∧
    job.params.script.Finite ∧
    ∀ script steps, script.Finite → (Script.compile script).1 = .ok steps →
      ∀ scene, scene.assistant.Outward → ∀ s : RunState,
        ∀ entry ∈ (left (Run.steps scene steps s)).calls, entry ∈ s.calls ∨
          ∃ a ∈ attempts scene steps.length 0 steps s, entry ∈ a.calls scene ∧
            ∀ target ms offset count, entry.2 = .page (.click target ms offset count) →
              a.step.isInstruction = true ∨ ∃ item, Script.HasItem script item ∧
                a.step = Step.ofJson item ∧ Step.Places item offset := by
  unfold Job.parse at accepted
  split at accepted
  case h_2 => cases accepted
  rename_i raw parsed
  obtain ⟨rfl, script, scale⟩ := Job.scale_cases (Json.finite_of_parse parsed) accepted
  refine ⟨scale, script, fun script steps finite compiled scene outward s entry mem => ?_⟩
  rw [left_steps, stepsFrom_calls outward] at mem
  refine (List.mem_append.mp mem).imp id fun made => ?_
  obtain ⟨a, tried, calls⟩ := List.mem_flatMap.mp made
  exact ⟨a, tried, calls, fun target ms offset count isClick =>
    Attempt.places finite compiled tried calls isClick⟩

/-- Whether a call clicks. -/
def Call.isClick : Call → Bool
  | .page (.click _ _ _ _) => true
  | _ => false

/-- A call clicks if it is a click of the page. -/
theorem Call.isClick_iff {call : Call} : call.isClick = true ↔
    ∃ target ms offset count, call = .page (.click target ms offset count) := by
  constructor
  · intro click
    unfold isClick at click
    split at click
    · exact ⟨_, _, _, _, rfl⟩
    · cases click
  · rintro ⟨_, _, _, _, rfl⟩
    rfl

/-- The scene of a job on a page that answers nothing, with an assistant that does nothing. -/
def Job.quietScene (job : Job) : Scene :=
  ⟨job.settings, .empty, ⟨fun _ _ => ⟨0, .ok .null⟩⟩,
    .answering (fun _ => .ok none) fun _ => .ok none, true⟩

/-- Decimals that overflow make a scale that is not finite, and place a click; where that is was
read from the item of the script. -/
theorem floats_account_overflow :
    let text := "\x7b\"params\":\x7b\"scale\":\"1e309\",\"script\":\x7b\"steps\":[" ++
      "\x7b\"type\":\"click\",\"selectors\":[[\"#a\"]],\"offsetX\":\"1e309\"," ++
      "\"offsetY\":2\x7d]\x7d\x7d\x7d"
    ∃ job steps, Job.parse text = .ok job ∧ (Script.compile job.params.script).1 = .ok steps ∧
      job.quietScene.assistant.Outward ∧ 0 < job.settings.scale ∧
      (∃ v, Params.find? "scale" (job.raw.field? "params") = some v ∧ Lenient.IsAboveAll v) ∧
      job.params.script.Finite ∧
      ∃ entry ∈ (left (Run.steps job.quietScene steps (.initial ⟨false, .reliable⟩))).calls,
        ∃ target ms offset count, entry.2 = .page (.click target ms offset count) ∧
          ∃ item, Script.HasItem job.params.script item ∧ Step.Places item offset := by
  intro text
  let s := RunState.initial ⟨false, .reliable⟩
  have run : ((Job.parse text).toOption.bind fun job =>
      (Script.compile job.params.script).1.toOption.map fun steps =>
        (job.settings.scale.isFinite, steps.any (·.isInstruction),
          (left (Run.steps job.quietScene steps s)).calls.any (·.2.isClick))) =
        some (false, false, true) := by
    decide +kernel
  obtain ⟨job, accepted, run⟩ := Option.bind_eq_some_iff.mp run
  obtain ⟨steps, compiled, run⟩ := Option.map_eq_some_iff.mp run
  obtain ⟨infinite, run⟩ := Prod.mk.inj run
  obtain ⟨noInstruction, clicks⟩ := Prod.mk.inj run
  have accepted := eq_ok_of_toOption accepted
  have compiled := eq_ok_of_toOption compiled
  have outward : job.quietScene.assistant.Outward := Assistant.answering_outward _ _
  obtain ⟨⟨positive, scale⟩, finite, places⟩ := floats_account accepted
  obtain ⟨entry, mem, click⟩ := List.any_eq_true.mp clicks
  obtain ⟨target, ms, offset, count, same⟩ := Call.isClick_iff.mp click
  refine ⟨job, steps, accepted, compiled, outward, positive, scale.mp infinite, finite,
    entry, mem, ?_⟩
  rcases places _ steps finite compiled _ outward s entry mem with old | ⟨a, tried, -, placed⟩
  · cases old
  obtain instruction | ⟨item, has, -, placed⟩ := placed target ms offset count same
  · have other := List.any_eq_false.mp noInstruction a.step (step_mem_of_mem_attempts tried)
    exact absurd instruction other
  · exact ⟨target, ms, offset, count, same, item, has, placed⟩

/-- Where a call clicks, if it does and is told where. -/
def Call.offset? : Call → Option (Float × Float)
  | .page (.click _ _ offset _) => offset
  | _ => none

/-- The scale of a job and both coordinates of its click are not finite. -/
theorem floats_reach_page :
    let text := "\x7b\"params\":\x7b\"scale\":\"inf\",\"script\":\x7b\"steps\":[" ++
      "\x7b\"type\":\"click\",\"selectors\":[[\"#a\"]],\"offsetX\":\"nan\"," ++
      "\"offsetY\":\"-inf\"\x7d]\x7d\x7d\x7d"
    let page : Page := ⟨fun _ _ => ⟨0, .ok .null⟩⟩
    let assistant : Assistant := .answering (fun _ => .ok none) fun _ => .ok none
    let calls (job : Job) (steps : List Step) : List Call :=
      (left (Run.steps ⟨job.settings, .empty, page, assistant, true⟩ steps
        (.initial ⟨false, .reliable⟩))).calls.map (·.2)
    ∃ job steps, Job.parse text = .ok job ∧ (Script.compile job.params.script).1 = .ok steps ∧
      job.settings.scale.isFinite = false ∧
      ((calls job steps).filterMap (·.offset?)).map (fun p => (p.1.isFinite, p.2.isFinite)) =
        [(false, false)] := by
  intro text page assistant calls
  have run : ((Job.parse text).toOption.bind fun job =>
      (Script.compile job.params.script).1.toOption.map fun steps =>
        (job.settings.scale.isFinite, ((calls job steps).filterMap (·.offset?)).map
          fun p => (p.1.isFinite, p.2.isFinite))) = some (false, [(false, false)]) := by
    decide +kernel
  obtain ⟨job, accepted, run⟩ := Option.bind_eq_some_iff.mp run
  obtain ⟨steps, compiled, run⟩ := Option.map_eq_some_iff.mp run
  obtain ⟨infinite, offsets⟩ := Prod.mk.inj run
  exact ⟨job, steps, eq_ok_of_toOption accepted, eq_ok_of_toOption compiled, infinite, offsets⟩

end PageScript
