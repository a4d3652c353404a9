import Mathlib.Data.List.Basic
import PageScript.Script.Compile

/-!
# Malformed fields

A field that cannot be used costs a script no more than the step that has it. Of all fields of all
kinds of steps, only the one that chooses among words can be unusable (`strictField?`); it makes its
step `Step.invalid`. Every other field is read as something or as absent, and so every item of a
script is read as a step of the kind that it names (`Script.steps_read`).

**What it does not establish.** What a step with an unusable field comes to when it is run: only how
it is read.
-/

namespace PageScript

/-! ## Choices -/

namespace Json

/-- The ways to write a choice: its name, or an object whose only field has that name and holds
nothing. -/
inductive Names (name : String) : Json → Prop where
  | text : Names name (.string name)
  | null : Names name (.object [(name, .null)])
  | empty : Names name (.object [(name, .object [])])

variable {choices : List (String × α)} {v : Json} {name : String} {a : α}

/-- A text is read as a choice exactly if there is one of that name. -/
theorem asChoice_string_iff :
    (∃ a, (Json.string name).asChoice true choices = .ok a) ↔ name ∈ choices.map (·.1) := by
  have found : (choices.find? (·.1 == name)).isSome ↔ name ∈ choices.map (·.1) := by
    simp only [List.find?_isSome, beq_iff_eq, List.mem_map]
  rw [← found]
  unfold asChoice
  dsimp only
  cases choices.find? (·.1 == name) with
  | none => simp
  | some choice => exact iff_of_true ⟨choice.2, rfl⟩ rfl

/-- An object with one field is read as the choice of that name exactly if the field holds
nothing. -/
theorem asChoice_field_iff {content : Json} :
    (Json.object [(name, content)]).asChoice true choices = .ok a ↔
      (Json.string name).asChoice true choices = .ok a ∧
        (content = .null ∨ content = .object []) := by
  -- What is done once the name is read depends on the content alone.
  obtain ⟨rest, unfolded, rest_eq⟩ : ∃ rest : α → Except Mismatch α,
      (Json.object [(name, content)]).asChoice true choices =
        ((Json.string name).asChoice true choices).bind rest ∧
      ∀ b, rest b = .ok a ↔ b = a ∧ (content = .null ∨ content = .object []) := by
    refine ⟨_, rfl, fun b => ?_⟩
    split
    · simp
    · simp
    · rename_i notNull notEmpty
      refine iff_of_false (fun read => nomatch read) fun ⟨_, nothing⟩ => ?_
      exact nothing.elim notNull fun empty => notEmpty empty rfl
  rw [unfolded]
  cases (Json.string name).asChoice true choices with
  | error m => simp [Except.bind]
  | ok b => simp [Except.bind, rest_eq]

/-- A choice is read from what names it, and from nothing else. -/
theorem asChoice_iff :
    (∃ a, v.asChoice true choices = .ok a) ↔ ∃ name ∈ choices.map (·.1), v.Names name := by
  constructor
  · rintro ⟨a, read⟩
    rcases v with _ | _ | _ | name | _ | (_ | ⟨⟨name, content⟩, _ | _⟩)
    case string => exact ⟨name, asChoice_string_iff.mp ⟨a, read⟩, .text⟩
    case object.cons.nil =>
      obtain ⟨named, rfl | rfl⟩ := asChoice_field_iff.mp read
      · exact ⟨name, asChoice_string_iff.mp ⟨a, named⟩, .null⟩
      · exact ⟨name, asChoice_string_iff.mp ⟨a, named⟩, .empty⟩
    all_goals cases read
  · rintro ⟨name, known, names⟩
    obtain ⟨a, read⟩ := asChoice_string_iff.mpr known
    cases names with
    | text => exact ⟨a, read⟩
    | null => exact ⟨a, asChoice_field_iff.mpr ⟨read, .inl rfl⟩⟩
    | empty => exact ⟨a, asChoice_field_iff.mpr ⟨read, .inr rfl⟩⟩

end Json

namespace Step

variable {v : Json} {kind field : String} {words : List String}

/-- A field is there, and holds neither `null` nor one of the words that it may hold. -/
def Misnamed (v : Json) (field : String) (words : List String) : Prop :=
  ∃ w, v.field? field = some w ∧ w ≠ .null ∧ ∀ word ∈ words, ¬ w.Names word

/-- A field is present if it is there and not `null`. -/
theorem present?_eq_some_iff {w : Json} :
    present? v field = some w ↔ v.field? field = some w ∧ w ≠ .null := by
  have null : w.isNull = false ↔ w ≠ .null := by cases w <;> simp [Json.isNull]
  rw [present?, Option.filter_eq_some_iff, Bool.not_eq_true', null]

/-- A field that chooses among words is read, unless it holds something else. -/
theorem choice?_cases (choices : List (String × α)) (v : Json) (field : String) :
    (∃ chosen, choice? choices v field = .ok chosen ∧ ¬ Misnamed v field (choices.map (·.1))) ∨
      ∃ m, choice? choices v field = .error m ∧ Misnamed v field (choices.map (·.1)) := by
  unfold choice?
  cases found : present? v field with
  | none =>
    refine .inl ⟨none, rfl, fun ⟨w, here, other, _⟩ => ?_⟩
    rw [present?_eq_some_iff.mpr ⟨here, other⟩] at found
    cases found
  | some w =>
    obtain ⟨here, other⟩ := present?_eq_some_iff.mp found
    cases read : w.asChoice true choices with
    | ok a =>
      obtain ⟨word, known, names⟩ := Json.asChoice_iff.mp ⟨a, read⟩
      refine .inl ⟨some a, by simp [read, Except.map], fun ⟨w', here', _, noWord⟩ => ?_⟩
      cases here.symm.trans here'
      exact noWord word known names
    | error m =>
      refine .inr ⟨m, by simp [read, Except.map], w, here, other, fun word known names => ?_⟩
      obtain ⟨a, read'⟩ := Json.asChoice_iff.mpr ⟨word, known, names⟩
      cases read.symm.trans read'

/-! ## Kinds -/

/-- The field that a kind of step has for one of several words, and those words. -/
def strictField? (kind : String) : Option (String × List String) :=
  if kind = "navigate" ∨ kind = "reload" then
    some ("waitUntil", ["load", "domcontentloaded", "networkidle", "commit"])
  else if kind = "waitFor" then
    some ("state", ["visible", "hidden", "attached", "detached"])
  else none

theorem known_of_strict (strict : strictField? kind = some (field, words)) : kind ∈ knownKinds := by
  unfold strictField? at strict
  split at strict
  · rename_i loads
    rcases loads with rfl | rfl <;> simp [knownKinds]
  split at strict
  · rename_i waits
    simp [waits, knownKinds]
  · cases strict

/-- A step that was read as one of a known kind. -/
def Proper : Step → Prop
  | .unknown _ | .invalid _ _ => False
  | _ => True

/-- A kind that is not known is read as an unknown step. -/
theorem ofKind_of_unknown (unknown : kind ∉ knownKinds) (v : Json) :
    ofKind kind v = .ok (.unknown kind) := by
  unfold ofKind
  split
  case h_16 => rfl
  all_goals exact absurd (by simp [knownKinds]) unknown

/-- A step of a kind without a field that chooses among words is read whatever its fields hold. -/
theorem ofKind_of_tolerant (known : kind ∈ knownKinds) (tolerant : strictField? kind = none)
    (v : Json) : ∃ s, ofKind kind v = .ok s ∧ s.kind = kind ∧ s.Proper := by
  simp only [knownKinds, List.mem_cons, List.not_mem_nil, or_false] at known
  rcases known with rfl | rfl | rfl | rfl | rfl | rfl | rfl | rfl | rfl | rfl | rfl | rfl | rfl |
    rfl | rfl
  -- The first two kinds and the last one have such a field.
  case inl | inr.inl => simp [strictField?] at tolerant
  case inr.inr.inr.inr.inr.inr.inr.inr.inr.inr.inr.inr.inr.inr => simp [strictField?] at tolerant
  all_goals exact ⟨_, rfl, rfl, trivial⟩

/-- A step with a field that chooses among words is read unless that field holds something else. -/
theorem ofKind_of_choosing (choices : List (String × α)) (make : Option α → Step)
    (reads : ofKind kind v = (choice? choices v field).map make)
    (makes : ∀ chosen, (make chosen).kind = kind ∧ (make chosen).Proper) :
    (¬ Misnamed v field (choices.map (·.1)) ∧
        ∃ s, ofKind kind v = .ok s ∧ s.kind = kind ∧ s.Proper) ∨
      (Misnamed v field (choices.map (·.1)) ∧ ∃ m, ofKind kind v = .error m) := by
  rw [reads]
  rcases choice?_cases choices v field with ⟨chosen, read, fine⟩ | ⟨m, failed, wrong⟩
  · rw [read]
    exact .inl ⟨fine, make chosen, rfl, makes chosen⟩
  · rw [failed]
    exact .inr ⟨wrong, m, rfl⟩

theorem ofKind_of_strict (strict : strictField? kind = some (field, words)) (v : Json) :
    (¬ Misnamed v field words ∧ ∃ s, ofKind kind v = .ok s ∧ s.kind = kind ∧ s.Proper) ∨
      (Misnamed v field words ∧ ∃ m, ofKind kind v = .error m) := by
  unfold strictField? at strict
  split at strict
  · rename_i loads
    cases strict
    rcases loads with rfl | rfl
    · refine ofKind_of_choosing WaitUntil.choices (fun waitUntil => .navigate ⟨_, _, waitUntil⟩) rfl
        fun _ => ⟨rfl, trivial⟩
    · refine ofKind_of_choosing WaitUntil.choices (fun waitUntil => .reload ⟨_, waitUntil⟩) rfl
        fun _ => ⟨rfl, trivial⟩
  split at strict
  · rename_i waits
    cases waits
    cases strict
    exact ofKind_of_choosing ElementState.choices (fun state => .waitFor ⟨_, state, _⟩) rfl
      fun _ => ⟨rfl, trivial⟩
  · cases strict

/-! ## Documents -/

theorem kindOf_of_type (named : v.field? "type" = some (.string kind)) : kindOf v = kind := by
  rw [kindOf, named]
  rfl

theorem kindOf_of_no_type (unnamed : ∀ kind, v.field? "type" ≠ some (.string kind)) :
    kindOf v = "" := by
  rw [kindOf]
  cases found : v.field? "type" with
  | none => rfl
  | some t =>
    cases t with
    | string kind => exact absurd found (unnamed kind)
    | _ => rfl

/-- A document is read as a step that is passed over, as one that fails when it is reached, or as
one of the kind that it names. -/
theorem ofJson_cases (v : Json) :
    (kindOf v ∉ knownKinds ∧ ofJson v = .unknown (kindOf v)) ∨
      (kindOf v ∈ knownKinds ∧ (ofJson v).kind = kindOf v ∧ (ofJson v).Proper ∧
        ∀ field words, strictField? (kindOf v) = some (field, words) → ¬ Misnamed v field words) ∨
      (kindOf v ∈ knownKinds ∧ (∃ reason, ofJson v = .invalid (kindOf v) reason) ∧
        ∃ field words, strictField? (kindOf v) = some (field, words) ∧ Misnamed v field words) := by
  by_cases known : kindOf v ∈ knownKinds
  case neg => exact .inl ⟨known, by simp only [ofJson, ofKind_of_unknown known]⟩
  refine .inr ?_
  cases strict : strictField? (kindOf v) with
  | none =>
    obtain ⟨s, read, kind, proper⟩ := ofKind_of_tolerant known strict v
    have same : ofJson v = s := by simp only [ofJson, read]
    exact .inl ⟨known, same ▸ kind, same ▸ proper, nofun⟩
  | some choosing =>
    obtain ⟨field, words⟩ := choosing
    rcases ofKind_of_strict strict v with ⟨fine, s, read, kind, proper⟩ | ⟨wrong, m, failed⟩
    · have same : ofJson v = s := by simp only [ofJson, read]
      refine .inl ⟨known, same ▸ kind, same ▸ proper, ?_⟩
      rintro _ _ ⟨⟩
      exact fine
    · have same : ofJson v = .invalid (kindOf v) m.message := by simp only [ofJson, failed]
      exact .inr ⟨known, ⟨m.message, same⟩, field, words, rfl, wrong⟩

/-- An item is read as a step of the kind that it names. -/
theorem kind_ofJson (v : Json) : (ofJson v).kind = kindOf v := by
  rcases ofJson_cases v with ⟨_, same⟩ | ⟨_, kind, _⟩ | ⟨_, ⟨reason, same⟩, _⟩
  · rw [same]
    rfl
  · exact kind
  · rw [same]
    rfl

theorem ofJson_unknown_iff (v : Json) :
    (∃ kind, ofJson v = .unknown kind) ↔ kindOf v ∉ knownKinds := by
  rcases ofJson_cases v with ⟨unknown, same⟩ | ⟨known, _, proper, _⟩ | ⟨known, ⟨reason, same⟩, _⟩
  · exact iff_of_true ⟨_, same⟩ unknown
  · refine iff_of_false (fun ⟨kind, same⟩ => ?_) (not_not_intro known)
    rwa [same] at proper
  · refine iff_of_false (fun ⟨kind, same'⟩ => ?_) (not_not_intro known)
    cases same.symm.trans same'

theorem ofJson_invalid_iff (v : Json) :
    (∃ kind reason, ofJson v = .invalid kind reason) ↔
      ∃ field words, strictField? (kindOf v) = some (field, words) ∧ Misnamed v field words := by
  rcases ofJson_cases v with ⟨unknown, same⟩ | ⟨_, _, proper, fine⟩ | ⟨_, ⟨reason, same⟩, wrong⟩
  · refine iff_of_false (fun ⟨kind, reason, same'⟩ => ?_) ?_
    · cases same.symm.trans same'
    · exact fun ⟨field, words, strict, _⟩ => unknown (known_of_strict strict)
  · refine iff_of_false (fun ⟨kind, reason, same⟩ => ?_) ?_
    · rwa [same] at proper
    · exact fun ⟨field, words, strict, wrong⟩ => fine field words strict wrong
  · exact iff_of_true ⟨_, _, same⟩ wrong

end Step

namespace Script

/-- A document is read as a step of the kind that it names, or of no kind if it names none. The step
is passed over exactly if its kind is not known; it fails when it is reached exactly if its kind has
a field that chooses among words and that field holds something else. The steps of an object are its
items, each read like this, so none is lost on account of another. -/
theorem steps_read :
    (∀ v : Json,
      (∀ kind, v.field? "type" = some (.string kind) → (Step.ofJson v).kind = kind) ∧
      ((∀ kind, v.field? "type" ≠ some (.string kind)) → (Step.ofJson v).kind = "") ∧
      ((∃ kind, Step.ofJson v = .unknown kind) ↔ (Step.ofJson v).kind ∉ Step.knownKinds) ∧
      ((∃ kind reason, Step.ofJson v = .invalid kind reason) ↔
        ∃ field words, Step.strictField? (Step.ofJson v).kind = some (field, words) ∧
          Step.Misnamed v field words)) ∧
    ∀ fields items, (Json.object fields).field? "steps" = some (.array items) →
      ∃ steps, (compile (.object fields)).1 = .ok steps ∧ steps.length = items.length ∧
        steps = items.map Step.ofJson := by
  refine ⟨fun v => ?_, fun fields items listed => ?_⟩
  · rw [Step.kind_ofJson]
    exact ⟨fun _ => Step.kindOf_of_type, Step.kindOf_of_no_type, Step.ofJson_unknown_iff v,
      Step.ofJson_invalid_iff v⟩
  · refine ⟨_, ?_, List.length_map .., rfl⟩
    simp only [compile, ofObject, listed]

/-- A wait for a state that there is not, a step of no known kind, one of no kind, and a click with
a limit that is no number. -/
theorem steps_read_malformed :
    let wait := Json.object [("state", .string "gone"), ("type", .string "waitFor")]
    let dance := Json.object [("type", .string "dance")]
    let click := Json.object [("timeout", .array []), ("type", .string "click")]
    (∃ kind reason, Step.ofJson wait = .invalid kind reason) ∧
      (∃ kind, Step.ofJson dance = .unknown kind) ∧ (Step.ofJson .null).kind = "" ∧
      (¬ ∃ kind reason, Step.ofJson click = .invalid kind reason) ∧
      ∃ steps, (compile (.object [("steps", .array [wait, dance, .null, click])])).1 = .ok steps ∧
        steps.length = 4 := by
  intro wait dance click
  obtain ⟨ofDocument, ofScript⟩ := steps_read
  obtain ⟨waits, -, -, waitFails⟩ := ofDocument wait
  obtain ⟨dances, -, dancePasses, -⟩ := ofDocument dance
  obtain ⟨clicks, -, -, clickFails⟩ := ofDocument click
  refine ⟨?_, ?_, (ofDocument .null).2.1 nofun, ?_, ?_⟩
  · rw [waitFails, waits "waitFor" rfl]
    refine ⟨"state", _, rfl, .string "gone", rfl, nofun, ?_⟩
    rintro _ known ⟨⟩
    simp at known
  · rw [dancePasses, dances "dance" rfl]
    decide
  · rw [clickFails, clicks "click" rfl]
    rintro ⟨field, words, strict, -⟩
    simp [Step.strictField?] at strict
  · obtain ⟨steps, compiled, length, -⟩ :=
      ofScript [("steps", .array [wait, dance, .null, click])] [wait, dance, .null, click] rfl
    exact ⟨steps, compiled, length⟩

end Script

end PageScript
