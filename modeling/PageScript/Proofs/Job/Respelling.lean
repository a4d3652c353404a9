import Mathlib.Data.List.Forall2
import PageScript.Proofs.Job.Acceptance
import PageScript.Proofs.Lenient.Naturals
import PageScript.Script.Compile

/-!
# Respelled numbers

A job may give its whole numbers as texts: respelled, it has the same settings and the same steps
(`natural_spellings`). Only the fields that are read as natural numbers may be respelled, and the
document is compared field by field (`Alike`).

**What it does not establish.** Fields whose numbers may have a fraction are left as they are: only
natural numbers are respelled.
-/

namespace PageScript

open Lenient

/-! ## Fields -/

namespace Json

/-- Fields of the same names have equal values, or values that are related as the name has it. -/
def Alike (R : String → Json → Json → Prop) (fields fields' : List (String × Json)) : Prop :=
  List.Forall₂ (fun f g => f.1 = g.1 ∧ (f.2 = g.2 ∨ R f.1 f.2 g.2)) fields fields'

variable {R : String → Json → Json → Prop} {fields fields' : List (String × Json)} {name : String}

/-- What is found in fields that are alike is equal or related. -/
theorem Alike.lookup? (alike : Alike R fields fields') (name : String) :
    Json.lookup? name fields = Json.lookup? name fields' ∨
      ∃ v w, Json.lookup? name fields = some v ∧ Json.lookup? name fields' = some w ∧
        R name v w := by
  induction alike with
  | nil => exact .inl rfl
  | @cons f g rest rest' head tail ih =>
    obtain ⟨other, v⟩ := f
    obtain ⟨other', w⟩ := g
    obtain ⟨rfl, same⟩ := head
    simp only [Json.lookup?]
    split
    · rename_i here
      subst here
      rcases same with rfl | related
      · exact .inl rfl
      · exact .inr ⟨v, w, rfl, rfl, related⟩
    · exact ih

/-- Where no values are related, the same is found. -/
theorem Alike.lookup?_eq (alike : Alike R fields fields') (apart : ∀ v w, ¬ R name v w) :
    Json.lookup? name fields = Json.lookup? name fields' := by
  refine (alike.lookup? name).resolve_right ?_
  rintro ⟨v, w, -, -, related⟩
  exact apart v w related

/-- What is read alike of related values is read alike of fields. -/
theorem Alike.bind_lookup? {α : Type} {read : Json → Option α} (alike : Alike R fields fields')
    (same : ∀ v w, R name v w → read v = read w) :
    (Json.lookup? name fields).bind read = (Json.lookup? name fields').bind read := by
  rcases alike.lookup? name with equal | ⟨v, w, found, found', related⟩
  · rw [equal]
  · rw [found, found']
    exact same v w related

end Json

namespace Lenient

/-- A value is a whole number, and another one is a text that spells it. -/
def Respelled (v w : Json) : Prop :=
  ∃ n s, v = .ofNat n ∧ w = .string s ∧ Spells n s.toList ∧ n < 0x10000000000000000

theorem natural?_ofNat {n : Nat} (fits : n < 0x10000000000000000) :
    natural? (.ofNat n) = some n := by
  have range : -0x8000000000000000 ≤ (n : Int) ∧ (n : Int) < 0x10000000000000000 := by omega
  have inRange : WholeNumber.ofInt? n = some ⟨n, range.1, range.2⟩ := dif_pos range
  have positive : ¬ (n : Int) < 0 := by omega
  rw [Json.ofNat, Json.ofInt, inRange]
  show (if (n : Int) < 0 then none else some (n : Int).toNat) = some n
  rw [if_neg positive, Int.toNat_natCast]

theorem natural?_of_spells {n : Nat} {s : String} (spells : Spells n s.toList)
    (fits : n < 0x10000000000000000) : natural? (.string s) = some n := by
  have read := naturalOfText?_of_spells spells fits
  rwa [String.ofList_toList] at read

theorem Respelled.natural? {v w : Json} (respelled : Respelled v w) :
    Lenient.natural? v = Lenient.natural? w := by
  obtain ⟨n, s, whole, text, spells, fits⟩ := respelled
  rw [whole, text, natural?_ofNat fits, natural?_of_spells spells fits]

end Lenient

/-! ## Steps -/

namespace Step

/-- The fields of steps that are whole numbers. -/
def wholeNames : List String :=
  ["timeout", "width", "height", "duration"]

/-- Steps are equal but for whole numbers that are respelled. -/
def Respelled (v w : Json) : Prop :=
  v = w ∨ ∃ fields fields', v = .object fields ∧ w = .object fields' ∧
    Json.Alike (fun name v w => name ∈ wholeNames ∧ Lenient.Respelled v w) fields fields'

/-- Respelled steps are the same step. -/
theorem ofJson_respelled {v w : Json} (respelled : Respelled v w) : ofJson v = ofJson w := by
  rcases respelled with rfl | ⟨fields, fields', rfl, rfl, alike⟩
  · rfl
  have other {name : String} (differs : name ∉ wholeNames) :
      (Json.object fields).field? name = (Json.object fields').field? name :=
    alike.lookup?_eq fun v w related => differs related.1
  have whole (name : String) : natural? (.object fields) name = natural? (.object fields') name :=
    alike.bind_lookup? fun v w related => related.2.natural?
  have present {name : String} (differs : name ∉ wholeNames) :
      present? (.object fields) name = present? (.object fields') name := by
    rw [present?, other differs, present?]
  have kind : kindOf (.object fields) = kindOf (.object fields') := by
    rw [kindOf, other (by decide), kindOf]
  have read (kind : String) : ofKind kind (.object fields) = ofKind kind (.object fields') := by
    unfold ofKind
    simp only [prompt, clicking, choice?, text?, flag, float?, whole]
    simp (disch := decide) only [other, present]
  rw [ofJson, ofJson, kind]
  simp only [read]

theorem map_respelled {items items' : List Json} (each : List.Forall₂ Respelled items items') :
    items.map ofJson = items'.map ofJson := by
  induction each with
  | nil => rfl
  | cons head tail ih => rw [List.map_cons, List.map_cons, ofJson_respelled head, ih]

end Step

/-! ## Scripts -/

namespace Script

/-- Scripts are objects that are equal but for their steps, which are respelled one by one. -/
def Respelled (v w : Json) : Prop :=
  ∃ fields fields', v = .object fields ∧ w = .object fields' ∧
    Json.Alike (fun name v w => name = "steps" ∧ ∃ items items', v = .array items ∧
      w = .array items' ∧ List.Forall₂ Step.Respelled items items') fields fields'

/-- Respelled scripts compile to the same steps. -/
theorem compile_respelled {v w : Json} (respelled : Respelled v w) :
    (compile v).1 = (compile w).1 := by
  obtain ⟨fields, fields', rfl, rfl, alike⟩ := respelled
  show ofObject (.object fields) = ofObject (.object fields')
  unfold ofObject Json.field?
  dsimp only
  rcases alike.lookup? "steps" with equal | ⟨_, _, found, found', -, items, items', rfl, rfl, each⟩
  · rw [equal]
  · rw [found, found']
    exact congrArg Except.ok (Step.map_respelled each)

end Script

/-! ## Parameters -/

namespace Params

/-- The parameters that are whole numbers. -/
def wholeNames : List String :=
  ["verbose", "width", "height", "domTimeout", "navTimeout", "stepDelay"]

/-- Whole numbers of the parameters are respelled, and so are the steps of the script. -/
def Related (name : String) (v w : Json) : Prop :=
  name ∈ wholeNames ∧ Lenient.Respelled v w ∨ name = "script" ∧ Script.Respelled v w

/-- Parameters are equal but for what is respelled, whether an object names them or a list gives
them. -/
inductive Respelled : Json → Json → Prop
  | named {fields fields' : List (String × Json)} (alike : Json.Alike Related fields fields') :
      Respelled (.object fields) (.object fields')
  | listed {items items' : List Json} (length : items.length = items'.length)
      (alike : Json.Alike Related (names.zip items) (names.zip items')) :
      Respelled (.array items) (.array items')

theorem Respelled.ne_null {v w : Json} (respelled : Respelled v w) : v ≠ .null ∧ w ≠ .null := by
  cases respelled with
  | named => exact ⟨nofun, nofun⟩
  | listed => exact ⟨nofun, nofun⟩

/-- Parameters agree on all that settings depend on, and their scripts have the same steps. -/
def Agree (p p' : Params) : Prop :=
  p' = { p with script := p'.script } ∧ (Script.compile p.script).1 = (Script.compile p'.script).1

theorem agree_ofLookup {fields fields' : List (String × Json)}
    (alike : Json.Alike Related fields fields') :
    Agree (ofLookup fun name => Json.lookup? name fields)
      (ofLookup fun name => Json.lookup? name fields') := by
  have whole {name : String} (own : name ≠ "script") :
      (Json.lookup? name fields).bind Lenient.natural? =
        (Json.lookup? name fields').bind Lenient.natural? :=
    alike.bind_lookup? fun v w related =>
      related.elim (fun respelled => respelled.2.natural?) fun script => absurd script.1 own
  have other {name : String} (own : name ≠ "script") (differs : name ∉ wholeNames) :
      Json.lookup? name fields = Json.lookup? name fields' :=
    alike.lookup?_eq fun v w related =>
      related.elim (fun respelled => differs respelled.1) fun script => own script.1
  constructor
  · unfold ofLookup
    simp (disch := decide) only [whole, other]
  · show (Script.compile ((Json.lookup? "script" fields).getD .null)).1 =
      (Script.compile ((Json.lookup? "script" fields').getD .null)).1
    rcases alike.lookup? "script" with equal | ⟨v, w, found, found', related⟩
    · rw [equal]
    · rw [found, found']
      refine Script.compile_respelled (related.resolve_left ?_).2
      exact fun whole => absurd whole.1 (by decide)

theorem ofJson_respelled {v w : Json} (respelled : Respelled v w) :
    (∃ p p', ofJson v = .ok p ∧ ofJson w = .ok p' ∧ Agree p p') ∨
      ∃ m, ofJson v = .error m ∧ ofJson w = .error m := by
  cases respelled with
  | named alike => exact .inl ⟨_, _, rfl, rfl, agree_ofLookup alike⟩
  | @listed items items' length alike =>
    unfold ofJson
    dsimp only
    rw [← length]
    split
    · exact .inl ⟨_, _, rfl, rfl, agree_ofLookup alike⟩
    · exact .inr ⟨_, rfl, rfl⟩

end Params

/-! ## Jobs -/

namespace Job

/-- What a job comes down to for its run: whether it reports, its settings and its steps. -/
def outline (job : Job) : Bool × Settings × Except Failure (List Step) :=
  (job.reporting, job.settings, (Script.compile job.params.script).1)

/-- The outline of a job depends on its parameters as far as they agree. -/
theorem outline_eq {reporting : Bool} {p p' : Params} (agree : Params.Agree p p')
    (raw raw' : Json) :
    outline ⟨reporting, p, raw⟩ = outline ⟨reporting, p', raw'⟩ := by
  obtain ⟨same, steps⟩ := agree
  have settings : Settings.ofParams p = Settings.ofParams p' := by
    rw [same]
    rfl
  simp only [outline, Job.settings, settings, steps]

/-- Jobs are objects that are equal but for their parameters, which are respelled. -/
def Respelled (v w : Json) : Prop :=
  ∃ fields fields', v = .object fields ∧ w = .object fields' ∧
    Json.Alike (fun name v w => name = "params" ∧ Params.Respelled v w) fields fields'

/-- Respelled jobs come down to the same, or are refused for the same reason. -/
theorem ofJson_respelled {v w : Json} (respelled : Respelled v w) :
    (ofJson v).map outline = (ofJson w).map outline := by
  obtain ⟨fields, fields', rfl, rfl, alike⟩ := respelled
  have reporting : Json.lookup? "xy" fields = Json.lookup? "xy" fields' :=
    alike.lookup?_eq fun v w related => absurd related.1 (by decide)
  rw [ofJson_object, ofJson_object, reporting]
  rcases alike.lookup? "params" with equal | ⟨v, w, found, found', -, respelled⟩
  · rw [equal]
    cases readParams (Json.lookup? "params" fields') with
    | error e => rfl
    | ok params => rfl
  · rw [found, found']
    rcases Params.ofJson_respelled respelled with ⟨p, p', left, right, agree⟩ | ⟨m, left, right⟩
    · rw [readParams_of_ofJson left, readParams_of_ofJson right]
      exact congrArg Except.ok (outline_eq agree _ _)
    · rw [readParams_of_refused respelled.ne_null.1 left,
        readParams_of_refused respelled.ne_null.2 right]
      rfl

/-- A text is read as the number of its leading digits, if there are any and it fits 64 bits. So a
number and its spellings are read alike, and no negative number is read. Steps and jobs whose whole
numbers are respelled have the same timeouts and the same settings. -/
theorem natural_spellings :
    (∀ (s : String) (n : Nat), natural? (.string s) = some n ↔
      ∃ digits, Leads digits s.toList ∧ Text.decimalValue digits = n ∧
        n < 0x10000000000000000) ∧
    (∀ (n : Nat) (s : String), n < 0x10000000000000000 → Spells n s.toList →
      natural? (.ofNat n) = some n ∧ natural? (.string s) = some n) ∧
    (∀ w : WholeNumber, w.val < 0 → natural? (.number (.whole w)) = none) ∧
    (∀ (k : Int) (v : Json), k < 0 →
      Json.parse (String.ofList (Text.signedDecimal k)) = .ok v → natural? v = none) ∧
    (∀ v w, Step.Respelled v w → Step.ofJson v = Step.ofJson w) ∧
    ∀ v w, Respelled v w → (ofJson v).map outline = (ofJson w).map outline :=
  ⟨fun _ _ => naturalOfText?_eq_some_iff,
    fun _ _ fits spells => ⟨natural?_ofNat fits, natural?_of_spells spells fits⟩,
    fun _ negative => natural?_of_negative negative,
    fun _ _ negative read => natural?_of_parse negative read,
    fun _ _ => Step.ofJson_respelled,
    fun _ _ => ofJson_respelled⟩

/-- A width with a blank, a zero and a unit is a spelling, and the timeout of a step may have one
too. -/
theorem natural_spellings_width :
    let step (timeout : Json) : Json := .object [("type", .string "wait"), ("timeout", timeout)]
    let job (width timeout : Json) : Json := .object [("params", .object [("width", width),
      ("script", .object [("steps", .array [step timeout])])])]
    (ofJson (job (.ofNat 800) (.ofNat 250))).map outline =
      (ofJson (job (.string " 0800px") (.string "250ms"))).map outline := by
  intro step job
  have width : Lenient.Respelled (.ofNat 800) (.string " 0800px") :=
    ⟨800, " 0800px", rfl, rfl, ⟨[' '], 1, ['p', 'x'], [], by decide +kernel, by decide, nofun,
      by rintro c ⟨⟩; rfl⟩, by decide⟩
  have timeout : Lenient.Respelled (.ofNat 250) (.string "250ms") :=
    ⟨250, "250ms", rfl, rfl, ⟨[], 0, ['m', 's'], [], by decide +kernel, nofun, nofun,
      by rintro c ⟨⟩; rfl⟩, by decide⟩
  have one : Step.Respelled (step (.ofNat 250)) (step (.string "250ms")) :=
    .inr ⟨_, _, rfl, rfl, .cons ⟨rfl, .inl rfl⟩
      (.cons ⟨rfl, .inr ⟨by decide, timeout⟩⟩ .nil)⟩
  have script : Script.Respelled (.object [("steps", .array [step (.ofNat 250)])])
      (.object [("steps", .array [step (.string "250ms")])]) :=
    ⟨_, _, rfl, rfl, .cons ⟨rfl, .inr ⟨rfl, _, _, rfl, rfl, .cons one .nil⟩⟩ .nil⟩
  exact natural_spellings.2.2.2.2.2 _ _ ⟨_, _, rfl, rfl, .cons ⟨rfl, .inr ⟨rfl, .named
    (.cons ⟨rfl, .inr (.inl ⟨by decide, width⟩)⟩
      (.cons ⟨rfl, .inr (.inr ⟨rfl, script⟩)⟩ .nil))⟩⟩ .nil⟩

end Job

end PageScript
