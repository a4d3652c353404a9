import PageScript.Job
import PageScript.Proofs.Json.RoundTrip

/-!
# Which jobs are accepted

Whatever the fields of its parameters hold, a job is accepted as long as the parameters are an
object or there are none. Each number of its settings is the one that is read from its field, if
that is of use, and else its default, which is of use (`IsChosen`). What is not JSON, not an object,
or has a text, a number or a truth value for its parameters is refused as unusable input
(`parse_accepts`).

**What it does not establish.** Whether an accepted job can be run: its script is compiled later.
-/

namespace PageScript

theorem eq_ok_of_toOption {x : Except ε α} {a : α} (given : x.toOption = some a) : x = .ok a := by
  cases x with
  | error e => cases given
  | ok b => exact congrArg Except.ok (Option.some.inj given)

/-! ## Numbers of settings -/

namespace Settings

/-- A number of the settings is of use. It is the one that was read, if that is of use, and else the
default. -/
structure IsChosen (ofUse : Nat → Prop) (read : Option Nat) (default n : Nat) : Prop where
  useful : ofUse n
  given : ∀ k, read = some k → ofUse k → n = k
  otherwise : (∀ k, read = some k → ¬ ofUse k) → n = default

theorem isChosen_of_ite {ofUse : Nat → Prop} [DecidablePred ofUse] {read : Option Nat}
    {default n : Nat} (useful : ofUse default)
    (chosen : ∀ k, read = some k → n = if ofUse k then k else default)
    (absent : read = none → n = default) : IsChosen ofUse read default n := by
  cases read with
  | none =>
    obtain rfl := absent rfl
    exact ⟨useful, nofun, fun _ => rfl⟩
  | some k =>
    have value := chosen k rfl
    by_cases ok : ofUse k
    · rw [if_pos ok] at value
      subst value
      exact ⟨ok, fun _ same _ => Option.some.inj same, fun none => absurd ok (none n rfl)⟩
    · rw [if_neg ok] at value
      subst value
      exact ⟨useful, fun m same ok' => absurd (Option.some.inj same ▸ ok') ok, fun _ => rfl⟩

/-- Delays are positive. -/
def IsDelay (ms : Nat) : Prop := 1 ≤ ms

/-- Width and height of the page are positive numbers of 32 bits. -/
def IsExtent (n : Nat) : Prop := 1 ≤ n ∧ n < 0x100000000

instance : DecidablePred IsDelay := fun n => inferInstanceAs (Decidable (0 < n))

instance : DecidablePred IsExtent := fun n => inferInstanceAs (Decidable (0 < n ∧ n < 0x100000000))

theorem isChosen_positiveOr (read : Option Nat) {default : Nat} (useful : IsDelay default) :
    IsChosen IsDelay read default (positiveOr read default) := by
  refine isChosen_of_ite useful ?_ ?_
  · rintro k rfl
    rfl
  · rintro rfl
    rfl

theorem isChosen_dimensionOr (read : Option Nat) {default : Nat} (useful : IsExtent default) :
    IsChosen IsExtent read default (dimensionOr read default) := by
  refine isChosen_of_ite useful ?_ ?_
  · rintro k rfl
    rfl
  · rintro rfl
    rfl

/-- The numbers of settings are chosen from what is read under their names. -/
structure Follows (settings : Settings) (read : String → Option Nat) : Prop where
  width : IsChosen IsExtent (read "width") 1280 settings.width
  height : IsChosen IsExtent (read "height") 720 settings.height
  domTimeout : IsChosen IsDelay (read "domTimeout") 3000 settings.domTimeout
  navTimeout : IsChosen IsDelay (read "navTimeout") 30000 settings.navTimeout
  stepDelay : IsChosen IsDelay (read "stepDelay") 1000 settings.stepDelay

theorem follows_ofLookup (value? : String → Option Json) :
    (ofParams (.ofLookup value?)).Follows fun name => (value? name).bind Lenient.natural? where
  width := isChosen_dimensionOr _ (by decide)
  height := isChosen_dimensionOr _ (by decide)
  domTimeout := isChosen_positiveOr _ (by decide)
  navTimeout := isChosen_positiveOr _ (by decide)
  stepDelay := isChosen_positiveOr _ (by decide)

end Settings

/-! ## Parameters -/

theorem Params.ofJson_of_isScalar {v : Json} (scalar : v.isScalar = true) :
    Params.ofJson v = .error (.wrongType v.describe "struct Params") := by
  cases v with
  | array => cases scalar
  | object => cases scalar
  | null => rfl
  | bool => rfl
  | number => rfl
  | string => rfl

/-- The value of a parameter, given by name or by its place in a list. -/
def Params.find? (name : String) : Option Json → Option Json
  | some (.object fields) => Json.lookup? name fields
  | some (.array items) => Json.lookup? name (names.zip items)
  | _ => none

namespace Job

variable {text : String} {fields : List (String × Json)}

/-- What is read as a whole number from a parameter of a job. -/
def readNatural (fields : List (String × Json)) (name : String) : Option Nat :=
  (((Json.object fields).field "params").field? name).bind Lenient.natural?

/-- The parameters of a job are named by an object, or there are none. -/
def Named (fields : List (String × Json)) : Prop :=
  Json.lookup? "params" fields = none ∨ Json.lookup? "params" fields = some .null ∨
    ∃ params, Json.lookup? "params" fields = some (.object params)

/-- The parameters that a job is given. -/
def readParams : Option Json → Except Failure Params
  | none | some .null => .ok .absent
  | some p =>
    match Params.ofJson p with
    | .ok params => .ok params
    | .error m => .error (.invalidInput ("invalid params: " ++ m.message))

theorem readParams_of_ofJson {p : Json} {params : Params} (read : Params.ofJson p = .ok params) :
    readParams (some p) = .ok params := by
  unfold readParams
  split
  · rename_i none
    cases none
  · rename_i null
    cases null
    cases read
  · rename_i q same
    cases same
    rw [read]

/-- Parameters that cannot be read are refused, and the refusal says why. -/
theorem readParams_of_refused {p : Json} {m : Json.Mismatch} (given : p ≠ .null)
    (refused : Params.ofJson p = .error m) :
    readParams (some p) = .error (.invalidInput ("invalid params: " ++ m.message)) := by
  unfold readParams
  split
  · rename_i none
    cases none
  · rename_i null
    exact absurd (Option.some.inj null) given
  · rename_i q same
    cases same
    rw [refused]

/-- Parameters that can be read hold what is found under their names, or at their places in a list.
-/
theorem readParams_eq {given : Option Json} {p : Params} (read : readParams given = .ok p) :
    p = .ofLookup fun name => Params.find? name given := by
  unfold readParams at read
  split at read
  · cases read
    rfl
  · cases read
    rfl
  · rename_i _ v _
    cases parsed : Params.ofJson v with
    | error m =>
      rw [parsed] at read
      cases read
    | ok params =>
      rw [parsed] at read
      cases read
      cases v with
      | object fields =>
        cases parsed
        rfl
      | array items =>
        unfold Params.ofJson at parsed
        dsimp only at parsed
        split at parsed
        · cases parsed
          rfl
        · cases parsed
      | null | bool | number | string => cases parsed

/-- An object is the job of the parameters that it gives, if these can be read. -/
theorem ofJson_object (fields : List (String × Json)) :
    ofJson (.object fields) = (readParams (Json.lookup? "params" fields)).map fun params =>
      ⟨(Json.lookup? "xy" fields).any Lenient.flag, params, .object fields⟩ := by
  unfold ofJson
  dsimp only
  split
  · rename_i none
    rw [none]
    rfl
  · rename_i null
    rw [null]
    rfl
  · rename_i p given found
    rw [found]
    cases read : Params.ofJson p with
    | ok params =>
      rw [readParams_of_ofJson read]
      rfl
    | error m =>
      rw [readParams_of_refused given read]
      rfl

/-- A job whose parameters are named is accepted. -/
theorem ofJson_of_named (named : Named fields) :
    ∃ job, ofJson (.object fields) = .ok job ∧ job.raw = .object fields ∧
      job.settings.Follows (readNatural fields) := by
  rw [ofJson_object]
  unfold readNatural Json.field Json.field?
  rcases named with absent | null | ⟨params, given⟩
  · simp only [absent]
    exact ⟨_, rfl, rfl, Settings.follows_ofLookup fun _ => none⟩
  · simp only [null]
    exact ⟨_, rfl, rfl, Settings.follows_ofLookup fun _ => none⟩
  · simp only [given]
    exact ⟨_, rfl, rfl, Settings.follows_ofLookup fun name => Json.lookup? name params⟩

/-- What is no object is refused. -/
theorem ofJson_of_ne_object {v : Json} (other : ∀ fields, v ≠ .object fields) :
    ofJson v = .error (.invalidInput "job must be a JSON object") := by
  cases v with
  | object fields => exact absurd rfl (other fields)
  | null => rfl
  | bool b => rfl
  | number n => rfl
  | string s => rfl
  | array items => rfl

/-- A text that is an object is accepted, whatever else it holds, if its parameters are named or
missing, and then its settings follow what is read from their fields. It is refused if it is not
JSON, not an object, or has a text, a number or a truth value for parameters. -/
theorem parse_accepts (text : String) :
    (∀ fields, Json.parse text = .ok (.object fields) → Named fields →
      ∃ job, parse text = .ok job ∧ job.raw = .object fields ∧
        job.settings.Follows (readNatural fields)) ∧
    (∀ e, Json.parse text = .error e →
      parse text = .error (.invalidInput ("job is not valid JSON: " ++ e.message))) ∧
    (∀ v, Json.parse text = .ok v → (∀ fields, v ≠ .object fields) →
      parse text = .error (.invalidInput "job must be a JSON object")) ∧
    (∀ fields p, Json.parse text = .ok (.object fields) →
      Json.lookup? "params" fields = some p → p.isScalar = true → p ≠ .null →
      parse text = .error (.invalidInput ("invalid params: " ++
        (Json.Mismatch.wrongType p.describe "struct Params").message))) := by
  unfold parse
  refine ⟨fun fields parsed named => ?_, fun e failed => ?_, fun v parsed other => ?_,
    fun fields p parsed given scalar some_ => ?_⟩
  · rw [parsed]
    exact ofJson_of_named named
  · rw [failed]
  · rw [parsed]
    exact ofJson_of_ne_object other
  · have refused := readParams_of_refused some_ (Params.ofJson_of_isScalar scalar)
    rw [parsed]
    show ofJson (.object fields) = _
    rw [ofJson_object, given, refused]
    rfl

/-- A width of more than 32 bits is replaced, a delay is read without its unit. -/
theorem parse_accepts_wideWidth :
    let text := "\x7b\"params\":\x7b\"stepDelay\":\"250ms\",\"width\":4294967296\x7d\x7d"
    ∃ job, parse text = .ok job ∧ job.settings.width = 1280 ∧ job.settings.stepDelay = 250 := by
  intro text
  let params : List (String × Json) :=
    [("stepDelay", .string "250ms"), ("width", .ofNat 4294967296)]
  let v := Json.object [("params", .object params)]
  have readable : Json.Readable Json.deepest v := by
    refine .object (List.pairwise_singleton _ _) (List.forall_mem_singleton.mpr
      (.object (List.pairwise_pair.mpr (by decide)) ?_))
    simp only [params, List.mem_cons, List.not_mem_nil, or_false]
    rintro w (rfl | rfl) <;> exact .scalar rfl
  have whole : v.Whole := by
    refine .object (List.forall_mem_singleton.mpr (.object ?_))
    simp only [params, List.mem_cons, List.not_mem_nil, or_false]
    rintro w (rfl | rfl)
    · exact .string _
    · exact .number _
  have printed : v.print = text := by decide +kernel
  have parsed : Json.parse text = .ok v := printed ▸ Json.parse_print readable whole.exact
  obtain ⟨job, accepted, -, follows⟩ :=
    (parse_accepts text).1 _ parsed (.inr (.inr ⟨params, rfl⟩))
  refine ⟨job, accepted, follows.width.otherwise ?_, follows.stepDelay.given 250 ?_ (by decide)⟩
  · rintro k ⟨⟩
    decide
  · rfl

end Job

end PageScript
