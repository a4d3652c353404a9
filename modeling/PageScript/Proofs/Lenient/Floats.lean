import PageScript.Lenient
import PageScript.Proofs.Decimal.Overflow
import PageScript.Proofs.Json.Finite

/-!
# Floating-point numbers in any spelling

A number is read from a number or from a text that denotes one (`exists_float?_iff`). Numbers of
documents are finite, so one that is not is read from a text that denotes infinity or no number
(`not_isFinite_float?_iff`).

**What it does not establish.** Which float a decimal in a text becomes: only whether it is finite.
-/

namespace PageScript.Lenient

variable {v : Json}

/-- A value is a number, or a text that denotes one. -/
def IsNumber (v : Json) : Prop :=
  (∃ n, v = .number n) ∨ ∃ s, v = .string s ∧ Decimal.IsNumber (Text.trim s.toList)

/-- A value is a text that denotes no finite number. -/
def IsEndless (v : Json) : Prop :=
  ∃ s, v = .string s ∧ Decimal.IsEndless (Text.trim s.toList)

/-- A value is a text that denotes the infinity above zero. -/
def IsAboveAll (v : Json) : Prop :=
  ∃ s, v = .string s ∧ Decimal.IsAboveAll (Text.trim s.toList)

theorem exists_float?_iff : (∃ x, float? v = some x) ↔ IsNumber v := by
  cases v with
  | number n => exact iff_of_true ⟨_, rfl⟩ (.inl ⟨n, rfl⟩)
  | string s =>
    refine Decimal.exists_ofText?_iff.trans ⟨fun number => .inr ⟨s, rfl, number⟩, ?_⟩
    rintro (⟨n, ⟨⟩⟩ | ⟨_, ⟨⟩, number⟩)
    exact number
  | null | bool | array | object =>
    refine iff_of_false (by rintro ⟨x, ⟨⟩⟩) ?_
    rintro (⟨n, ⟨⟩⟩ | ⟨s, ⟨⟩, -⟩)

/-- Where numbers are finite, numbers that are not are read from texts. -/
theorem exists_float?_of_infinite {p : Float → Prop} {spelled : List Char → Prop}
    (texts : ∀ s, (∃ x, Decimal.ofText? s = some x ∧ p x) ↔ spelled s)
    (infinite : ∀ x, p x → x.isFinite = false) (finite : v.Finite) :
    (∃ x, float? v = some x ∧ p x) ↔ ∃ s, v = .string s ∧ spelled (Text.trim s.toList) := by
  cases v with
  | string s =>
    refine (texts _).trans ⟨fun spelled => ⟨s, rfl, spelled⟩, ?_⟩
    rintro ⟨_, ⟨⟩, spelled⟩
    exact spelled
  | number n =>
    refine iff_of_false ?_ (by rintro ⟨s, ⟨⟩, -⟩)
    rintro ⟨_, ⟨⟩, large⟩
    cases finite with
    | number isFinite => cases isFinite.symm.trans (infinite _ large)
  | null | bool | array | object =>
    exact iff_of_false (by rintro ⟨x, ⟨⟩, -⟩) (by rintro ⟨s, ⟨⟩, -⟩)

theorem not_isFinite_float?_iff (finite : v.Finite) :
    (∃ x, float? v = some x ∧ x.isFinite = false) ↔ IsEndless v :=
  exists_float?_of_infinite (fun _ => Decimal.not_isFinite_ofText?_iff) (fun _ => id) finite

theorem infinite_float?_iff (finite : v.Finite) :
    (∃ x, float? v = some x ∧ 0 < x ∧ x.isFinite = false) ↔ IsAboveAll v :=
  exists_float?_of_infinite (fun _ => Decimal.infinite_ofText?_iff) (fun _ large => large.2) finite

/-- What is read of a value that may be missing. -/
theorem exists_bind_float?_iff {given : Option Json} {p : Float → Prop} {such : Json → Prop}
    (same : ∀ v ∈ given, (∃ x, float? v = some x ∧ p x) ↔ such v) :
    (∃ x, given.bind float? = some x ∧ p x) ↔ ∃ v, given = some v ∧ such v := by
  constructor
  · rintro ⟨x, read, holds⟩
    obtain ⟨v, found, number⟩ := Option.bind_eq_some_iff.mp read
    exact ⟨v, found, (same v found).mp ⟨x, number, holds⟩⟩
  · rintro ⟨v, found, is⟩
    obtain ⟨x, number, holds⟩ := (same v found).mpr is
    exact ⟨x, Option.bind_eq_some_iff.mpr ⟨v, found, number⟩, holds⟩

end PageScript.Lenient
