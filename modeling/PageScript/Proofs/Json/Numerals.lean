import PageScript.Decimal.Notation
import PageScript.Proofs.Json.Scalars

/-!
# Numbers in documents

What a number may look like in a document: a sign, digits without a leading zero, a fraction, an
exponent. Whole numbers are written so (`isNumeral_signedDecimal`) and so are floating-point ones
(`isNumeral_text`), because the shortest decimal of a number begins with a zero only if that is all
of it.

**What it does not establish.** Which number a numeral stands for, and whether the decimal of a
float is really the shortest.
-/

namespace PageScript.Json

/-! ## Grammar -/

/-- At least one digit. -/
def IsDigits (s : List Char) : Prop :=
  s ≠ [] ∧ ∀ c ∈ s, c.isDigit = true

/-- Digits that begin with a zero only if that is all of them. -/
def IsWhole (s : List Char) : Prop :=
  IsDigits s ∧ (s.head? = some '0' → s = ['0'])

/-- Nothing, or a point and digits. -/
def IsFraction (s : List Char) : Prop :=
  s = [] ∨ ∃ digits, IsDigits digits ∧ s = '.' :: digits

/-- Nothing, or the mark of an exponent, maybe a sign, and digits. -/
def IsExponent (s : List Char) : Prop :=
  s = [] ∨ ∃ mark sign digits, mark ∈ ['e', 'E'] ∧ sign ∈ [[], ['+'], ['-']] ∧ IsDigits digits ∧
    s = mark :: sign ++ digits

/-- A number of a document. -/
def IsNumeral (s : List Char) : Prop :=
  ∃ sign whole fraction exponent, sign ∈ [[], ['-']] ∧ IsWhole whole ∧ IsFraction fraction ∧
    IsExponent exponent ∧ s = sign ++ whole ++ fraction ++ exponent

/-- A sign may go before a number that has none. -/
theorem IsNumeral.negate {whole fraction exponent : List Char} (isWhole : IsWhole whole)
    (isFraction : IsFraction fraction) (isExponent : IsExponent exponent) (negative : Prop)
    [Decidable negative] :
    IsNumeral (if negative then '-' :: (whole ++ fraction ++ exponent)
      else whole ++ fraction ++ exponent) := by
  split
  · exact ⟨['-'], whole, fraction, exponent, by simp, isWhole, isFraction, isExponent, by simp⟩
  · exact ⟨[], whole, fraction, exponent, by simp, isWhole, isFraction, isExponent, by simp⟩

/-! ## Whole numbers -/

/-- The digits of a number are digits, one at least. -/
theorem isDigits_decimal (n : Nat) : IsDigits (Text.decimal n) :=
  ⟨Text.decimal_ne_nil n, Text.decimal_isDigit n⟩

/-- The digits of a number have no leading zero. -/
theorem isWhole_decimal (n : Nat) : IsWhole (Text.decimal n) := by
  refine ⟨isDigits_decimal n, fun zero => ?_⟩
  rcases Nat.eq_zero_or_pos n with rfl | positive
  · exact Text.decimal_zero
  · exact absurd zero (Text.head_decimal positive)

/-- The digits of a number with its sign are a numeral. -/
theorem isNumeral_signedDecimal (n : Int) : IsNumeral (Text.signedDecimal n) := by
  have numeral := IsNumeral.negate (isWhole_decimal n.natAbs) (.inl rfl) (.inl rfl) (n < 0)
  rwa [List.append_nil, List.append_nil] at numeral

/-! ## Floating-point numbers -/

end Json

namespace Decimal

open Json

/-- A decimal that is written without a leading zero, unless it is zero altogether. -/
def Digits.Proper (d : Digits) : Prop :=
  d = ⟨0, 0⟩ ∨ 0 < d.digits

/-- Digits without their zeros at the end are proper. -/
theorem Digits.Proper.strip {d : Digits} (proper : d.Proper) (fuel : Nat) :
    (d.strip fuel).Proper := by
  induction fuel generalizing d with
  | zero => exact proper
  | succ fuel ih =>
    unfold Digits.strip
    split
    · rename_i more
      refine ih (.inr ?_)
      show 0 < d.digits / 10
      omega
    · exact proper

/-- A point of a grid around a positive number is not zero. -/
theorem proper_of_gridPoint? {n : Neighbourhood} {numerator denominator : Nat} {power : Int}
    {d : Digits} (low : 0 < n.low) (positive : 0 < numerator)
    (point : gridPoint? n numerator denominator power = some d) : d.Proper := by
  unfold gridPoint? at point
  extract_lets step scale inside below above toBelow toAbove belowFirst first second at point
  have lowest : 0 < n.low * scale :=
    Nat.mul_pos low (Nat.mul_pos (Nat.pow_pos (by decide)) positive)
  have notZero {k : Nat} (here : inside k = true) : 0 < k := by
    rcases Nat.eq_zero_or_pos k with rfl | above
    · simp only [inside, Nat.zero_mul, Nat.le_zero_eq, Nat.not_lt_zero, decide_false,
        Bool.false_and, Nat.ne_of_gt lowest, ite_self, Bool.false_eq_true] at here
    · exact above
  split at point
  · rename_i here
    cases point
    exact .inr (notZero here)
  split at point
  · rename_i here
    cases point
    exact .inr (notZero here)
  · cases point

/-- The first point of the grid gives proper digits. -/
theorem proper_firstGridPoint {n : Neighbourhood} {numerator denominator : Nat} (low : 0 < n.low)
    (positive : 0 < numerator) (leading : Int) (count fuel : Nat) :
    (firstGridPoint n numerator denominator leading count fuel).Proper := by
  induction fuel generalizing count with
  | zero =>
    unfold firstGridPoint
    cases point : gridPoint? n numerator denominator (leading - count) with
    | none => exact .inl rfl
    | some d => exact proper_of_gridPoint? low positive point
  | succ fuel ih =>
    unfold firstGridPoint
    cases point : gridPoint? n numerator denominator (leading + 1 - count) with
    | none => exact ih (count + 1)
    | some d => exact proper_of_gridPoint? low positive point

/-- The shortest decimal of a number is proper. -/
theorem proper_shortest (x : Float) : (shortest x).Proper := by
  unfold shortest
  extract_lets s power numerator denominator leading
  split
  · exact .inl rfl
  · rename_i some_
    have low : 0 < s.neighbourhood.low := by
      simp only [Scaled.neighbourhood]
      split <;> omega
    have positive : 0 < numerator := Nat.pow_pos (by decide)
    exact (proper_firstGridPoint low positive leading 1 17).strip 17

/-- The zero is written as one, any other decimal without a leading zero. -/
theorem Digits.Proper.head {d : Digits} (proper : d.Proper) :
    d = ⟨0, 0⟩ ∨ (Text.decimal d.digits).head? ≠ some '0' :=
  proper.imp_right Text.head_decimal

/-- Digits and zeros after them are digits. -/
theorem isDigits_append {s t : List Char} (first : IsDigits s) (zeros : ∀ c ∈ t, c.isDigit = true) :
    IsDigits (s ++ t) :=
  ⟨List.append_ne_nil_of_left_ne_nil first.1 t, List.forall_mem_append.mpr ⟨first.2, zeros⟩⟩

/-- Zeros are digits. -/
theorem isDigit_of_mem_zeros {n : Nat} : ∀ c ∈ List.replicate n '0', c.isDigit = true := by
  intro c mem
  rw [List.eq_of_mem_replicate mem]
  rfl

/-- Zero is written without a leading zero. -/
theorem isWhole_zero : IsWhole ['0'] :=
  ⟨⟨List.cons_ne_nil _ _, List.forall_mem_singleton.mpr rfl⟩, fun _ => rfl⟩

/-- Digits without an exponent are digits, a point and digits. -/
theorem exists_positional {d : Digits} (proper : d.Proper) :
    ∃ whole fraction, IsWhole whole ∧ IsFraction fraction ∧
      positional (Text.decimal d.digits) (d.exponent + (Text.decimal d.digits).length - 1) =
        whole ++ fraction := by
  have all := isDigits_decimal d.digits
  unfold positional
  split
  · refine ⟨['0'], _, isWhole_zero, .inr ⟨_, ?_, rfl⟩, rfl⟩
    exact ⟨List.append_ne_nil_of_right_ne_nil _ all.1,
      List.forall_mem_append.mpr ⟨isDigit_of_mem_zeros, all.2⟩⟩
  rename_i notNegative
  dsimp only
  split
  · refine ⟨_, ['.', '0'], ?_, .inr ⟨['0'], isWhole_zero.1, rfl⟩, rfl⟩
    refine ⟨isDigits_append all isDigit_of_mem_zeros, fun zero => ?_⟩
    rcases proper.head with rfl | notZero
    · simp only [Text.decimal_zero, List.length_singleton]
      rfl
    · rw [List.head?_append_of_ne_nil _ all.1] at zero
      exact absurd zero notZero
  · rename_i longer
    generalize places : (d.exponent + (Text.decimal d.digits).length - 1).toNat + 1 = count
      at longer
    have first : (Text.decimal d.digits).take count ≠ [] := by
      rw [Ne, List.take_eq_nil_iff]
      rintro (none | none)
      · omega
      · exact all.1 none
    have later : (Text.decimal d.digits).drop count ≠ [] := by
      rw [Ne, List.drop_eq_nil_iff]
      exact longer
    refine ⟨_, _, ⟨⟨first, fun c mem => all.2 c (List.mem_of_mem_take mem)⟩, fun zero => ?_⟩,
      .inr ⟨_, ⟨later, fun c mem => all.2 c (List.mem_of_mem_drop mem)⟩, rfl⟩, rfl⟩
    rcases proper.head with rfl | notZero
    · rw [Text.decimal_zero, List.length_singleton] at longer
      omega
    · rw [List.head?_take, if_neg (by omega)] at zero
      exact absurd zero notZero

/-- Digits with an exponent are written as a whole number, a fraction and an exponent. -/
theorem exists_scientific (n : Nat) (leading : Int) :
    ∃ whole fraction exponent, IsWhole whole ∧ IsFraction fraction ∧ IsExponent exponent ∧
      scientific (Text.decimal n) leading = whole ++ fraction ++ exponent := by
  have all := isDigits_decimal n
  cases digits : Text.decimal n with
  | nil => exact absurd digits all.1
  | cons c rest =>
    rw [digits] at all
    obtain ⟨here, later⟩ := List.forall_mem_cons.mp all.2
    have isWhole : IsWhole [c] := by
      refine ⟨⟨List.cons_ne_nil _ _, List.forall_mem_singleton.mpr here⟩, fun zero => ?_⟩
      rw [Option.some.inj zero]
    have isExponent : IsExponent ('e' :: (if leading < 0 then '-' else '+') ::
        Text.decimal leading.natAbs) := by
      refine .inr ⟨'e', [if leading < 0 then '-' else '+'], _, by simp, ?_,
        isDigits_decimal _, rfl⟩
      split <;> simp
    cases rest with
    | nil => exact ⟨[c], [], _, isWhole, .inl rfl, isExponent, rfl⟩
    | cons second rest =>
      exact ⟨[c], '.' :: second :: rest, _, isWhole,
        .inr ⟨_, ⟨List.cons_ne_nil _ _, later⟩, rfl⟩, isExponent, rfl⟩

/-- A floating-point number is written as a number. -/
theorem isNumeral_text (x : Float) : IsNumeral (text x) := by
  unfold text
  extract_lets d digits leading unsigned
  have parts : ∃ whole fraction exponent, IsWhole whole ∧ IsFraction fraction ∧
      IsExponent exponent ∧ unsigned = whole ++ fraction ++ exponent := by
    simp only [unsigned]
    split
    · obtain ⟨whole, fraction, isWhole, isFraction, written⟩ :=
        exists_positional (proper_shortest x)
      refine ⟨whole, fraction, [], isWhole, isFraction, .inl rfl, ?_⟩
      rw [List.append_nil]
      exact written
    · exact exists_scientific d.digits leading
  obtain ⟨whole, fraction, exponent, isWhole, isFraction, isExponent, written⟩ := parts
  rw [written]
  exact IsNumeral.negate isWhole isFraction isExponent _

end Decimal

end PageScript
