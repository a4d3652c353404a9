import PageScript.Proofs.Binary.Packing

/-!
# Rounding

Where the last place of a rounded number lies (`place`), what rounding does with what is below it
(`rounded`), and so the result of rounding as a whole (`roundWithAccuracy_eq`). A rounded number is
finite just if what was rounded is less than halfway beyond the greatest finite number
(`isFinite_round_iff`); otherwise it is infinite, with the same sign (`Signed`).

**What it does not establish.** Halves go to the even neighbour in `rounded`, but nothing is proved
of how close a rounded number is.
-/

namespace PageScript.Binary

open Float.Model Float.Model.UnpackedFloat

variable {s s' : Sign} {m : Nat} {e : Int} {acc : Accuracy} {u : UnpackedFloat}

/-! ## Taking off places -/

/-- The exponent of the last place of a number that is to be rounded. -/
def place (m : Nat) (e : Int) : Int := max (m.log2 + e - 52) (-1074)

/-- The last place of a rounded number is `place`. -/
theorem targetExponent_eq (m : Nat) (e : Int) :
    Format.binary64.targetExponent (totalExponent m e) = place m e := by
  show max ((m.log2 : Int) + 1 + e - 53) (-1074) = max (m.log2 + e - 52) (-1074)
  omega

/-- Shifting divides the significand. -/
theorem mantissa_shiftRight (em : ExtendedMantissa) (k : Nat) :
    (em >>> k).mantissa = em.mantissa / 2 ^ k := by
  induction k with
  | zero => simp [HShiftRight.hShiftRight, Nat.repeat]
  | succ k ih =>
    show (em >>> k).mantissa / 2 = _
    rw [ih, Nat.div_div_eq_div_mul, Nat.pow_succ]

/-- The bit that decides about rounding is the last one shifted out. -/
theorem roundBit_shiftRight (em : ExtendedMantissa) (k : Nat) :
    (em >>> (k + 1)).roundBit = (em.mantissa / 2 ^ k % 2 != 0) := by
  show ((em >>> k).mantissa % 2 != 0) = _
  rw [mantissa_shiftRight]

/-- Only a number that lies halfway or beyond is rounded up. -/
theorem roundedMantissa_cases (em : ExtendedMantissa) :
    em.roundedMantissa = em.mantissa ∨
      em.roundBit = true ∧ em.roundedMantissa = em.mantissa + 1 := by
  rcases em with ⟨m, _ | _, _ | _⟩
  · exact .inl rfl
  · exact .inl rfl
  · have halfway : (ExtendedMantissa.mk m true false).roundedMantissa = m + m % 2 := rfl
    rw [halfway]
    rcases Nat.mod_two_eq_zero_or_one m with even | odd
    · exact .inl (by rw [even, Nat.add_zero])
    · exact .inr ⟨rfl, by rw [odd]⟩
  · exact .inr ⟨rfl, rfl⟩

/-- An odd number that lies halfway or beyond is rounded up. -/
theorem roundedMantissa_odd {em : ExtendedMantissa} (odd : em.mantissa % 2 = 1)
    (up : em.roundBit = true) : em.roundedMantissa = em.mantissa + 1 := by
  rcases em with ⟨m, _ | _, _ | _⟩
  · cases up
  · cases up
  · show m + m % 2 = m + 1
    rw [show m % 2 = 1 from odd]
  · rfl

/-- The significand does not depend on the accuracy. -/
theorem mantissa_ofMantissaAndAccuracy (m : Nat) (acc : Accuracy) :
    (ExtendedMantissa.ofMantissaAndAccuracy m acc).mantissa = m := by
  cases acc with
  | exact => rfl
  | inexact o => cases o <;> rfl

/-- The significand `m` with `k` places taken off, rounded. -/
def rounded (m k : Nat) (acc : Accuracy) : Nat :=
  (ExtendedMantissa.ofMantissaAndAccuracy m acc >>> k).roundedMantissa

/-- A significand is rounded down, or up by one. -/
theorem rounded_cases (m k : Nat) (acc : Accuracy) :
    rounded m k acc = m / 2 ^ k ∨ rounded m k acc = m / 2 ^ k + 1 := by
  have cases := roundedMantissa_cases (ExtendedMantissa.ofMantissaAndAccuracy m acc >>> k)
  rw [mantissa_shiftRight, mantissa_ofMantissaAndAccuracy] at cases
  exact cases.imp id And.right

/-- What is left of a significand fits 53 places. -/
theorem div_lt (m : Nat) (e : Int) : m / 2 ^ (place m e - e).toNat < 2 ^ 53 := by
  rw [Nat.div_lt_iff_lt_mul (Nat.two_pow_pos _), ← Nat.pow_add]
  refine Nat.lt_of_lt_of_le Nat.lt_log2_self (Nat.pow_le_pow_right (by decide) ?_)
  unfold place
  omega

/-- What is left of a long significand fills 53 places. -/
theorem le_div {m : Nat} {e : Int} (positive : m ≠ 0) (fine : e ≤ m.log2 + e - 52)
    (normal : -1074 ≤ m.log2 + e - 52) : 2 ^ 52 ≤ m / 2 ^ (place m e - e).toNat := by
  rw [Nat.le_div_iff_mul_le (Nat.two_pow_pos _), ← Nat.pow_add]
  refine Nat.le_trans (Nat.pow_le_pow_right (by decide) ?_) (Nat.log2_self_le positive)
  unfold place
  omega

/-- A significand is shifted to the last place of the rounded number. -/
theorem shiftToTargetExponent_eq (m : Nat) (e : Int) (acc : Accuracy) :
    shiftToTargetExponent Format.binary64 m e acc =
      (ExtendedMantissa.ofMantissaAndAccuracy m acc >>> (place m e - e).toNat,
        e + (place m e - e).toNat) := by
  rw [shiftToTargetExponent, targetExponent_eq]
  rfl

/-- Rounding a significand that fits changes nothing. -/
theorem shiftToTargetExponent_of_lt {m : Nat} {e : Int} (fits : m < 2 ^ 53) (low : -1074 ≤ e) :
    shiftToTargetExponent Format.binary64 m e .exact = (⟨m, false, false⟩, e) := by
  have bits : m.log2 ≤ 52 := by
    by_cases zero : m = 0
    · rw [zero]
      decide
    · have := (Nat.log2_lt zero).mpr fits
      omega
  have none : (place m e - e).toNat = 0 := by
    unfold place
    omega
  rw [shiftToTargetExponent_eq, none]
  show (_, e + (0 : Nat)) = _
  rw [Int.natCast_zero, Int.add_zero]
  rfl

/-- A significand that rounding made too long by one place loses that place. -/
theorem shiftToTargetExponent_two_pow {e : Int} (low : -1074 ≤ e) :
    shiftToTargetExponent Format.binary64 (2 ^ 53) e .exact = (⟨2 ^ 52, false, false⟩, e + 1) := by
  have one : (place (2 ^ 53) e - e).toNat = 1 := by
    rw [place, Nat.log2_two_pow]
    omega
  rw [shiftToTargetExponent_eq, one]
  rfl

/-- What a significand becomes that was cut to its last place: it may be nothing, it may fit, or
rounding made it too long by one place. -/
inductive Becomes (s : Sign) (r : Nat) (e : Int) : UnpackedFloat → Prop where
  | zero (none : r = 0) : Becomes s r e (.zero s)
  | fits (short : r < 2 ^ 53) (h : 0 < r) : Becomes s r e (.finite s r e h)
  | grows (long : ¬ r < 2 ^ 53) (h : 0 < 2 ^ 52) : Becomes s r e (.finite s (2 ^ 52) (e + 1) h)

/-- Rounding takes off the places that are too many, and one more if the significand grew too
long. -/
theorem becomes_round (s : Sign) (m : Nat) (e : Int) (acc : Accuracy) :
    let k := (place m e - e).toNat
    Becomes s (rounded m k acc) (e + k) (roundWithAccuracy Format.binary64 s m e acc) := by
  intro k
  let r := rounded m k acc
  have low : -1074 ≤ e + (k : Int) := by
    simp only [k, place]
    omega
  have first : shiftToTargetExponent Format.binary64 m e acc =
      (ExtendedMantissa.ofMantissaAndAccuracy m acc >>> k, e + k) :=
    shiftToTargetExponent_eq m e acc
  have bound := div_lt m e
  have next := rounded_cases m k acc
  rw [roundWithAccuracy, first]
  show Becomes s r (e + k) (let (em, e') := shiftToTargetExponent Format.binary64 r (e + k) .exact
    if h : em.mantissa = 0 then UnpackedFloat.zero s
    else .finite s em.mantissa e' (Nat.pos_of_ne_zero h))
  by_cases fits : r < 2 ^ 53
  · rw [shiftToTargetExponent_of_lt fits low]
    dsimp only
    by_cases zero : r = 0
    · rw [dif_pos zero]
      exact .zero zero
    · rw [dif_neg zero]
      exact .fits fits _
  · have full : r = 2 ^ 53 := by
      change m / 2 ^ k < 2 ^ 53 at bound
      change r = _ ∨ r = _ at next
      omega
    rw [full, shiftToTargetExponent_two_pow low]
    exact .grows (by decide) _

/-! ## The greatest finite number -/

/-- Where the last place of the result is that of the greatest finite numbers, rounding stays below
the next power of two unless one place more of the number is all ones. -/
theorem rounded_lt_iff {k : Nat} (acc : Accuracy) (bound : m / 2 ^ (k + 1) < 2 ^ 53) :
    rounded m (k + 1) acc < 2 ^ 53 ↔ m / 2 ^ k < 2 ^ 54 - 1 := by
  have half : m / 2 ^ (k + 1) = m / 2 ^ k / 2 := by rw [Nat.pow_succ, Nat.div_div_eq_div_mul]
  have mantissa : (ExtendedMantissa.ofMantissaAndAccuracy m acc >>> (k + 1)).mantissa =
      m / 2 ^ (k + 1) := by rw [mantissa_shiftRight, mantissa_ofMantissaAndAccuracy]
  have bit : (ExtendedMantissa.ofMantissaAndAccuracy m acc >>> (k + 1)).roundBit =
      (m / 2 ^ k % 2 != 0) := by rw [roundBit_shiftRight, mantissa_ofMantissaAndAccuracy]
  generalize m / 2 ^ k = n at *
  by_cases ones : n = 2 ^ 54 - 1
  · have up : rounded m (k + 1) acc = m / 2 ^ (k + 1) + 1 := by
      rw [← mantissa]
      refine roundedMantissa_odd ?_ ?_
      · rw [mantissa, half, ones]
        decide
      · rw [bit, ones]
        decide
    rw [up]
    omega
  · refine iff_of_true ?_ (by omega)
    rcases roundedMantissa_cases (ExtendedMantissa.ofMantissaAndAccuracy m acc >>> (k + 1)) with
      same | ⟨up, next⟩
    · rw [rounded, same, mantissa]
      exact bound
    · rw [rounded, next, mantissa]
      rw [bit] at up
      simp only [bne_iff_ne, ne_eq] at up
      omega

/-- A rounded number is finite just if what is rounded lies below the middle between the greatest
finite number and the next power of two. -/
theorem isFinite_round_iff (low : e ≤ 970) :
    (Float.Model.pack (roundWithAccuracy Format.binary64 s m e acc)).unpack.isFinite = true ↔
      m < (2 ^ 54 - 1) * 2 ^ (970 - e).toNat := by
  have bound := div_lt m e
  have next := rounded_cases m (place m e - e).toNat acc
  have at_place : e + (place m e - e).toNat = max e (place m e) := by omega
  have becomes := becomes_round s m e acc
  generalize roundWithAccuracy Format.binary64 s m e acc = u at becomes
  dsimp only at becomes
  rcases lt_trichotomy (max e (place m e)) 971 with below | last | above
  · refine iff_of_true ?_ ?_
    · cases becomes with
      | zero => exact isFinite_pack_zero
      | fits => exact isFinite_pack_finite.mpr (by omega)
      | grows => exact isFinite_pack_finite.mpr (by omega)
    · rw [Nat.div_lt_iff_lt_mul (Nat.two_pow_pos _)] at bound
      refine Nat.lt_of_lt_of_le bound (Nat.mul_le_mul (by decide) ?_)
      exact Nat.pow_le_pow_right (by decide) (by omega)
  · have places : (place m e - e).toNat = (970 - e).toNat + 1 := by omega
    rw [places] at bound becomes
    rw [← Nat.div_lt_iff_lt_mul (Nat.two_pow_pos _), ← rounded_lt_iff acc bound]
    cases becomes with
    | zero none =>
      rw [none]
      exact iff_of_true isFinite_pack_zero (by decide)
    | fits short => exact iff_of_true (isFinite_pack_finite.mpr (by omega)) short
    | grows long =>
      refine iff_of_false ?_ long
      rw [isFinite_pack_finite]
      omega
  · have large : 972 ≤ m.log2 + e - 52 := by
      unfold place at above
      omega
    have some : m ≠ 0 := by
      rintro rfl
      rw [Nat.log2_zero] at large
      omega
    have long := le_div (e := e) some (by omega) (by omega)
    refine iff_of_false ?_ (Nat.not_lt.mpr ?_)
    · cases becomes with
      | zero none => omega
      | fits =>
        rw [isFinite_pack_finite]
        omega
      | grows =>
        rw [isFinite_pack_finite]
        omega
    · calc (2 ^ 54 - 1) * 2 ^ (970 - e).toNat ≤ 2 ^ 54 * 2 ^ (970 - e).toNat :=
            Nat.mul_le_mul_right _ (by decide)
        _ = 2 ^ (54 + (970 - e).toNat) := (Nat.pow_add 2 _ _).symm
        _ ≤ 2 ^ m.log2 := Nat.pow_le_pow_right (by decide) (by omega)
        _ ≤ m := Nat.log2_self_le some

/-- A number with enough places is rounded to one in canonical form. -/
theorem round_normal (s : Sign) (acc : Accuracy) (long : 52 ≤ m.log2) (low : -1074 ≤ e) :
    ∃ m' e', ∃ canonical : Canonical m' e',
      2 ^ 52 ≤ m' ∧ m.log2 + e - 52 ≤ e' ∧ e' ≤ m.log2 + e - 51 ∧
      roundWithAccuracy Format.binary64 s m e acc = .finite s m' e' canonical.positive := by
  have some : m ≠ 0 := by
    rintro rfl
    rw [Nat.log2_zero] at long
    omega
  have place_eq : e + (place m e - e).toNat = m.log2 + e - 52 := by
    unfold place
    omega
  have least := le_div (e := e) some (by omega) (by omega)
  have next := rounded_cases m (place m e - e).toNat acc
  have becomes := becomes_round s m e acc
  generalize roundWithAccuracy Format.binary64 s m e acc = u at becomes
  cases becomes with
  | zero none => omega
  | fits short =>
    exact ⟨_, _, ⟨by omega, short, by omega, .inl (by omega)⟩, by omega, by omega, by omega, rfl⟩
  | grows =>
    exact ⟨_, _, ⟨by decide, by decide, by omega, .inl (by decide)⟩, by decide, by omega,
      by omega, rfl⟩

/-! ## Signs -/

/-- A number has a sign. -/
def Signed (s : Sign) : UnpackedFloat → Prop
  | .zero s' | .infinity s' | .finite s' _ _ _ => s' = s
  | .notANumber => False

/-- What is no finite number and has a sign is infinite. -/
theorem Signed.eq_infinity (signed : Signed s u) (large : u.isFinite = false) :
    u = .infinity s := by
  cases u with
  | zero => cases large
  | finite => cases large
  | infinity s' =>
    obtain rfl : s' = s := signed
    rfl
  | notANumber => exact signed.elim

/-- Rounding keeps the sign. -/
theorem signed_round : Signed s (roundWithAccuracy Format.binary64 s m e acc) := by
  have becomes := becomes_round s m e acc
  generalize roundWithAccuracy Format.binary64 s m e acc = u at becomes
  cases becomes <;> rfl

/-- A regular number that is given by its fields has their sign. -/
theorem signed_ofFields {exponent : BitVec 11} {mantissa : BitVec 52}
    (regular : exponent ≠ -1#11) : Signed s (ofFields s exponent mantissa) := by
  have stands := standsFor_ofFields s exponent mantissa
  generalize ofFields s exponent mantissa = u at stands
  cases stands with
  | infinity => rfl
  | notANumber special => exact absurd special regular
  | zero => rfl
  | short => rfl
  | long => rfl

/-- Packing keeps the sign. -/
theorem Signed.unpack_pack (signed : Signed s u) : Signed s (Float.Model.pack u).unpack := by
  cases u with
  | zero s' =>
    obtain rfl : s' = s := signed
    cases s' <;> rfl
  | infinity s' =>
    obtain rfl : s' = s := signed
    cases s' <;> rfl
  | notANumber => exact signed.elim
  | finite s' m e h =>
    obtain rfl : s' = s := signed
    rw [unpack_pack_finite]
    split
    · rfl
    split
    · exact signed_ofFields (exponent_ne_special (by omega))
    · exact signed_ofFields (by decide)

end PageScript.Binary
