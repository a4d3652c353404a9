import Mathlib.Algebra.Order.Field.Rat
import Mathlib.Tactic.NormNum
import Mathlib.Tactic.Positivity
import Mathlib.Tactic.Ring
import PageScript.Proofs.Binary.Arithmetic

/-!
# Decimals as floating-point numbers

A decimal becomes a finite number just if it is less than halfway beyond the greatest finite number
(`isFinite_ofScientific_iff`), and positive infinity otherwise (`signed_ofScientific`). The powers
of ten up to the last one in range are long numbers above zero (`unpack_powerOfTen`).

**What it does not establish.** Nothing is said of the digits that a floating-point number keeps of
a decimal.
-/

namespace PageScript.Binary

open Float.Model Float.Model.UnpackedFloat

variable {m n : Nat} {e : Int}

/-! ## Overflow -/

/-- The first number that is not rounded to a finite one: halfway from the greatest finite number to
the next power of two. -/
def overflow : Nat := (2 ^ 54 - 1) * 2 ^ 970

/-- A decimal with a power of ten that is not negative. -/
theorem mul_pow_lt_overflow_iff : (m : ℚ) * 10 ^ (n : ℤ) < overflow ↔ m * 10 ^ n < overflow := by
  rw [zpow_natCast]
  exact_mod_cast Iff.rfl

/-- A decimal with places is below the overflow if its digits are, as many powers of ten higher. -/
theorem mul_pow_neg_lt_overflow_iff :
    (m : ℚ) * 10 ^ (-(n : ℤ)) < overflow ↔ m < overflow * 10 ^ n := by
  rw [zpow_neg, zpow_natCast, ← div_eq_mul_inv, div_lt_iff₀ (by positivity)]
  exact_mod_cast Iff.rfl

/-- The overflow is below the first power of ten out of range. -/
theorem overflow_lt : overflow < 10 ^ 309 := by
  decide +kernel

/-- Zero is below the overflow, whatever its exponent. -/
theorem zero_lt_overflow (e : Int) : ((0 : Nat) : ℚ) * 10 ^ e < overflow := by
  rw [Nat.cast_zero, zero_mul]
  exact_mod_cast (by decide +kernel : 0 < overflow)

/-- A number of many digits overflows. -/
theorem overflow_le {k : Nat} (long : 10 ^ k ≤ m) (large : 309 ≤ k + e) :
    (overflow : ℚ) ≤ m * 10 ^ e := by
  have wide : (overflow : ℚ) ≤ 10 ^ (309 : ℤ) := by
    exact_mod_cast Nat.le_of_lt overflow_lt
  calc (overflow : ℚ) ≤ 10 ^ (309 : ℤ) := wide
    _ ≤ 10 ^ ((k : ℤ) + e) := zpow_le_zpow_right₀ (by norm_num) large
    _ = (10 ^ k : ℕ) * 10 ^ e := by rw [zpow_add₀ (by norm_num)]; push_cast; rw [zpow_natCast]
    _ ≤ m * 10 ^ e := by
      refine mul_le_mul_of_nonneg_right ?_ (zpow_pos (by norm_num) e).le
      exact_mod_cast long

/-- A number of few digits does not overflow. -/
theorem lt_overflow {k : Nat} (short : m ≤ 10 ^ k) (small : k + e ≤ 308) :
    (m : ℚ) * 10 ^ e < overflow := by
  have wide : (10 : ℚ) ^ (308 : ℤ) < overflow := by
    have bound : 10 ^ 308 < overflow := by decide +kernel
    exact_mod_cast bound
  calc (m : ℚ) * 10 ^ e ≤ (10 ^ k : ℕ) * 10 ^ e := by
        refine mul_le_mul_of_nonneg_right ?_ (zpow_pos (by norm_num) e).le
        exact_mod_cast short
    _ = 10 ^ ((k : ℤ) + e) := by rw [zpow_add₀ (by norm_num)]; push_cast; rw [zpow_natCast]
    _ ≤ 10 ^ (308 : ℤ) := zpow_le_zpow_right₀ (by norm_num) small
    _ < overflow := wide

/-! ## Rounding decimals -/

/-- A rounded multiple of a power of ten is finite if and only if it is below the overflow. -/
theorem isFinite_round_product_iff :
    (Float.Model.pack (roundWithAccuracy Format.binary64 .positive (m <<< 53 * 10 ^ n) (-53)
      .exact)).unpack.isFinite = true ↔ m * 10 ^ n < overflow := by
  have scaled : m <<< 53 * 10 ^ n = m * 10 ^ n * 2 ^ 53 := by
    rw [Nat.shiftLeft_eq]
    ring
  have bound : (2 ^ 54 - 1) * 2 ^ (970 - (-53 : Int)).toNat = overflow * 2 ^ 53 := by
    decide +kernel
  rw [isFinite_round_iff (by decide), scaled, bound, Nat.mul_lt_mul_right (by decide)]

/-- A rounded quotient by a power of ten is finite if and only if it is below the overflow. -/
theorem isFinite_round_quotient_iff {k : Nat} {acc : Accuracy} :
    (Float.Model.pack (roundWithAccuracy Format.binary64 .positive (m <<< k / 10 ^ n) (-k)
      acc)).unpack.isFinite = true ↔ m < overflow * 10 ^ n := by
  have bound : (2 ^ 54 - 1) * 2 ^ (970 - (-k : Int)).toNat = overflow * 2 ^ k := by
    have places : (970 - (-k : Int)).toNat = 970 + k := by omega
    have split (a j : Nat) : a * 2 ^ (j + k) = a * 2 ^ j * 2 ^ k := by
      rw [Nat.pow_add, Nat.mul_assoc]
    calc (2 ^ 54 - 1) * 2 ^ (970 - (-k : Int)).toNat = (2 ^ 54 - 1) * 2 ^ (970 + k) :=
          congrArg (fun j => (2 ^ 54 - 1) * 2 ^ j) places
      _ = overflow * 2 ^ k := split (2 ^ 54 - 1) 970
  rw [isFinite_round_iff (by omega), bound, Nat.div_lt_iff_lt_mul (Nat.pow_pos (by decide)),
    Nat.shiftLeft_eq, Nat.mul_right_comm, Nat.mul_lt_mul_right (Nat.two_pow_pos k)]

/-- What becomes of a decimal: it is rounded as a product or as a quotient, unless its power of ten
is too great or too small. -/
inductive Scientific (m : Nat) (e : Int) : UnpackedFloat → Prop where
  | none (zero : m = 0) : Scientific m e (.zero .positive)
  | large (some : m ≠ 0) (large : e > 2 ^ 11) : Scientific m e (.infinity .positive)
  | small (small : e < -(2 ^ 11 + (m.log2 : Int))) : Scientific m e (.zero .positive)
  | product (low : 0 ≤ e) : Scientific m e
      (roundWithAccuracy Format.binary64 .positive (m <<< 53 * 10 ^ e.toNat) (-53) .exact)
  | quotient (high : ¬ 0 ≤ e) (k : Nat) (acc : Accuracy) : Scientific m e
      (roundWithAccuracy Format.binary64 .positive (m <<< k / 10 ^ (-e).toNat) (-k) acc)

/-- What a decimal becomes is one of these. -/
theorem scientific_ofScientific (m : Nat) (e : Int) :
    Scientific m e (UnpackedFloat.ofScientific Format.binary64 m e) := by
  unfold UnpackedFloat.ofScientific
  by_cases zero : m = 0
  · rw [dif_pos zero]
    exact .none zero
  rw [dif_neg zero]
  by_cases large : e > 2 ^ Format.binary64.exponentBits
  · rw [if_pos large]
    exact .large zero large
  rw [if_neg large]
  by_cases small : e < -(2 ^ Format.binary64.exponentBits + (m.log2 : Int))
  · rw [if_pos small]
    exact .small small
  rw [if_neg small]
  by_cases low : 0 ≤ e
  · rw [if_pos low]
    exact .product low
  · rw [if_neg low]
    unfold UnpackedFloat.div divCore
    dsimp only
    generalize Format.binary64.targetExponent _ = t
    obtain ⟨k, last⟩ : ∃ k : Nat, min (0 - 0) t = -(k : Int) := ⟨(min 0 t).natAbs, by omega⟩
    have shift : (0 - 0 - -(k : Int)).toNat = k := by omega
    rw [last, shift]
    exact .quotient low k _

/-- A decimal that is not computed, because its power of ten is too great or too small, is far from
where overflow begins. -/
theorem isFinite_ofScientific_unpacked_iff (m : Nat) (e : Int) :
    (Float.Model.ofScientific m e).unpack.isFinite = true ↔ (m : ℚ) * 10 ^ e < overflow := by
  show (Float.Model.pack (UnpackedFloat.ofScientific Format.binary64 m e)).unpack.isFinite =
    true ↔ _
  have scientific := scientific_ofScientific m e
  generalize UnpackedFloat.ofScientific Format.binary64 m e = u at scientific
  cases scientific with
  | none zero =>
    subst zero
    exact iff_of_true isFinite_pack_zero (zero_lt_overflow e)
  | large some large =>
    refine iff_of_false Bool.false_ne_true (not_lt.mpr ?_)
    exact overflow_le (k := 0) (Nat.pos_of_ne_zero some) (by omega)
  | small small =>
    refine iff_of_true isFinite_pack_zero (lt_overflow (k := m.log2 + 1) ?_ (by omega))
    exact Nat.le_trans (Nat.le_of_lt Nat.lt_log2_self) (Nat.pow_le_pow_left (by decide) _)
  | product low =>
    obtain ⟨n, rfl⟩ := Int.eq_ofNat_of_zero_le low
    rw [mul_pow_lt_overflow_iff]
    exact isFinite_round_product_iff
  | quotient high =>
    obtain ⟨n, rfl⟩ : ∃ n : Nat, e = -n := ⟨e.natAbs, by omega⟩
    have exponent : (- -(n : Int)).toNat = n := by omega
    rw [mul_pow_neg_lt_overflow_iff, exponent]
    exact isFinite_round_quotient_iff

/-- A decimal, as the model rounds it, becomes a number that is not negative. -/
theorem signed_ofScientific_unpacked (m : Nat) (e : Int) :
    Signed .positive (Float.Model.ofScientific m e).unpack := by
  refine Signed.unpack_pack ?_
  have scientific := scientific_ofScientific m e
  generalize UnpackedFloat.ofScientific Format.binary64 m e = u at scientific
  cases scientific with
  | none => rfl
  | large => rfl
  | small => rfl
  | product => exact signed_round
  | quotient => exact signed_round

/-! ## Powers of ten -/

/-- A number above zero has a significand of 53 places, the last one of which is neither below that
of one nor above a bound. -/
def Long (high : Int) : UnpackedFloat → Prop
  | .finite .positive m e _ => 2 ^ 52 ≤ m ∧ -52 ≤ e ∧ e ≤ high
  | _ => False

instance (high : Int) (u : UnpackedFloat) : Decidable (Long high u) :=
  match u with
  | .finite .positive m e _ => inferInstanceAs (Decidable (2 ^ 52 ≤ m ∧ -52 ≤ e ∧ e ≤ high))
  | .finite .negative _ _ _ | .zero _ | .infinity _ | .notANumber => isFalse id

/-- A long number is a finite positive one with all its bits. -/
theorem Long.exists_eq {high : Int} {u : UnpackedFloat} (long : Long high u) :
    ∃ m e h, u = .finite .positive m e h ∧ 2 ^ 52 ≤ m ∧ -52 ≤ e ∧ e ≤ high := by
  cases u with
  | zero => exact long.elim
  | infinity => exact long.elim
  | notANumber => exact long.elim
  | finite s m e h =>
    cases s with
    | positive => exact ⟨m, e, h, rfl, long⟩
    | negative => exact long.elim

/-- The powers of ten that are exact. -/
theorem long_of_mem_exactPowers :
    ∀ x ∈ Float.exactlyRepresentablePowersOfTen, Long 21 x.toModel.unpack := by
  decide +kernel

/-! ## Floating-point numbers -/

/-- A short decimal is computed with floats, and every other one as the model does. -/
theorem ofScientific_cases (m : Nat) (down : Bool) (n : Nat) :
    (m < 2 ^ 53 ∧ n ≤ 22 ∧ ∃ p : Float, Long 21 p.toModel.unpack ∧
      Float.ofScientific m down n =
        if down then m.toUInt64.toFloat / p else m.toUInt64.toFloat * p) ∨
    (Float.ofScientific m down n).toModel =
      Float.Model.ofScientific m (if down then -(n : Int) else n) := by
  unfold Float.ofScientific
  split
  · rename_i short
    exact .inl ⟨short.1, short.2, _, long_of_mem_exactPowers _ (Array.getElem_mem _), rfl⟩
  · right
    cases down with
    | true => rw [if_pos rfl, if_pos rfl, Int.negOfNat_eq]; rfl
    | false => rfl

/-- What comes out of the short way by one multiplication or division with an exact power. -/
theorem exact_of_long {x p : Float} (bound : AtMost 12 x.toModel.unpack)
    (signed : Signed .positive x.toModel.unpack) (long : Long 21 p.toModel.unpack) (down : Bool) :
    let y := if down then x / p else x * p
    y.isFinite = true ∧ Signed .positive y.toModel.unpack := by
  obtain ⟨m, e, h, unpacked, -, low, high⟩ := long.exists_eq
  have short : AtMost 21 (.finite .positive m e h) := ⟨(canonical_of_unpack unpacked).1.short, high⟩
  cases down with
  | true =>
    have quotient : (x / p).toModel = Float.Model.pack
        (UnpackedFloat.div Format.binary64 x.toModel.unpack p.toModel.unpack) := rfl
    show (x / p).toModel.unpack.isFinite = true ∧ Signed .positive (x / p).toModel.unpack
    rw [quotient, unpacked]
    constructor
    · exact ((bound.div (by omega : 12 - e < 65) (by decide)).unpack_pack (by decide)
        (by decide)).isFinite
    · exact (signed.div bound.isFinite h).unpack_pack
  | false =>
    have product : (x * p).toModel = Float.Model.pack
        (UnpackedFloat.mul Format.binary64 x.toModel.unpack p.toModel.unpack) := rfl
    show (x * p).toModel.unpack.isFinite = true ∧ Signed .positive (x * p).toModel.unpack
    rw [product, unpacked]
    constructor
    · exact ((bound.mul short (by decide)).unpack_pack (by decide) (by decide)).isFinite
    · have positive : Signed .positive (.finite .positive m e h) := rfl
      exact (signed.mul positive bound.isFinite rfl).unpack_pack

/-- A decimal becomes a finite number unless it overflows. -/
theorem isFinite_ofScientific_iff (m : Nat) (down : Bool) (n : Nat) :
    (Float.ofScientific m down n).isFinite = true ↔
      (m : ℚ) * 10 ^ (if down then -(n : Int) else n) < overflow := by
  rcases ofScientific_cases m down n with ⟨short, few, p, long, spelled⟩ | slow
  · rw [spelled]
    obtain ⟨bound, signed⟩ := atMost_ofUInt64 m.toUInt64
    refine iff_of_true (exact_of_long bound signed long down).1 (lt_overflow (k := 16) ?_ ?_)
    · exact Nat.le_trans (Nat.le_of_lt short) (by decide)
    · split <;> omega
  · show (Float.ofScientific m down n).toModel.unpack.isFinite = true ↔ _
    rw [slow]
    exact isFinite_ofScientific_unpacked_iff m _

/-- A decimal becomes a number that is not negative. -/
theorem signed_ofScientific (m : Nat) (down : Bool) (n : Nat) :
    Signed .positive (Float.ofScientific m down n).toModel.unpack := by
  rcases ofScientific_cases m down n with ⟨-, -, p, long, spelled⟩ | slow
  · rw [spelled]
    obtain ⟨bound, signed⟩ := atMost_ofUInt64 m.toUInt64
    exact (exact_of_long bound signed long down).2
  · rw [slow]
    exact signed_ofScientific_unpacked m _

/-- A power of ten beyond the short ones is rounded from its product. -/
theorem model_powerOfTen (wide : 22 < n) (range : n ≤ 308) :
    (Float.ofScientific 1 false n).toModel = Float.Model.pack
      (roundWithAccuracy Format.binary64 .positive (1 <<< 53 * 10 ^ n) (-53) .exact) := by
  rcases ofScientific_cases 1 false n with ⟨-, few, -⟩ | slow
  · omega
  rw [slow, if_neg Bool.false_ne_true]
  show Float.Model.pack (UnpackedFloat.ofScientific Format.binary64 1 n) = _
  have large : ¬ ((n : Int) > 2 ^ Format.binary64.exponentBits) := by
    show ¬ ((n : Int) > 2 ^ 11)
    omega
  have small : ¬ ((n : Int) < -((2 ^ Format.binary64.exponentBits : Int) + Nat.log2 1)) := by
    show ¬ ((n : Int) < -(2 ^ 11 + Nat.log2 1))
    omega
  rw [UnpackedFloat.ofScientific, dif_neg (by decide), if_neg large, if_neg small,
    if_pos (Int.natCast_nonneg n)]
  rfl

/-- A power of ten that is not exact and does not overflow. -/
theorem unpack_powerOfTen (wide : 22 < n) (range : n ≤ 308) :
    ∃ m e h, (Float.ofScientific 1 false n).toModel.unpack = .finite .positive m e h ∧
      2 ^ 52 ≤ m ∧ (10 ^ n).log2 - 52 ≤ e ∧ e ≤ 971 := by
  have bits : (1 <<< 53 * 10 ^ n).log2 = (10 ^ n).log2 + 53 := by
    rw [Nat.shiftLeft_eq, Nat.one_mul, Nat.mul_comm, ← Nat.shiftLeft_eq,
      log2_shiftLeft (Nat.ne_of_gt (Nat.pow_pos (by decide)))]
  have finite : (Float.ofScientific 1 false n).toModel.unpack.isFinite = true := by
    refine (isFinite_ofScientific_iff 1 false n).mpr ?_
    rw [if_neg Bool.false_ne_true]
    exact lt_overflow (k := 0) (by decide) (by omega)
  obtain ⟨m, e, canonical, long, low, -, rounded⟩ :=
    round_normal .positive .exact (m := 1 <<< 53 * 10 ^ n) (e := -53) (by omega) (by decide)
  rw [model_powerOfTen wide range, rounded] at finite ⊢
  have high := isFinite_pack_finite.mp finite
  exact ⟨m, e, canonical.positive, unpack_pack canonical high, long, by omega, high⟩

/-- The powers of ten up to the last one in range are long. -/
theorem long_powerOfTen (range : n ≤ 308) :
    Long 971 (Float.ofScientific 1 false n).toModel.unpack := by
  by_cases few : n < 23
  · have exact_ : ∀ n < 23, Long 971 (Float.ofScientific 1 false n).toModel.unpack := by
      decide +kernel
    exact exact_ n few
  · obtain ⟨m, e, h, unpacked, long, low, high⟩ := unpack_powerOfTen (by omega) range
    rw [unpacked]
    exact ⟨long, by omega, high⟩

end PageScript.Binary
