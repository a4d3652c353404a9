import PageScript.Proofs.Binary.Rounding

/-!
# Arithmetic that stays finite

A number is at most so great (`AtMost`), and so are products and quotients of such numbers: as long
as there is room, they are finite. What is above zero stays there when it is multiplied
(`above_mul`), and is below when its sign is changed.

**What it does not establish.** Nothing is said of how exact a product or a quotient is: of its
rounding only the bound and the sign are used.
-/

namespace PageScript.Binary

open Float.Model Float.Model.UnpackedFloat

variable {s s' : Sign} {m : Nat} {e high high' : Int} {acc : Accuracy} {u v : UnpackedFloat}

/-! ## Bounds -/

/-- A number is zero, or finite with its last place at `2 ^ high` or below. -/
def AtMost (high : Int) : UnpackedFloat → Prop
  | .zero _ => True
  | .finite _ m e _ => m < 2 ^ 53 ∧ e ≤ high
  | _ => False

/-- A number that is at most so great is finite. -/
theorem AtMost.isFinite (bounded : AtMost high u) : u.isFinite = true := by
  cases u with
  | zero => rfl
  | finite => rfl
  | infinity => exact bounded.elim
  | notANumber => exact bounded.elim

/-- A regular exponent bounds a number that is given by its fields. -/
theorem atMost_ofFields {exponent : BitVec 11} {mantissa : BitVec 52}
    (regular : exponent ≠ -1#11) (low : -1074 ≤ high)
    (bound : (exponent.toNat : Int) - 1075 ≤ high) :
    AtMost high (ofFields s exponent mantissa) := by
  have fits := mantissa.isLt
  have stands := standsFor_ofFields s exponent mantissa
  generalize ofFields s exponent mantissa = u at stands
  cases stands with
  | infinity special => exact absurd special regular
  | notANumber special => exact absurd special regular
  | zero => trivial
  | short => exact ⟨by omega, low⟩
  | long => exact ⟨by omega, bound⟩

/-- A bounded number is the same after it was packed, within the range of the format. -/
theorem AtMost.unpack_pack (bounded : AtMost high u) (low : -1074 ≤ high) (range : high ≤ 971) :
    AtMost high (Float.Model.pack u).unpack := by
  cases u with
  | zero s => cases s <;> trivial
  | infinity => exact bounded.elim
  | notANumber => exact bounded.elim
  | finite s m e h =>
    obtain ⟨-, bound⟩ := bounded
    rw [unpack_pack_finite, if_neg (by omega)]
    split
    · refine atMost_ofFields (exponent_ne_special (by omega)) low ?_
      rw [BitVec.toNat_ofNat, Nat.mod_eq_of_lt (by omega)]
      omega
    · exact atMost_ofFields (by decide) low (by simpa using by omega)

/-- A number whose last place and whose length leave room for rounding up keeps the bound. -/
theorem atMost_round (some : e < high) (bits : m.log2 + e - 52 < high) (low : -1074 < high) :
    AtMost high (roundWithAccuracy Format.binary64 s m e acc) := by
  have place_lt : e + (place m e - e).toNat < high := by
    unfold place
    omega
  have becomes := becomes_round s m e acc
  generalize roundWithAccuracy Format.binary64 s m e acc = u at becomes
  cases becomes with
  | zero => trivial
  | fits short => exact ⟨short, by omega⟩
  | grows => exact ⟨by decide, by omega⟩

/-- A number below a power of two has a logarithm below the exponent. -/
theorem log2_lt {k : Nat} (short : m < 2 ^ (k + 1)) : m.log2 ≤ k := by
  by_cases none : m = 0
  · rw [none, Nat.log2_zero]
    exact Nat.zero_le k
  · have := (Nat.log2_lt none).mpr short
    omega

/-- The bound of a product is the sum of the bounds, and the bits of a significand. -/
theorem AtMost.mul (left : AtMost high u) (right : AtMost high' v)
    (low : -1074 < high + high' + 54) :
    AtMost (high + high' + 54) (UnpackedFloat.mul Format.binary64 u v) := by
  cases u with
  | infinity => exact left.elim
  | notANumber => exact left.elim
  | zero =>
    cases v with
    | infinity => exact right.elim
    | notANumber => exact right.elim
    | zero => trivial
    | finite => trivial
  | finite s₁ m₁ e₁ h₁ =>
    cases v with
    | infinity => exact right.elim
    | notANumber => exact right.elim
    | zero => trivial
    | finite s₂ m₂ e₂ h₂ =>
      obtain ⟨short₁, bound₁⟩ := left
      obtain ⟨short₂, bound₂⟩ := right
      have bits : (m₁ * m₂).log2 ≤ 105 := by
        refine log2_lt (Nat.lt_of_lt_of_le (Nat.mul_lt_mul_of_lt_of_lt short₁ short₂) ?_)
        decide
      exact atMost_round (by omega) (by omega) low

/-- Dividing takes places off in the measure of the divisor. -/
theorem AtMost.div (left : AtMost high u) {s₂ : Sign} {m₂ : Nat} {e₂ : Int} {h₂ : 0 < m₂}
    (bound : high - e₂ < high') (low : -1074 < high') :
    AtMost high' (UnpackedFloat.div Format.binary64 u (.finite s₂ m₂ e₂ h₂)) := by
  cases u with
  | infinity => exact left.elim
  | notANumber => exact left.elim
  | zero => trivial
  | finite s₁ m₁ e₁ h₁ =>
    obtain ⟨short, bound₁⟩ := left
    unfold UnpackedFloat.div divCore
    dsimp only
    generalize Format.binary64.targetExponent _ = t
    have bits : (m₁ <<< (e₁ - e₂ - min (e₁ - e₂) t).toNat / m₂).log2 ≤
        52 + (e₁ - e₂ - min (e₁ - e₂) t).toNat := by
      refine log2_lt (Nat.lt_of_le_of_lt (Nat.div_le_self _ _) ?_)
      rw [Nat.shiftLeft_eq, Nat.add_right_comm, Nat.pow_add]
      exact Nat.mul_lt_mul_of_pos_right short (Nat.two_pow_pos _)
    exact atMost_round (by omega) (by omega) low

/-! ## Whole numbers -/

/-- Shifting adds to the logarithm. -/
theorem log2_shiftLeft (some : m ≠ 0) (k : Nat) : (m <<< k).log2 = m.log2 + k := by
  induction k with
  | zero => rfl
  | succ k ih =>
    have more : m <<< k ≠ 0 := Nat.ne_of_gt (Nat.shiftLeft_pos_iff.mpr (Nat.pos_of_ne_zero some))
    rw [Nat.shiftLeft_succ, Nat.log2_two_mul more, ih, Nat.add_assoc]

/-- A positive number of 64 bits. -/
theorem unpack_ofUInt64 {n : UInt64} (some : n ≠ 0) :
    ∃ m e, ∃ canonical : Canonical m e, 2 ^ 52 ≤ m ∧ -52 ≤ e ∧ e ≤ 12 ∧
      n.toFloat.toModel.unpack = .finite .positive m e canonical.positive := by
  have positive : n.toNat ≠ 0 := fun none => some (UInt64.toNat_inj.mp none)
  have bits : n.toNat.log2 ≤ 63 := log2_lt n.toNat_lt
  have sign : compare (n.toNat : Int) 0 = .gt := Int.compare_eq_gt.mpr (by omega)
  have place_eq : place n.toNat 0 = n.toNat.log2 - 52 := by
    unfold place
    omega
  -- What is short gets zeros, what is long is rounded as it is.
  have zeros : (n.toNat <<< (0 - place n.toNat 0).toNat).log2 =
      n.toNat.log2 + (0 - place n.toNat 0).toNat := log2_shiftLeft positive _
  have rounds : UnpackedFloat.ofUInt64 Format.binary64 n =
      roundWithAccuracy Format.binary64 .positive (n.toNat <<< (0 - place n.toNat 0).toNat)
        (0 - (0 - place n.toNat 0).toNat) .exact := by
    simp only [UnpackedFloat.ofUInt64, UnpackedFloat.ofNat, UnpackedFloat.ofInt, sign,
      UnpackedFloat.normalize, Int.toNat_natCast, UnpackedFloat.round, targetExponent_eq]
    rfl
  obtain ⟨m, e, canonical, long, least, most, rounded⟩ :=
    round_normal .positive .exact (m := n.toNat <<< (0 - place n.toNat 0).toNat)
      (e := 0 - (0 - place n.toNat 0).toNat) (by omega) (by omega)
  refine ⟨m, e, canonical, long, by omega, by omega, ?_⟩
  rw [← unpack_pack canonical (by omega), ← rounded, ← rounds]
  rfl

/-- The number zero is a zero. -/
theorem unpack_zero : (0 : Float).toModel.unpack = .zero .positive := by rfl

/-- The integer zero becomes a zero. -/
theorem unpack_ofUInt64_zero : (0 : UInt64).toFloat.toModel.unpack = .zero .positive := by rfl

/-- A number of 64 bits is finite, with room for more, and not negative. -/
theorem atMost_ofUInt64 (n : UInt64) :
    AtMost 12 n.toFloat.toModel.unpack ∧ Signed .positive n.toFloat.toModel.unpack := by
  by_cases some : n = 0
  · rw [some, unpack_ofUInt64_zero]
    exact ⟨trivial, rfl⟩
  · obtain ⟨m, e, canonical, -, -, most, unpacked⟩ := unpack_ofUInt64 some
    rw [unpacked]
    exact ⟨⟨canonical.short, most⟩, rfl⟩

/-! ## Signs -/

/-- A number is greater than zero. -/
def Above : UnpackedFloat → Prop
  | .finite .positive _ _ _ | .infinity .positive => True
  | _ => False

/-- The product of numbers above zero is above zero, if the first one is long. -/
theorem above_mul {m₁ m₂ : Nat} {e₁ e₂ : Int} {h₁ : 0 < m₁} {h₂ : 0 < m₂} (long : 2 ^ 52 ≤ m₁)
    (low : -1074 ≤ e₁ + e₂) :
    Above (Float.Model.pack (UnpackedFloat.mul Format.binary64 (.finite .positive m₁ e₁ h₁)
      (.finite .positive m₂ e₂ h₂))).unpack := by
  have more : 52 ≤ (m₁ * m₂).log2 := by
    refine (Nat.le_log2 (Nat.ne_of_gt (Nat.mul_pos h₁ h₂))).mpr ?_
    calc 2 ^ 52 ≤ 2 ^ 52 * 1 := by decide
      _ ≤ m₁ * m₂ := Nat.mul_le_mul long h₂
  obtain ⟨m, e, canonical, -, -, -, rounded⟩ :=
    round_normal .positive .exact more low
  have product : UnpackedFloat.mul Format.binary64 (.finite .positive m₁ e₁ h₁)
      (.finite .positive m₂ e₂ h₂) = .finite .positive m e canonical.positive := rounded
  rw [product]
  by_cases range : e ≤ 971
  · rw [unpack_pack canonical range]
    trivial
  · rw [unpack_pack_finite, if_pos (by omega)]
    trivial

/-- Every finite number has a sign. -/
theorem exists_signed (finite : u.isFinite = true) : ∃ s, Signed s u := by
  cases u with
  | infinity => cases finite
  | notANumber => cases finite
  | zero s => exact ⟨s, rfl⟩
  | finite s => exact ⟨s, rfl⟩

/-- The sign of a product is the product of the signs, as long as it is finite. -/
theorem Signed.mul (left : Signed s u) (right : Signed s' v) (finite : u.isFinite = true)
    (finite' : v.isFinite = true) : Signed (s * s') (UnpackedFloat.mul Format.binary64 u v) := by
  cases u with
  | infinity => cases finite
  | notANumber => cases finite
  | zero =>
    obtain rfl := left
    cases v with
    | infinity => cases finite'
    | notANumber => cases finite'
    | zero =>
      obtain rfl := right
      rfl
    | finite =>
      obtain rfl := right
      rfl
  | finite =>
    obtain rfl := left
    cases v with
    | infinity => cases finite'
    | notANumber => cases finite'
    | zero =>
      obtain rfl := right
      rfl
    | finite =>
      obtain rfl := right
      exact signed_round

/-- The sign of a quotient is the quotient of the signs. -/
theorem Signed.div (left : Signed s u) (finite : u.isFinite = true) {m₂ : Nat} {e₂ : Int}
    (h₂ : 0 < m₂) :
    Signed (s / s') (UnpackedFloat.div Format.binary64 u (.finite s' m₂ e₂ h₂)) := by
  cases u with
  | infinity => cases finite
  | notANumber => cases finite
  | zero =>
    obtain rfl := left
    rfl
  | finite =>
    obtain rfl := left
    exact signed_round

/-! ## Floating-point numbers -/

variable {x y : Float}

/-- One float is less than another if what they unpack to is. -/
theorem lt_iff : x < y ↔ x.toModel.unpack.lt y.toModel.unpack = true :=
  decide_eq_true_iff

/-- One float is at most another if what they unpack to is. -/
theorem le_iff : x ≤ y ↔ x.toModel.unpack.le y.toModel.unpack = true :=
  decide_eq_true_iff

/-- Changing the sign changes nothing else. -/
theorem unpack_neg (x : Float) : (-x).toModel.unpack = x.toModel.unpack.neg := by
  show (Float.Model.pack x.toModel.unpack.neg).unpack = _
  cases read : x.toModel.unpack with
  | infinity s => cases s <;> rfl
  | notANumber => rfl
  | zero s => cases s <;> rfl
  | finite s m e h =>
    obtain ⟨canonical, range⟩ := canonical_of_unpack read
    exact unpack_pack canonical range

/-- Changing the sign keeps a number finite. -/
theorem isFinite_neg (x : Float) : (-x).isFinite = x.isFinite := by
  show (-x).toModel.unpack.isFinite = x.toModel.unpack.isFinite
  rw [unpack_neg]
  cases x.toModel.unpack <;> rfl

/-- A float is greater than zero if what it unpacks to is above it. -/
theorem zero_lt_iff : 0 < x ↔ Above x.toModel.unpack := by
  rw [lt_iff, unpack_zero]
  cases x.toModel.unpack with
  | notANumber => exact iff_of_false (by decide) id
  | zero s => exact iff_of_false (by cases s <;> decide) id
  | infinity s =>
    cases s with
    | positive => exact iff_of_true rfl trivial
    | negative => exact iff_of_false Bool.false_ne_true id
  | finite s m e h =>
    cases s with
    | positive => exact iff_of_true rfl trivial
    | negative => exact iff_of_false Bool.false_ne_true id

/-- What is above zero is below it with the other sign. -/
theorem not_zero_le_neg (above : Above x.toModel.unpack) : ¬ 0 ≤ -x := by
  rw [le_iff, unpack_zero, unpack_neg]
  revert above
  cases x.toModel.unpack with
  | notANumber => exact False.elim
  | zero s => exact False.elim
  | infinity s =>
    cases s with
    | negative => exact False.elim
    | positive => exact fun _ => by decide
  | finite s m e h =>
    cases s with
    | negative => exact False.elim
    | positive => exact fun _ => Bool.false_ne_true

/-- A product of finite numbers that is not infinite is finite. -/
theorem isFinite_mul (left : x.isFinite = true) (right : y.isFinite = true)
    (some : (x * y).isInf = false) : (x * y).isFinite = true := by
  obtain ⟨s, signed⟩ := exists_signed left
  obtain ⟨s', signed'⟩ := exists_signed right
  replace signed := signed.mul signed' left right
  by_contra large
  have unpacked := signed.unpack_pack.eq_infinity (Bool.eq_false_iff.mpr large)
  change (Float.Model.pack _).unpack.isInf = false at some
  rw [unpacked] at some
  cases some

end PageScript.Binary
