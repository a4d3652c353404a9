import Mathlib.Algebra.Group.Nat.Defs
import Mathlib.Data.Nat.Log

/-!
# Packed numbers

A floating-point number of 64 bits has a sign, an exponent of 11 bits and 52 bits of its
significand. Here is what these fields stand for (`ofFields`), that a number is finite as long as
its exponent is in range (`isFinite_pack_finite`), and that one in canonical form is read back as it
was packed (`unpack_pack`, `canonical_of_unpack`).

**What it does not establish.** Which packed number stands for no number: only that it is not
finite.
-/

namespace PageScript.Binary

open Float.Model Float.Model.UnpackedFloat

variable {s s' : Sign} {m : Nat} {e : Int}

/-! ## Fields -/

/-- The number that the fields of a packed one stand for. -/
def ofFields (s : Sign) (exponent : BitVec 11) (mantissa : BitVec 52) : UnpackedFloat :=
  if exponent = -1#11 then if mantissa = 0#52 then .infinity s else .notANumber
  else if exponent = 0#11 then
    if h : mantissa = 0#52 then .zero s
    else .finite s mantissa.toNat (-1074) (by simpa [BitVec.toNat_pos, BitVec.pos_iff_ne_zero])
  else .finite s (2 ^ 52 + mantissa.toNat) (exponent.toNat - 1075) (by omega)

/-- What fields may stand for. -/
inductive StandsFor (s : Sign) (exponent : BitVec 11) (mantissa : BitVec 52) :
    UnpackedFloat → Prop where
  | infinity (special : exponent = -1#11) : StandsFor s exponent mantissa (.infinity s)
  | notANumber (special : exponent = -1#11) : StandsFor s exponent mantissa .notANumber
  | zero (regular : exponent ≠ -1#11) : StandsFor s exponent mantissa (.zero s)
  | short (regular : exponent ≠ -1#11) (h : 0 < mantissa.toNat) :
    StandsFor s exponent mantissa (.finite s mantissa.toNat (-1074) h)
  | long (regular : exponent ≠ -1#11) (filled : exponent ≠ 0#11) (h : 0 < 2 ^ 52 + mantissa.toNat) :
    StandsFor s exponent mantissa (.finite s (2 ^ 52 + mantissa.toNat) (exponent.toNat - 1075) h)

/-- The number that fields give is one that they may stand for. -/
theorem standsFor_ofFields (s : Sign) (exponent : BitVec 11) (mantissa : BitVec 52) :
    StandsFor s exponent mantissa (ofFields s exponent mantissa) := by
  unfold ofFields
  by_cases special : exponent = -1#11
  · rw [if_pos special]
    by_cases none : mantissa = 0#52
    · rw [if_pos none]
      exact .infinity special
    · rw [if_neg none]
      exact .notANumber special
  rw [if_neg special]
  by_cases zero : exponent = 0#11
  · rw [if_pos zero]
    by_cases none : mantissa = 0#52
    · rw [dif_pos none]
      exact .zero special
    · rw [dif_neg none]
      exact .short special _
  · rw [if_neg zero]
    exact .long special zero _

/-- The hidden bit is put before the mantissa. -/
theorem toNat_one_append (mantissa : BitVec 52) :
    (1#1 ++ mantissa).toNat = 2 ^ 52 + mantissa.toNat := by
  rw [BitVec.toNat_append]
  exact (Nat.shiftLeft_add_eq_or_of_lt mantissa.isLt 1).symm

/-- A number is unpacked by its fields. -/
theorem unpack_eq (b : BitVec 64) :
    UnpackedFloat.unpack Format.binary64 b =
      ofFields (Sign.ofBitVec (@unpackSign Format.binary64 b))
        (@unpackExponent Format.binary64 b)
        (@unpackMantissa Format.binary64 b) := by
  unfold UnpackedFloat.unpack ofFields
  by_cases special : @unpackExponent Format.binary64 b = -1#11
  · exact (if_pos special).trans (if_pos special).symm
  refine (if_neg special).trans (Eq.trans ?_ (if_neg special).symm)
  by_cases zero : @unpackExponent Format.binary64 b = 0#11
  · refine (if_pos zero).trans (Eq.trans ?_ (if_pos zero).symm)
    by_cases none : @unpackMantissa Format.binary64 b = 0#52
    · rw [dif_pos none, dif_pos none]
    · refine (dif_neg none).trans (Eq.trans ?_ (dif_neg none).symm)
      rw [UnpackedFloat.finite.injEq]
      exact ⟨rfl, rfl, by rw [zero]; rfl⟩
  · refine (if_neg zero).trans (Eq.trans ?_ (if_neg zero).symm)
    rw [UnpackedFloat.finite.injEq]
    exact ⟨rfl, toNat_one_append _, rfl⟩

/-- The sign is read back from the packed components. -/
theorem unpackSign_packComponents (s : Sign) (exponent : BitVec 11) (mantissa : BitVec 52) :
    Sign.ofBitVec (unpackSign (packComponents Format.binary64 s exponent mantissa)) = s := by
  have sign : unpackSign (packComponents Format.binary64 s exponent mantissa) = s.toBitVec := by
    show (s.toBitVec ++ exponent ++ mantissa).extractLsb' 63 1 = s.toBitVec
    rw [BitVec.extractLsb'_append_eq_of_le (by decide),
      BitVec.extractLsb'_append_eq_of_le (by decide)]
    cases s <;> rfl
  rw [sign]
  cases s <;> rfl

/-- Packed components are unpacked as the number that is given by them. -/
theorem unpack_packComponents (s : Sign) (exponent : BitVec 11) (mantissa : BitVec 52) :
    UnpackedFloat.unpack Format.binary64 (packComponents Format.binary64 s exponent mantissa) =
      ofFields s exponent mantissa := by
  rw [unpack_eq, unpackSign_packComponents, unpackExponent_packComponents,
    unpackMantissa_packComponents]

/-- An exponent in range is not the special one. -/
theorem exponent_ne_special {n : Nat} (small : n < 2047) : BitVec.ofNat 11 n ≠ -1#11 := by
  intro same
  have values := congrArg BitVec.toNat same
  rw [BitVec.toNat_ofNat] at values
  change n % 2048 = 2047 at values
  omega

/-- A number is finite unless its exponent is the special one. -/
theorem isFinite_ofFields {exponent : BitVec 11} {mantissa : BitVec 52} :
    (ofFields s exponent mantissa).isFinite = true ↔ exponent ≠ -1#11 := by
  have stands := standsFor_ofFields s exponent mantissa
  generalize ofFields s exponent mantissa = u at stands
  cases stands with
  | infinity special => exact iff_of_false Bool.false_ne_true (not_not_intro special)
  | notANumber special => exact iff_of_false Bool.false_ne_true (not_not_intro special)
  | zero regular => exact iff_of_true rfl regular
  | short regular => exact iff_of_true rfl regular
  | long regular => exact iff_of_true rfl regular

/-! ## Packing -/

/-- What becomes of a finite number when it is packed and read back. -/
theorem unpack_pack_finite (s : Sign) (h : 0 < m) (e : Int) :
    (Float.Model.pack (.finite s m e h)).unpack =
      if 971 < e then .infinity s
      else if m.log2 = 52 then ofFields s (BitVec.ofNat 11 (e + 1075).toNat) (BitVec.ofNat 52 m)
      else ofFields s 0#11 (BitVec.ofNat 52 m) := by
  show UnpackedFloat.unpack Format.binary64
    (UnpackedFloat.pack Format.binary64 (.finite s m e h)) = _
  have biased : (e + Format.binary64.exponentBias + (52 : Nat)).toNat = (e + 1075).toNat := by
    show (e + 1023 + 52).toNat = _
    omega
  have large : 2 ^ 11 ≤ (e + 1075).toNat + 1 ↔ 971 < e := by omega
  have long : m.log2 + 1 = Format.binary64.mantissaBits ↔ m.log2 = 52 := by
    show m.log2 + 1 = 53 ↔ _
    omega
  unfold UnpackedFloat.pack
  simp only [biased, large, long]
  split
  · exact unpack_packComponents s (-1#11) 0
  split
  · exact unpack_packComponents ..
  · exact unpack_packComponents ..

/-- A number is finite as long as its exponent is in range. -/
theorem isFinite_pack_finite {h : 0 < m} :
    (Float.Model.pack (.finite s m e h)).unpack.isFinite = true ↔ e ≤ 971 := by
  rw [unpack_pack_finite]
  split
  · rename_i large
    exact iff_of_false Bool.false_ne_true (by omega)
  · rename_i small
    refine iff_of_true ?_ (by omega)
    split
    · exact isFinite_ofFields.mpr (exponent_ne_special (by omega))
    · exact isFinite_ofFields.mpr (by decide)

/-- Packed, zero is finite. -/
theorem isFinite_pack_zero : (Float.Model.pack (.zero s)).unpack.isFinite = true := by
  cases s <;> rfl

/-! ## Canonical form -/

/-- A significand and an exponent as floating-point numbers have them: of 53 places, or of fewer
where the exponent is as low as can be. -/
structure Canonical (m : Nat) (e : Int) : Prop where
  positive : 0 < m
  short : m < 2 ^ 53
  low : -1074 ≤ e
  normal : 2 ^ 52 ≤ m ∨ e = -1074

/-- A canonical significand has all its bits if it is not below the 52nd power of two. -/
theorem Canonical.log2_eq_iff (canonical : Canonical m e) : m.log2 = 52 ↔ 2 ^ 52 ≤ m := by
  rw [Nat.log2_eq_iff (Nat.ne_of_gt canonical.positive)]
  exact and_iff_left canonical.short

/-- A number in canonical form is read back as it was packed. -/
theorem unpack_pack (canonical : Canonical m e) (range : e ≤ 971) :
    (Float.Model.pack (.finite s m e canonical.positive)).unpack =
      .finite s m e canonical.positive := by
  have low := canonical.low
  have short := canonical.short
  rw [unpack_pack_finite, if_neg (by omega)]
  by_cases long : 2 ^ 52 ≤ m
  · have biased : (BitVec.ofNat 11 (e + 1075).toNat).toNat = (e + 1075).toNat := by
      rw [BitVec.toNat_ofNat]
      exact Nat.mod_eq_of_lt (by omega)
    have mantissa : (BitVec.ofNat 52 m).toNat = m - 2 ^ 52 := by
      rw [BitVec.toNat_ofNat]
      omega
    have regular : BitVec.ofNat 11 (e + 1075).toNat ≠ 0#11 := by
      intro same
      have values := congrArg BitVec.toNat same
      rw [biased] at values
      change _ = 0 at values
      omega
    rw [if_pos (canonical.log2_eq_iff.mpr long), ofFields, if_neg (exponent_ne_special (by omega)),
      if_neg regular]
    congr 1
    · rw [mantissa]
      omega
    · rw [biased]
      omega
  · have least : e = -1074 := canonical.normal.resolve_left long
    have mantissa : (BitVec.ofNat 52 m).toNat = m := by
      rw [BitVec.toNat_ofNat]
      omega
    have some : BitVec.ofNat 52 m ≠ 0#52 := by
      intro same
      have values := congrArg BitVec.toNat same
      rw [mantissa] at values
      exact Nat.ne_of_gt canonical.positive values
    rw [if_neg (mt canonical.log2_eq_iff.mp long), ofFields, if_neg (by decide), if_pos rfl,
      dif_neg some]
    congr 1
    exact least.symm

/-- A number that is given by its fields is canonical and in range. -/
theorem canonical_of_ofFields {exponent : BitVec 11} {mantissa : BitVec 52} {h : 0 < m}
    (fields : ofFields s' exponent mantissa = .finite s m e h) : Canonical m e ∧ e ≤ 971 := by
  have short := mantissa.isLt
  have bound := exponent.isLt
  have stands := standsFor_ofFields s' exponent mantissa
  rw [fields] at stands
  cases stands with
  | short => exact ⟨⟨h, by omega, by omega, .inr rfl⟩, by omega⟩
  | long regular filled =>
    have below : exponent.toNat ≠ 2047 := fun all => regular (BitVec.eq_of_toNat_eq all)
    have above : exponent.toNat ≠ 0 := fun none => filled (BitVec.eq_of_toNat_eq none)
    exact ⟨⟨h, by omega, by omega, .inl (by omega)⟩, by omega⟩

/-- What is unpacked is in canonical form and in range. -/
theorem canonical_of_unpack {x : Float.Model} {h : 0 < m} (unpacked : x.unpack = .finite s m e h) :
    Canonical m e ∧ e ≤ 971 :=
  canonical_of_ofFields ((unpack_eq x.toBits.toBitVec).symm.trans unpacked)

end PageScript.Binary
