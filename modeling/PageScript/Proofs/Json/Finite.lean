import PageScript.Proofs.Binary.Decimals
import PageScript.Proofs.Json.Readable

/-!
# Numbers of documents are finite

A number that is too great is refused when a document is read, and one that is too small becomes
zero, so every number of a document that was read is finite (`finite_of_parse`). A number that has
no fraction and is not zero stays so (`above_of_scale?`).

**What it does not establish.** Nothing is said of how close the float that is read is to the
decimal that was written.
-/

namespace PageScript

open Binary

/-- The number is no infinity, and it is a number. -/
def JsonNumber.IsFinite (n : JsonNumber) : Prop :=
  n.toFloat.isFinite = true

/-- A whole number becomes a finite float. -/
theorem WholeNumber.isFinite_toFloat (n : WholeNumber) : n.toFloat.isFinite = true := by
  have magnitude : n.val.natAbs.toUInt64.toFloat.isFinite = true :=
    (atMost_ofUInt64 _).1.isFinite
  unfold toFloat
  dsimp only
  split
  · rw [isFinite_neg]
    exact magnitude
  · exact magnitude

namespace Json

variable {x : Float} {n : JsonNumber} {significand : Nat} {power : Int} {negative : Bool}
  {s r : List Text.Symbol}

/-! ## Scaling -/

/-- The last power of ten in range. -/
theorem unpack_tenTo_last :
    ∃ m e h, (tenTo 308).toModel.unpack = .finite .positive m e h ∧ 1 ≤ e := by
  obtain ⟨m, e, h, unpacked, -, low, -⟩ := unpack_powerOfTen (n := 308) (by decide) (by decide)
  have bits : 53 ≤ (10 ^ 308).log2 := (Nat.le_log2 (by decide +kernel)).mpr (by decide +kernel)
  exact ⟨m, e, h, unpacked, by omega⟩

/-- Dividing by a number above zero, as far as its last place tells. -/
theorem atMost_div {high high' : Int} {y : Float} {m : Nat} {e : Int} {h : 0 < m}
    (bound : AtMost high x.toModel.unpack) (unpacked : y.toModel.unpack = .finite .positive m e h)
    (less : high - e < high') (low : -1074 < high') (range : high' ≤ 971) :
    AtMost high' (x / y).toModel.unpack := by
  have quotient : (x / y).toModel = Float.Model.pack
      (Float.Model.UnpackedFloat.div Float.Model.Format.binary64 x.toModel.unpack
        y.toModel.unpack) := rfl
  rw [quotient, unpacked]
  exact (bound.div less low).unpack_pack (by omega) range

/-- Dividing by tens keeps a bounded number finite. -/
theorem isFinite_divideByTens (bound : AtMost 12 x.toModel.unpack) (places : Nat) :
    (divideByTens x places).isFinite = true := by
  fun_induction divideByTens x places with
  | case1 x places few =>
    obtain ⟨m, e, h, unpacked, -, low, -⟩ := (long_powerOfTen few).exists_eq
    exact (atMost_div bound unpacked (by omega : 12 - e < 65) (by decide) (by decide)).isFinite
  | case2 x places many zero => exact bound.isFinite
  | case3 x places many some ih =>
    obtain ⟨m, e, h, unpacked, low⟩ := unpack_tenTo_last
    exact ih (atMost_div bound unpacked (by omega) (by decide) (by decide))

/-- The powers of ten up to the last one in range are finite. -/
theorem isFinite_tenTo {n : Nat} (range : n ≤ 308) : (tenTo n).isFinite = true := by
  obtain ⟨m, e, h, unpacked, -⟩ := (long_powerOfTen range).exists_eq
  show (tenTo n).toModel.unpack.isFinite = true
  rw [tenTo, unpacked]
  rfl

/-- A significand that can be scaled becomes a finite float. -/
theorem isFinite_of_scale? (scaled : scale? significand power = some x) : x.isFinite = true := by
  have whole := (atMost_ofUInt64 significand.toUInt64).1
  unfold scale? at scaled
  dsimp only at scaled
  split at scaled
  · cases scaled
    exact isFinite_divideByTens whole _
  split at scaled
  · split at scaled
    · cases scaled
    · rename_i some
      cases scaled
      exact isFinite_mul whole.isFinite (isFinite_tenTo (by omega)) (Bool.eq_false_iff.mpr some)
  split at scaled
  · cases scaled
    exact whole.isFinite
  · cases scaled

/-- A number that is not zero and has no fraction stays above zero. -/
theorem above_of_scale? (some_ : significand.toUInt64 ≠ 0) (whole : 0 ≤ power)
    (scaled : scale? significand power = some x) : Above x.toModel.unpack := by
  obtain ⟨m, e, canonical, long, low, -, unpacked⟩ := unpack_ofUInt64 some_
  unfold scale? at scaled
  dsimp only at scaled
  rw [if_neg (by omega)] at scaled
  split at scaled
  · rename_i range
    split at scaled
    · cases scaled
    · cases scaled
      obtain ⟨m', e', h', unpacked', -, low', -⟩ :=
        (long_powerOfTen (n := power.natAbs) (by omega)).exists_eq
      have product : (significand.toUInt64.toFloat * tenTo power.natAbs).toModel =
          Float.Model.pack (Float.Model.UnpackedFloat.mul Float.Model.Format.binary64
            significand.toUInt64.toFloat.toModel.unpack (tenTo power.natAbs).toModel.unpack) := rfl
      rw [product, unpacked, tenTo, unpacked']
      exact above_mul long (by omega)
  split at scaled
  · cases scaled
    rw [unpacked]
    trivial
  · cases scaled

/-! ## Reading -/

/-- A number that is put together from its digits is finite. -/
theorem isFinite_of_floatOfParts (read : floatOfParts negative significand power s = .ok (n, r)) :
    n.IsFinite := by
  unfold floatOfParts refuse at read
  split at read
  · rename_i x scaled
    cases read
    have finite := isFinite_of_scale? scaled
    show (if negative then -x else x).isFinite = true
    split
    · rwa [isFinite_neg]
    · exact finite
  · cases read

/-- A number with the digits of an exponent is finite. -/
theorem isFinite_of_exponentDigits {down : Bool}
    (read : exponentDigits negative significand power down s = .ok (n, r)) : n.IsFinite := by
  simp only [exponentDigits, refuse, refuseNext] at read
  split at read
  · cases read
  split at read
  · cases read
  split at read
  · exact isFinite_of_floatOfParts read
  split at read
  · cases read
  · cases read
    cases negative with
    | true => exact (by decide +kernel : (-0.0 : Float).isFinite = true)
    | false => exact (by decide +kernel : (0.0 : Float).isFinite = true)

/-- A number with an exponent is finite. -/
theorem isFinite_of_exponent (read : exponent negative significand power s = .ok (n, r)) :
    n.IsFinite := by
  unfold exponent refuse at read
  split at read
  · cases read
  split at read
  · exact isFinite_of_exponentDigits read
  split at read
  · exact isFinite_of_exponentDigits read
  · exact isFinite_of_exponentDigits read

/-- A number is finite, whether it has an exponent or not. -/
theorem isFinite_of_exponentIfAny
    (read : exponentIfAny negative significand power s = .ok (n, r)) : n.IsFinite := by
  unfold exponentIfAny at read
  split at read
  · exact isFinite_of_floatOfParts read
  split at read
  · exact isFinite_of_exponent read
  · exact isFinite_of_floatOfParts read

/-- A number with a fraction is finite. -/
theorem isFinite_of_fraction (read : fraction negative significand power s = .ok (n, r)) :
    n.IsFinite := by
  unfold fraction refuse refuseNext at read
  dsimp only at read
  split at read
  · split at read <;> cases read
  · exact isFinite_of_exponentIfAny read

/-- A number without fraction and exponent is finite. -/
theorem isFinite_wholeOf (negative : Bool) (significand : Nat) :
    (wholeOf negative significand).IsFinite := by
  have magnitude : significand.toUInt64.toFloat.isFinite = true := (atMost_ofUInt64 _).1.isFinite
  unfold wholeOf
  split
  · show (-significand.toUInt64.toFloat).isFinite = true
    rwa [isFinite_neg]
  split
  · exact WholeNumber.isFinite_toFloat _
  · exact magnitude

/-- Every number that is read is finite. -/
theorem isFinite_of_readNumber (read : readNumber negative s = .ok (n, r)) : n.IsFinite := by
  unfold readNumber refuse refuseNext at read
  dsimp only at read
  split at read
  · split at read <;> cases read
  split at read
  · cases read
  split at read
  · exact isFinite_of_fraction read
  split at read
  · cases read
    exact isFinite_wholeOf _ _
  · exact isFinite_of_exponentIfAny read

/-- All numbers in a value are finite. -/
inductive Finite : Json → Prop where
  | null : Finite .null
  | bool (b : Bool) : Finite (.bool b)
  | number {n : JsonNumber} (finite : n.IsFinite) : Finite (.number n)
  | string (s : String) : Finite (.string s)
  | array {items : List Json} (each : ∀ v ∈ items, Finite v) : Finite (.array items)
  | object {fields : List (String × Json)} (each : ∀ f ∈ fields, Finite f.2) :
      Finite (.object fields)

/-- A field that is found among finite values is finite. -/
theorem Finite.lookup? {fields : List (String × Json)} (each : ∀ f ∈ fields, Finite f.2)
    {name : String} {v : Json} (found : Json.lookup? name fields = some v) : v.Finite :=
  each _ (mem_of_lookup? found)

/-- A field of a finite value is finite. -/
theorem Finite.field? {v w : Json} (finite : v.Finite) {name : String}
    (found : v.field? name = some w) : w.Finite := by
  cases finite with
  | object each => exact Finite.lookup? each found
  | _ => cases found

/-- A value that was read has finite numbers, if those in its parts are finite. -/
theorem finite_of_valueWith {list object : List Text.Symbol → Outcome Json} {v : Json}
    (lists : ∀ t, list t = .ok (v, r) → v.Finite)
    (objects : ∀ t, object t = .ok (v, r) → v.Finite)
    (read : valueWith list object s = .ok (v, r)) : v.Finite := by
  unfold valueWith refuse refuseNext at read
  split at read
  · cases read
  · cases read
  · split at read
    · obtain ⟨t, -, rfl⟩ := onValue_eq_ok.mp read
      exact .string _
    split at read
    · exact lists _ read
    split at read
    · exact objects _ read
    split at read
    · obtain ⟨n, given, rfl⟩ := onValue_eq_ok.mp read
      exact .number (isFinite_of_readNumber given)
    split at read
    · obtain ⟨n, given, rfl⟩ := onValue_eq_ok.mp read
      exact .number (isFinite_of_readNumber given)
    split at read
    · exact eq_of_readWord read ▸ .null
    split at read
    · exact eq_of_readWord read ▸ .bool true
    split at read
    · exact eq_of_readWord read ▸ .bool false
    · cases read

/-- Every value that is read is finite. -/
theorem finite_of_readValue {depth : Nat} {v : Json} (given : (readValue depth).Gives v) :
    v.Finite := by
  induction depth generalizing v with
  | zero =>
    obtain ⟨s, r, read⟩ := given
    change valueWith (refuse .tooDeep) (refuse .tooDeep) s = .ok (v, r) at read
    exact finite_of_valueWith (fun t deep => by cases deep) (fun t deep => by cases deep) read
  | succ depth ih =>
    obtain ⟨s, r, read⟩ := given
    refine finite_of_valueWith (fun t list => ?_) (fun t object => ?_) read
    · obtain ⟨items, rfl, each⟩ := exists_of_readList list
      exact .array fun w mem => ih (each w mem)
    · obtain ⟨fields, rfl, each⟩ := exists_of_readObject object
      exact .object fun f mem => ih (each f (mem_of_mem_sortFields mem))

/-- All numbers of a document that was read are finite. -/
theorem finite_of_parse {text : String} {v : Json} (read : parse text = .ok v) : v.Finite := by
  obtain ⟨r, first⟩ := exists_of_parseSymbols read
  exact finite_of_readValue ⟨_, r, first⟩

end Json

end PageScript
