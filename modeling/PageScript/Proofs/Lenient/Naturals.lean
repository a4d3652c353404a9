import Mathlib.Data.List.TakeWhile
import PageScript.Lenient
import PageScript.Proofs.Binary.Decimals
import PageScript.Proofs.Json.Finite
import PageScript.Proofs.Json.Scalars
import PageScript.Proofs.Text.Numerals

/-!
# Natural numbers in any spelling

A text is read as the number that its leading digits denote, if there are any and the number fits 64
bits (`naturalOfText?_eq_some_iff`). So a number may be replaced by its notation, with blanks around
it, zeros before it and anything but a digit after it (`naturalOfText?_of_spells`). No negative
number is read, however long its notation is (`natural?_of_parse`).

**What it does not establish.** What a number with a fraction is cut to: only whole numbers and
texts are considered.
-/

namespace PageScript.Lenient

open Text

variable {digits rest s : List Char} {n : Nat}

/-! ## Leading digits -/

/-- Digits are those at the start of a text, blanks around it apart: there are some, and no more of
them follow. -/
structure Leads (digits s : List Char) : Prop where
  filled : digits ≠ []
  all : ∀ c ∈ digits, c.isDigit = true
  first : ∃ before rest after, s = before ++ (digits ++ rest) ++ after ∧
    Blanks before ∧ Blanks after ∧ Bare (digits ++ rest) ∧ ∀ c ∈ rest.head?, c.isDigit = false

/-- What leads a text are the digits at the start of the trimmed text. -/
theorem leads_iff : Leads digits s ↔ digits ≠ [] ∧ (trim s).takeWhile Char.isDigit = digits := by
  constructor
  · rintro ⟨filled, all, before, rest, after, rfl, blanks, blanks', bare, ends⟩
    rw [trim_append_right blanks', trim_append_left blanks, trim_of_bare bare]
    exact ⟨filled, takeWhile_isDigit all ends⟩
  · rintro ⟨filled, rfl⟩
    obtain ⟨before, after, parts, blanks, blanks'⟩ := exists_trim s
    have whole : (trim s).takeWhile Char.isDigit ++ (trim s).dropWhile Char.isDigit = trim s :=
      List.takeWhile_append_dropWhile
    refine ⟨filled, fun c mem => List.mem_takeWhile_imp mem, before,
      (trim s).dropWhile Char.isDigit, after, ?_, blanks, blanks', ?_, fun c mem => ?_⟩
    · rw [whole, ← parts]
    · rw [whole]
      exact bare_trim s
    · have stops := List.head?_dropWhile_not Char.isDigit (trim s)
      rw [Option.mem_def.mp mem] at stops
      simpa using stops

/-- A text is read as the number that its leading digits denote. -/
theorem naturalOfText?_eq_some_iff {s : String} :
    naturalOfText? s = some n ↔
      ∃ digits, Leads digits s.toList ∧ decimalValue digits = n ∧ n < 0x10000000000000000 := by
  unfold naturalOfText?
  simp only [leads_iff]
  generalize (trim s.toList).takeWhile Char.isDigit = digits
  constructor
  · intro read
    split at read
    · cases read
    · rename_i usable
      simp only [Bool.or_eq_true, List.isEmpty_iff, decide_eq_true_eq, not_or] at usable
      cases read
      exact ⟨digits, ⟨usable.1, rfl⟩, rfl, by omega⟩
  · rintro ⟨_, ⟨filled, rfl⟩, rfl, fits⟩
    rw [if_neg]
    simp only [Bool.or_eq_true, List.isEmpty_iff, decide_eq_true_eq, not_or]
    exact ⟨filled, by omega⟩

/-! ## Spellings -/

/-- The notation of a number with blanks around it, zeros before it, and after it anything that does
not begin with a digit. -/
def Spells (n : Nat) (s : List Char) : Prop :=
  ∃ before zeros suffix after,
    s = before ++ (List.replicate zeros '0' ++ decimal n ++ suffix) ++ after ∧
      Blanks before ∧ Blanks after ∧ ∀ c ∈ suffix.head?, c.isDigit = false

theorem isDigit_of_isBlank {c : Char} (blank : isBlank c = true) : c.isDigit = false := by
  by_contra digit
  cases blank.symm.trans (isBlank_of_isDigit (Bool.not_eq_false _ ▸ digit))

/-- Blanks after a text add no digit to those at its start. -/
theorem takeWhile_append_blanks {after : List Char} (blanks : Blanks after) (s : List Char) :
    (s ++ after).takeWhile Char.isDigit = s.takeWhile Char.isDigit := by
  have none : after.takeWhile Char.isDigit = [] := by
    cases after with
    | nil => rfl
    | cons c after =>
      have stop := isDigit_of_isBlank (blanks c List.mem_cons_self)
      exact List.takeWhile_cons_of_neg (Bool.eq_false_iff.mp stop)
  rw [List.takeWhile_append, none, List.append_nil]
  split
  · rename_i all
    exact (List.takeWhile_prefix _).eq_of_length all |>.symm
  · rfl

/-- Trimming takes no digit away from those at the start of a text. -/
theorem takeWhile_trim (filled : digits ≠ []) (all : ∀ c ∈ digits, c.isDigit = true)
    (ends : ∀ c ∈ rest.head?, c.isDigit = false) :
    (trim (digits ++ rest)).takeWhile Char.isDigit = digits := by
  obtain ⟨before, after, parts, blanks, blanks'⟩ := exists_trim (digits ++ rest)
  obtain ⟨d, more, rfl⟩ := List.exists_cons_of_ne_nil filled
  have none : before = [] := by
    cases before with
    | nil => rfl
    | cons c before =>
      obtain rfl : d = c := (List.cons.inj parts).1
      have blank := blanks d List.mem_cons_self
      cases blank.symm.trans (isBlank_of_isDigit (all d List.mem_cons_self))
  subst none
  have first := takeWhile_isDigit all ends
  rwa [parts, List.nil_append, takeWhile_append_blanks blanks'] at first

/-- Every spelling of a number is read as the number. -/
theorem naturalOfText?_of_spells (spells : Spells n s) (fits : n < 0x10000000000000000) :
    naturalOfText? (String.ofList s) = some n := by
  obtain ⟨before, zeros, suffix, after, rfl, blanks, blanks', ends⟩ := spells
  have all : ∀ c ∈ List.replicate zeros '0' ++ decimal n, c.isDigit = true := by
    refine List.forall_mem_append.mpr ⟨fun c mem => ?_, decimal_isDigit n⟩
    rw [List.eq_of_mem_replicate mem]
    rfl
  have filled : List.replicate zeros '0' ++ decimal n ≠ [] :=
    List.append_ne_nil_of_right_ne_nil _ (decimal_ne_nil n)
  refine naturalOfText?_eq_some_iff.mpr
    ⟨_, leads_iff.mpr ⟨filled, ?_⟩, decimalValue_zeros_append zeros n, fits⟩
  rw [String.toList_ofList, trim_append_right blanks', trim_append_left blanks]
  exact takeWhile_trim filled all ends

/-! ## Negative numbers -/

theorem significandOf_bounds (digits : List Char) {start : Nat}
    (fits : start < 0x10000000000000000) :
    start ≤ (Json.significandOf start digits).1 ∧
      (Json.significandOf start digits).1 < 0x10000000000000000 := by
  induction digits generalizing start with
  | nil => exact ⟨Nat.le_refl start, fits⟩
  | cons c rest ih =>
    unfold Json.significandOf
    dsimp only
    split
    · rename_i next
      exact ⟨Nat.le_trans (by omega) (ih next).1, (ih next).2⟩
    · exact ⟨Nat.le_refl start, fits⟩

theorem digitValue_bounds {c : Char} (digit : c.isDigit = true) (notZero : c ≠ '0') :
    0 < digitValue c ∧ digitValue c ≤ 9 := by
  have code : c.toNat ≠ 48 := fun same => notZero (Char.toNat_inj.mp same)
  have range : c.isDigit = (decide (48 ≤ c.toNat) && decide (c.toNat ≤ 57)) := rfl
  simp only [range, Bool.and_eq_true, decide_eq_true_eq] at digit
  unfold digitValue
  omega

/-- The significand of a positive number is positive, though digits may be left over. -/
theorem significandOf_pos (positive : 0 < n) :
    0 < (Json.significandOf 0 (decimal n)).1 ∧
      (Json.significandOf 0 (decimal n)).1 < 0x10000000000000000 := by
  refine ⟨?_, (significandOf_bounds _ (by decide)).2⟩
  cases digits : decimal n with
  | nil => exact absurd digits (decimal_ne_nil n)
  | cons c rest =>
    have digit : c.isDigit = true := decimal_isDigit n c (by rw [digits]; exact List.mem_cons_self)
    have notZero : c ≠ '0' := by
      rintro rfl
      exact head_decimal positive (by rw [digits]; rfl)
    obtain ⟨low, high⟩ := digitValue_bounds digit notZero
    rw [Json.significandOf, Nat.mul_zero, Nat.zero_add, if_pos (by omega)]
    exact Nat.lt_of_lt_of_le low (significandOf_bounds rest (by omega)).1

theorem toUInt64_ne_zero (positive : 0 < n) (fits : n < 0x10000000000000000) :
    n.toUInt64 ≠ 0 := by
  intro zero
  have value : n.toUInt64.toNat = n := by
    rw [Nat.toUInt64, UInt64.toNat_ofNat']
    exact Nat.mod_eq_of_lt fits
  rw [zero] at value
  exact Nat.ne_of_lt positive value

/-- A number below zero is none that is not negative. -/
theorem natural?_neg {x : Float} (above : Binary.Above x.toModel.unpack) :
    natural? (.number (.float (-x))) = none :=
  if_neg (Binary.not_zero_le_neg above)

theorem natural?_of_negative {w : WholeNumber} (negative : w.val < 0) :
    natural? (.number (.whole w)) = none :=
  if_pos negative

theorem natural?_wholeOf (positive : 0 < n) (fits : n < 0x10000000000000000) :
    natural? (.number (Json.wholeOf true n)) = none := by
  obtain ⟨m, e, canonical, -, -, -, unpacked⟩ :=
    Binary.unpack_ofUInt64 (toUInt64_ne_zero positive fits)
  unfold Json.wholeOf
  split
  · refine natural?_neg ?_
    rw [unpacked]
    trivial
  · rename_i small
    simp only [Bool.true_and, Bool.or_eq_true, beq_iff_eq, decide_eq_true_eq, not_or] at small
    have inRange : WholeNumber.ofInt? (-(n : Int)) = some ⟨-n, by omega, by omega⟩ :=
      dif_pos ⟨by omega, by omega⟩
    rw [if_pos rfl, inRange]
    exact natural?_of_negative (by show -(n : Int) < 0; omega)

/-- The notation of a number after a minus sign is read as no natural number. -/
theorem natural?_of_readNumber {r t : List Symbol} {v : JsonNumber} (positive : 0 < n)
    (stops : Json.Stops r)
    (read : Json.readNumber true ((decimal n).map .char ++ r) = .ok (v, t)) :
    natural? (.number v) = none := by
  obtain ⟨some_, fits⟩ := significandOf_pos positive
  rw [Json.readNumber_digits n true stops] at read
  split at read
  · cases read
    exact natural?_wholeOf some_ fits
  · unfold Json.floatOfParts Json.refuse at read
    split at read
    · rename_i x scaled
      cases read
      exact natural?_neg (Json.above_of_scale? (toUInt64_ne_zero some_ fits)
        (Int.natCast_nonneg _) scaled)
    · cases read

/-- A document that is a negative whole number, however long, is read as no natural number. -/
theorem natural?_of_parse {k : Int} (negative : k < 0) {v : Json}
    (read : Json.parse (String.ofList (signedDecimal k)) = .ok v) : natural? v = none := by
  rw [Json.parse, String.toList_ofList, signedDecimal, if_pos negative] at read
  obtain ⟨r, first⟩ := Json.exists_of_parseSymbols read
  obtain ⟨list, object, valueOf⟩ : ∃ list object,
      (Json.readValue Json.deepest).run = Json.valueWith list object := ⟨_, _, rfl⟩
  rw [valueOf, List.map_cons, Json.valueWith, Json.skipBlank_of_head rfl] at first
  simp only [show ¬ '-' = '"' by decide, show ¬ '-' = '[' by decide, show ¬ '-' = '\x7b' by decide,
    if_false, if_true] at first
  obtain ⟨n, given, rfl⟩ := Json.onValue_eq_ok.mp first
  rw [← List.append_nil ((decimal k.natAbs).map Symbol.char)] at given
  exact natural?_of_readNumber (Int.natAbs_pos.mpr (Int.ne_of_lt negative)) Json.stops_nil given

end PageScript.Lenient
