import Mathlib.Data.List.Basic
import PageScript.Proofs.Text.Trimming
import PageScript.Text.Digits

/-!
# Decimal notation

The digits of a number are digits, at least one of them, and denote the number; the first is a zero
only if the number is.

**What it does not establish.** Digits of other scripts and other bases are not considered.
-/

namespace PageScript.Text

/-- The character of a digit is a digit. -/
theorem digitChar_isDigit {d : Nat} (small : d < 10) : (digitChar d).isDigit = true := by
  revert d
  decide

/-- The character of a digit has the value of the digit. -/
theorem digitValue_digitChar {d : Nat} (small : d < 10) : digitValue (digitChar d) = d := by
  revert d
  decide

/-- No digit is a blank. -/
theorem isBlank_of_isDigit {c : Char} (digit : c.isDigit = true) : isBlank c = false := by
  refine isBlank_of_isAlphanum ?_
  rw [Char.isAlphanum, digit, Bool.or_true]

section

variable {digits rest : List Char}

/-- The digits at the start of a text, and what is not one of them. -/
theorem takeWhile_isDigit (all : ∀ c ∈ digits, c.isDigit = true)
    (ends : ∀ c ∈ rest.head?, c.isDigit = false) :
    (digits ++ rest).takeWhile Char.isDigit = digits := by
  rw [List.takeWhile_append_of_pos all]
  cases rest with
  | nil => exact List.append_nil digits
  | cons c rest =>
    rw [List.takeWhile_cons_of_neg (Bool.eq_false_iff.mp (ends c rfl)), List.append_nil]

/-- Of digits and what follows them, dropping digits leaves what follows. -/
theorem dropWhile_isDigit (all : ∀ c ∈ digits, c.isDigit = true)
    (ends : ∀ c ∈ rest.head?, c.isDigit = false) :
    (digits ++ rest).dropWhile Char.isDigit = rest := by
  rw [List.dropWhile_append_of_pos all]
  cases rest with
  | nil => rfl
  | cons c rest => exact List.dropWhile_cons_of_neg (Bool.eq_false_iff.mp (ends c rfl))

end

/-- Every number has digits. -/
theorem decimal_ne_nil (n : Nat) : decimal n ≠ [] := by
  rw [decimal]
  split <;> simp

/-- The digits of a number are digits. -/
theorem decimal_isDigit (n : Nat) : ∀ c ∈ decimal n, c.isDigit = true := by
  induction n using decimal.induct with
  | case1 n small =>
    rw [decimal, if_pos small]
    exact List.forall_mem_singleton.mpr (digitChar_isDigit small)
  | case2 n large ih =>
    rw [decimal, if_neg large]
    refine List.forall_mem_append.mpr ⟨ih, ?_⟩
    exact List.forall_mem_singleton.mpr (digitChar_isDigit (Nat.mod_lt _ (by decide)))

/-- Zero has one digit. -/
theorem decimal_zero : decimal 0 = ['0'] := by
  rw [decimal, if_pos (by decide)]
  rfl

/-- The notation of a number begins with a zero only if that is all of it. -/
theorem head_decimal {n : Nat} (positive : 0 < n) : (decimal n).head? ≠ some '0' := by
  induction n using decimal.induct with
  | case1 n small =>
    rw [decimal, if_pos small, List.head?_singleton]
    revert n
    decide
  | case2 n large ih =>
    rw [decimal, if_neg large, List.head?_append_of_ne_nil _ (decimal_ne_nil _)]
    exact ih (by omega)

/-- One more digit counts once, and those before it ten times as much. -/
theorem decimalValue_append_digit (digits : List Char) (c : Char) :
    decimalValue (digits ++ [c]) = 10 * decimalValue digits + digitValue c := by
  rw [decimalValue, List.foldl_append]
  rfl

/-- Reading the notation of a number gives the number. -/
theorem decimalValue_decimal (n : Nat) : decimalValue (decimal n) = n := by
  induction n using decimal.induct with
  | case1 n small =>
    rw [decimal, if_pos small]
    show 10 * 0 + digitValue (digitChar n) = n
    rw [digitValue_digitChar small]
    omega
  | case2 n large ih =>
    rw [decimal, if_neg large, decimalValue_append_digit, ih,
      digitValue_digitChar (Nat.mod_lt _ (by decide))]
    omega

/-- The digits of a padded number are digits. -/
theorem paddedDecimal_isDigit (width n : Nat) : ∀ c ∈ paddedDecimal width n, c.isDigit = true := by
  intro c mem
  obtain zeros | digits := List.mem_append.mp mem
  · rw [List.eq_of_mem_replicate zeros]
    decide
  · exact decimal_isDigit n c digits

/-- Zeros on the left do not change the number. -/
theorem decimalValue_zeros_append (count n : Nat) :
    decimalValue (List.replicate count '0' ++ decimal n) = n := by
  have zeros : (List.replicate count '0').foldl (fun n c => 10 * n + digitValue c) 0 = 0 := by
    induction count with
    | zero => rfl
    | succ count ih =>
      rw [List.replicate_succ, List.foldl_cons]
      exact ih
  rw [decimalValue, List.foldl_append, zeros]
  exact decimalValue_decimal n

/-- A padded number is read back from its digits. -/
theorem decimalValue_paddedDecimal (width n : Nat) : decimalValue (paddedDecimal width n) = n :=
  decimalValue_zeros_append _ n

end PageScript.Text
