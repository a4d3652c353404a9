import Mathlib.Data.List.TakeWhile
import PageScript.Proofs.Text.Decoding
import PageScript.Text.Blank
import PageScript.Text.Lowercase
import PageScript.Text.WordChar

/-!
# Word characters

What the tables of characters say of one another: every word character stays one in lower case
(`isWordChar_of_mem_lowercaseChar`), and none is a blank, a control character or a separator of
paths (`plain_of_isWordChar`). The tables are compared range by range, so that no character is
looked at alone.

**What it does not establish.** That the tables are those of Unicode: they are taken as they stand.
-/

namespace PageScript.Text

/-! ## Tables -/

/-- A table covers a code that is in one of its ranges. -/
theorem covers_iff {table : List (Nat × Nat)} {code : Nat} :
    covers table code = true ↔ ∃ range ∈ table, range.1 ≤ code ∧ code ≤ range.2 := by
  simp only [covers, List.any_eq_true, Bool.and_eq_true, decide_eq_true_eq]

/-- Whether all codes from the first to the last lie in one range of a table. -/
def spans (table : List (Nat × Nat)) (first last : Nat) : Bool :=
  table.any fun range => range.1.ble first && last.ble range.2

/-- Whether no range of a table meets one of another. -/
def apart (table other : List (Nat × Nat)) : Bool :=
  table.all fun a => other.all fun b => a.2.blt b.1 || b.2.blt a.1

/-- A table that spans a range covers every code in it. -/
theorem covers_of_spans {table : List (Nat × Nat)} {first last code : Nat}
    (spanned : spans table first last = true) (low : first ≤ code) (high : code ≤ last) :
    covers table code = true := by
  simp only [spans, List.any_eq_true, Bool.and_eq_true, Nat.ble_eq] at spanned
  obtain ⟨range, mem, below, above⟩ := spanned
  exact covers_iff.mpr ⟨range, mem, below.trans low, high.trans above⟩

/-- Two tables that are apart have no code in common. -/
theorem covers_eq_false_of_apart {table other : List (Nat × Nat)} {code : Nat}
    (separate : apart table other = true) (covered : covers other code = true) :
    covers table code = false := by
  simp only [apart, List.all_eq_true, Bool.or_eq_true, Nat.blt_eq] at separate
  obtain ⟨b, memB, lowB, highB⟩ := covers_iff.mp covered
  refine Bool.eq_false_iff.mpr fun both => ?_
  obtain ⟨a, memA, lowA, highA⟩ := covers_iff.mp both
  have := separate a memA b memB
  omega

/-! ## Word characters -/

/-- Ranges that hold all characters that are not plain. -/
def strangeRanges : List (Nat × Nat) :=
  [(0, 0x2F), (0x5C, 0x5C), (0x7F, 0xA0), (0x1680, 0x1680), (0x2000, 0x200A), (0x2028, 0x202F),
   (0x205F, 0x205F), (0x3000, 0x3000)]

/-- Word characters that stand for other characters: the underscore for unsafe ones, and what the
capital I with a dot and the capital sigma become. -/
def substitutes : List Nat :=
  [0x5F, 0x69, 0x307, 0x3C2, 0x3C3]

/-- No range of word characters meets the surrogates or goes beyond the last character, and none
meets the strange ranges. All capitals lie above the hyphen and the point, and the images of each
run of capitals lie in one range of word characters, where the substitutes lie as well. -/
theorem tables_compared :
    (wordRanges.all fun (first, last) =>
      last.blt 0xD800 || (Nat.blt 0xDFFF first && last.blt 0x110000)) = true ∧
    apart wordRanges strangeRanges = true ∧
    (capitalRuns.all fun (first, last, _, image) =>
      Nat.ble 0x41 first && spans wordRanges image (image + (last - first))) = true ∧
    substitutes.all (covers wordRanges) = true := by
  decide +kernel

/-- The codes in the ranges of words are those of characters. -/
theorem isValidChar_of_covers {code : Nat} (covered : covers wordRanges code = true) :
    code.isValidChar := by
  obtain ⟨range, mem, low, high⟩ := covers_iff.mp covered
  have bounds := List.all_eq_true.mp tables_compared.1 range mem
  simp only [Bool.or_eq_true, Bool.and_eq_true, Nat.blt_eq] at bounds
  simp only [Nat.isValidChar]
  omega

/-- The character of a code in the ranges of words is a word character. -/
theorem isWordChar_ofNat {code : Nat} (covered : covers wordRanges code = true) :
    isWordChar (Char.ofNat code) = true := by
  rwa [isWordChar, toNat_ofNat_char (isValidChar_of_covers covered)]

/-- The substitute of a capital is a word character. -/
theorem isWordChar_of_substitute {code : Nat} (mem : code ∈ substitutes) :
    isWordChar (Char.ofNat code) = true :=
  isWordChar_ofNat (List.all_eq_true.mp tables_compared.2.2.2 code mem)

/-- A code in a strange range is no word character. -/
theorem isWordChar_of_strange {c : Char} (strange : covers strangeRanges c.toNat = true) :
    isWordChar c = false :=
  covers_eq_false_of_apart tables_compared.2.1 strange

/-- Whether a character is a control character in the sense of Unicode. -/
def isControl (c : Char) : Bool :=
  c.toNat < 0x20 || (0x7F ≤ c.toNat && c.toNat ≤ 0x9F)

/-- Whether a character separates the names of a path, on some system. -/
def isSeparator (c : Char) : Bool :=
  c == '/' || c == '\\'

/-- A character is no separator of paths, no blank and no control character. -/
structure Plain (c : Char) : Prop where
  separator : isSeparator c = false
  blank : isBlank c = false
  control : isControl c = false

/-- A character is plain unless it is a separator, a blank or a control character. -/
theorem plain_iff {c : Char} :
    Plain c ↔ ¬ (isSeparator c = true ∨ isBlank c = true ∨ isControl c = true) := by
  simp only [not_or, Bool.not_eq_true]
  exact ⟨fun h => ⟨h.separator, h.blank, h.control⟩, fun h => ⟨h.1, h.2.1, h.2.2⟩⟩

instance (c : Char) : Decidable (Plain c) :=
  decidable_of_iff _ plain_iff.symm

/-- Separators, blanks and control characters are in the strange ranges. -/
theorem covers_strangeRanges {c : Char}
    (strange : isSeparator c = true ∨ isBlank c = true ∨ isControl c = true) :
    covers strangeRanges c.toNat = true := by
  have codes : isSeparator c = true → c.toNat = 0x2F ∨ c.toNat = 0x5C := by
    simp only [isSeparator, Bool.or_eq_true, beq_iff_eq]
    rintro (rfl | rfl)
    · exact .inl rfl
    · exact .inr rfl
  replace strange := strange.imp_left codes
  simp only [isBlank, isControl, Bool.or_eq_true, Bool.and_eq_true, beq_iff_eq,
    decide_eq_true_eq] at strange
  simp only [strangeRanges, covers, List.any_cons, List.any_nil, Bool.or_false, Bool.or_eq_true,
    Bool.and_eq_true, decide_eq_true_eq]
  omega

/-- A word character is plain. -/
theorem plain_of_isWordChar {c : Char} (word : isWordChar c = true) : Plain c := by
  refine plain_iff.mpr fun strange => ?_
  have other := isWordChar_of_strange (covers_strangeRanges strange)
  exact absurd word (Bool.eq_false_iff.mp other)

/-! ## Lower case -/

/-- A run of capitals begins at `A` or later, and its lower-case letters are word characters. -/
theorem fits_of_mem_capitalRuns {first last distance image : Nat}
    (mem : (first, last, distance, image) ∈ capitalRuns) :
    0x41 ≤ first ∧ spans wordRanges image (image + (last - first)) = true := by
  have fits := List.all_eq_true.mp tables_compared.2.2.1 _ mem
  simpa only [Bool.and_eq_true, Nat.ble_eq] using fits

/-- Below the letters no character has another in lower case. -/
theorem lowercaseChar_of_low {c : Char} (low : c.toNat < 0x41) : lowercaseChar c = [c] := by
  unfold lowercaseChar
  split
  · omega
  split
  · rename_i first last _ image found
    have hit := List.find?_some found
    simp only [Bool.and_eq_true, decide_eq_true_eq] at hit
    have := (fits_of_mem_capitalRuns (List.mem_of_find?_eq_some found)).1
    omega
  · rfl

/-- In lower case a character stays as it is or becomes word characters. -/
theorem mem_lowercaseChar {c d : Char} (mem : d ∈ lowercaseChar c) :
    isWordChar d = true ∨ d = c := by
  unfold lowercaseChar at mem
  split at mem
  · obtain rfl | rfl : d = 'i' ∨ d = Char.ofNat 0x307 := by simpa using mem
    · exact .inl (isWordChar_of_substitute (show 0x69 ∈ substitutes by decide))
    · exact .inl (isWordChar_of_substitute (show 0x307 ∈ substitutes by decide))
  split at mem
  · rename_i first last _ image found
    have hit := List.find?_some found
    simp only [Bool.and_eq_true, decide_eq_true_eq] at hit
    have spanned := (fits_of_mem_capitalRuns (List.mem_of_find?_eq_some found)).2
    rw [List.mem_singleton.mp mem]
    exact .inl (isWordChar_ofNat (covers_of_spans spanned (by omega) (by omega)))
  · exact .inr (List.mem_singleton.mp mem)

/-- Every character has something for it in lower case. -/
theorem lowercaseChar_ne_nil (c : Char) : lowercaseChar c ≠ [] := by
  unfold lowercaseChar
  split
  · exact List.cons_ne_nil _ _
  split
  · exact List.cons_ne_nil _ _
  · exact List.cons_ne_nil _ _

/-- A word character stays one in lower case. -/
theorem isWordChar_of_mem_lowercaseChar {c d : Char} (word : isWordChar c = true)
    (mem : d ∈ lowercaseChar c) : isWordChar d = true := by
  rcases mem_lowercaseChar mem with becomes | rfl
  · exact becomes
  · exact word

/-- What holds of every character of a text, and is kept by each in lower case, holds of the whole
text in lower case. -/
theorem forall_mem_lowercaseAfter {p : Char → Prop}
    (keeps : ∀ c, p c → ∀ d ∈ lowercaseChar c, p d)
    (sigma : ∀ code ∈ [0x3C2, 0x3C3], p (Char.ofNat code)) {s : List Char} (all : ∀ c ∈ s, p c)
    (before : List Char) : ∀ d ∈ lowercaseAfter before s, p d := by
  induction s generalizing before with
  | nil => exact fun d mem => nomatch mem
  | cons c rest ih =>
    intro d mem
    rcases List.mem_append.mp mem with here | later
    · split at here
      · rw [List.mem_singleton.mp here]
        split
        · exact sigma _ (by decide)
        · exact sigma _ (by decide)
      · exact keeps c (all c List.mem_cons_self) d here
    · exact ih (fun e inRest => all e (List.mem_cons_of_mem c inRest)) (c :: before) d later

end PageScript.Text
