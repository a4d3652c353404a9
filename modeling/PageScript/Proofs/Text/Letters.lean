import Mathlib.Data.String.Basic
import PageScript.Text.Search

/-!
# Letters of either case

A text that agrees with a word up to the case of letters is as long and begins with a letter if the
word does. A text in lower case stays as it is when it is put in lower case.

**What it does not establish.** Only the letters of ASCII have a case here, as in the keywords and
header names that are compared.
-/

namespace PageScript.Text

/-- A character in lower case stays as it is. -/
theorem toLower_toLower_char (c : Char) : c.toLower.toLower = c.toLower := by
  unfold Char.toLower
  grind

/-- A text is put in lower case character by character. -/
theorem toLower_eq_ofList (s : String) : s.toLower = String.ofList (s.toList.map Char.toLower) := by
  apply String.toList_injective
  show (s.map Char.toLower).toList = _
  rw [String.toList_map, String.toList_ofList]

/-- A text in lower case stays as it is. -/
theorem toLower_toLower (s : String) : s.toLower.toLower = s.toLower := by
  simp only [toLower_eq_ofList, String.toList_ofList, List.map_map]
  refine congrArg String.ofList (List.map_congr_left fun c _ => ?_)
  exact toLower_toLower_char c

/-- Words that agree up to the case of letters are as long as each other. -/
theorem length_of_sameLetters {word keyword : List Char}
    (letters : sameLetters word keyword = true) : word.length = keyword.length := by
  have same := congrArg List.length (eq_of_beq letters)
  rwa [List.length_map, List.length_map] at same

/-- What is a letter in lower case is a letter. -/
theorem isAlpha_of_toLower {c : Char} (letter : c.toLower.isAlpha = true) : c.isAlpha = true := by
  unfold Char.toLower at letter
  split at letter
  · rename_i upper
    have isUpper : c.isUpper = true := decide_eq_true upper
    show (c.isUpper || c.isLower) = true
    rw [isUpper, Bool.true_or]
  · exact letter

/-- No digit is a letter. -/
theorem not_isAlpha_of_isDigit {c : Char} (digit : c.isDigit = true) : c.isAlpha = false := by
  unfold Char.isDigit at digit
  unfold Char.isAlpha Char.isUpper Char.isLower
  grind

/-- A text begins with a letter if it begins with a word that does, up to the case of letters. -/
theorem head_isAlpha_of_prefix {first : Char} {word s : List Char}
    (letter : first.toLower.isAlpha = true)
    (begins : (first :: word).map Char.toLower <+: s.map Char.toLower) :
    ∃ c rest, s = c :: rest ∧ c.isAlpha = true := by
  obtain ⟨tail, letters⟩ := begins
  cases s with
  | nil => cases letters
  | cons c rest =>
    have same : first.toLower = c.toLower := (List.cons.inj letters).1
    exact ⟨c, rest, rfl, isAlpha_of_toLower (same ▸ letter)⟩

theorem head_isAlpha_of_sameLetters {first : Char} {word s : List Char}
    (letter : first.toLower.isAlpha = true) (letters : sameLetters s (first :: word) = true) :
    ∃ c rest, s = c :: rest ∧ c.isAlpha = true :=
  head_isAlpha_of_prefix letter ⟨[], (List.append_nil _).trans (eq_of_beq letters).symm⟩

end PageScript.Text
