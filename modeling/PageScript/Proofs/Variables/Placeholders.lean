import Mathlib.Data.List.TakeWhile
import PageScript.Variables

/-!
# The placeholders of a text

Where placeholders overlap, the one that begins first is meant, and the search for the next one goes
on behind it: a percent sign belongs to one placeholder at most. `Scans` says so of a text and the
names of its placeholders, without a reader, and `scans_iff` that the pieces of a text have exactly
these names.

**What it does not establish.** Whether the names are those of variables: that is the matter of
their values.
-/

namespace PageScript.Placeholder

/-- A text begins with a placeholder: a name between percent signs. -/
structure Begins (s name rest : List Char) : Prop where
  text : s = '%' :: (name ++ '%' :: rest)
  filled : name ≠ []
  word : ∀ c ∈ name, Text.isWordChar c = true

/-- No placeholder begins at any place of the text. -/
def NoneIn (s : List Char) : Prop :=
  ∀ u v, u ++ v = s → ∀ name rest, ¬ Begins v name rest

/-- In a text that something follows, no placeholder begins at any place before that. -/
def NoneBefore (before s : List Char) : Prop :=
  ∀ u v, u ++ v = before → v ≠ [] → ∀ name rest, ¬ Begins (v ++ s) name rest

/-- The names of the placeholders of a text: the first that begins, and those of what is behind
it. -/
inductive Scans : List Char → List String → Prop where
  | done {s : List Char} (none : NoneIn s) : Scans s []
  | next {before s name rest : List Char} {others : List String} (clear : NoneBefore before s)
    (begins : Begins s name rest) (later : Scans rest others) :
    Scans (before ++ s) (String.ofList name :: others)

variable {c : Char} {s name rest : List Char}

/-- A percent sign is no word character. -/
theorem percent_not_word : Text.isWordChar '%' = false := by decide +kernel

/-! ## One placeholder -/

/-- A name is read where a placeholder begins. -/
theorem name?_eq_some_iff : name? s = some (name, rest) ↔ Begins ('%' :: s) name rest := by
  constructor
  · intro found
    unfold name? at found
    dsimp only at found
    split at found
    · rename_i after closed
      split at found
      · cases found
      · rename_i some
        cases found
        refine ⟨?_, fun none => some (List.isEmpty_iff.mpr none), ?_⟩
        · rw [← closed, List.takeWhile_append_dropWhile]
        · intro c mem
          exact List.mem_takeWhile_imp mem
    · cases found
  · rintro ⟨text, filled, word⟩
    obtain rfl : s = name ++ '%' :: rest := List.tail_eq_of_cons_eq text
    have within : (name ++ '%' :: rest).takeWhile Text.isWordChar = name := by
      rw [List.takeWhile_append_of_pos word]
      simp [percent_not_word]
    have after : (name ++ '%' :: rest).dropWhile Text.isWordChar = '%' :: rest := by
      rw [List.dropWhile_append_of_pos word]
      simp [percent_not_word]
    unfold name?
    simp [within, after, filled]

theorem Begins.head (begins : Begins (c :: s) name rest) : c = '%' :=
  List.head_eq_of_cons_eq begins.text

/-- A placeholder at the beginning of a text is one piece, and the rest is cut from behind it. -/
theorem pieces_of_begins (begins : Begins s name rest) :
    pieces s = .name name :: pieces rest := by
  obtain ⟨rfl, -, -⟩ := id begins
  have found := name?_eq_some_iff.mpr begins
  rw [pieces]
  simp only [if_true]
  split
  · rename_i other after same
    obtain ⟨rfl, rfl⟩ : name = other ∧ rest = after := by simpa using found.symm.trans same
    rfl
  · rename_i none
    cases none.symm.trans found

/-- A character at which no placeholder begins stands for itself. -/
theorem pieces_cons_of_none (none : ∀ name rest, ¬ Begins (c :: s) name rest) :
    pieces (c :: s) = .literal c :: pieces s := by
  rw [pieces]
  split
  · rename_i percent
    subst percent
    split
    · rename_i name rest found
      exact absurd (name?_eq_some_iff.mp found) (none name rest)
    · rfl
  · rfl

/-- A text with a placeholder at its beginning has its name first, then the names behind it. -/
theorem names_of_begins (begins : Begins s name rest) :
    names s = String.ofList name :: names rest := by
  rw [names, pieces_of_begins begins]
  rfl

/-- A character at which no placeholder begins makes no difference to the names. -/
theorem names_cons_of_none (none : ∀ name rest, ¬ Begins (c :: s) name rest) :
    names (c :: s) = names s := by
  rw [names, pieces_cons_of_none none]
  rfl

/-! ## All placeholders -/

theorem names_nil : names [] = [] := by
  rw [names, pieces, List.filterMap_nil]

theorem names_of_noneIn (none : NoneIn s) : names s = [] := by
  induction s with
  | nil => exact names_nil
  | cons c s ih =>
    rw [names_cons_of_none (none [] (c :: s) rfl)]
    apply ih
    intro u v same
    exact none (c :: u) v (congrArg (c :: ·) same)

theorem names_append_of_noneBefore {before : List Char} (clear : NoneBefore before s) :
    names (before ++ s) = names s := by
  induction before with
  | nil => rfl
  | cons c before ih =>
    have here := clear [] (c :: before) rfl (List.cons_ne_nil c before)
    rw [List.cons_append] at here ⊢
    rw [names_cons_of_none here]
    apply ih
    intro u v same
    exact clear (c :: u) v (congrArg (c :: ·) same)

/-- A character at which no placeholder begins may be put before a text. -/
theorem Scans.cons {found : List String} (none : ∀ name rest, ¬ Begins (c :: s) name rest)
    (scans : Scans s found) : Scans (c :: s) found := by
  cases scans with
  | done later =>
    apply Scans.done
    intro u v same
    cases u with
    | nil =>
      obtain rfl : v = c :: s := same
      exact none
    | cons d u => exact later u v (List.tail_eq_of_cons_eq same)
  | @next before s name rest others clear begins later =>
    refine @Scans.next (c :: before) _ _ _ _ ?_ begins later
    intro u v same some
    cases u with
    | nil =>
      obtain rfl : v = c :: before := same
      exact none
    | cons d u => exact clear u v (List.tail_eq_of_cons_eq same) some

theorem scans_names (s : List Char) : Scans s (names s) := by
  -- Along the pieces: a placeholder here is the first one, and a character is put before the rest.
  fun_induction pieces s with
  | case1 =>
    rw [names_nil]
    apply Scans.done
    intro u v same name rest begins
    obtain ⟨-, rfl⟩ := List.append_eq_nil_iff.mp same
    cases begins.text
  | case2 s name rest found ih =>
    have begins := name?_eq_some_iff.mp found
    rw [names_of_begins begins]
    refine @Scans.next [] _ _ _ _ ?_ begins ih
    intro u v same some
    exact absurd (List.append_eq_nil_iff.mp same).2 some
  | case3 s missing ih =>
    have none : ∀ name rest, ¬ Begins ('%' :: s) name rest := by
      intro name rest begins
      cases missing.symm.trans (name?_eq_some_iff.mpr begins)
    rw [names_cons_of_none none]
    exact ih.cons none
  | case4 c s other ih =>
    have none : ∀ name rest, ¬ Begins (c :: s) name rest := by
      intro name rest begins
      exact other begins.head
    rw [names_cons_of_none none]
    exact ih.cons none

/-- The names of the pieces of a text are the names of its placeholders. -/
theorem scans_iff {found : List String} : Scans s found ↔ names s = found := by
  constructor
  · intro scans
    induction scans with
    | done none => exact names_of_noneIn none
    | next clear begins later ih =>
      rw [names_append_of_noneBefore clear, names_of_begins begins, ih]
  · rintro rfl
    exact scans_names s

/-- A name is not empty and has word characters only. -/
theorem word_of_mem_names {n : String} (mem : n ∈ names s) :
    n.toList ≠ [] ∧ ∀ c ∈ n.toList, Text.isWordChar c = true := by
  have scans := scans_names s
  generalize names s = found at mem scans
  induction scans with
  | done none => cases mem
  | next clear begins later ih =>
    rcases List.mem_cons.mp mem with rfl | behind
    · rw [String.toList_ofList]
      exact ⟨begins.filled, begins.word⟩
    · exact ih behind

end PageScript.Placeholder
