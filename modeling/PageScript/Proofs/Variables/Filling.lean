import PageScript.Proofs.Variables.Values

/-!
# Filling in a text

What filling in comes to, said by a scan that knows nothing of the reader. Where a placeholder
begins it is one piece, and the scan goes on behind it; any other character is a piece that stands
for itself (`Cut`). A text is filled in by putting values for the placeholders among these pieces,
which are not scanned again, and it fails at the first placeholder without a value
(`interpolate_scans`).

**What it does not establish.** Whether the values suit the place where a text is used.
-/

namespace PageScript

namespace Placeholder

/-- The pieces that a scan from the left meets in a text. -/
inductive Cut : List Char → List Piece → Prop where
  | done : Cut [] []
  | name {s name rest : List Char} {ps : List Piece} (begins : Begins s name rest)
    (later : Cut rest ps) : Cut s (.name name :: ps)
  | literal {c : Char} {s : List Char} {ps : List Piece}
    (none : ∀ name rest, ¬ Begins (c :: s) name rest) (later : Cut s ps) :
    Cut (c :: s) (.literal c :: ps)

variable {s : List Char} {ps : List Piece}

theorem cut_pieces (s : List Char) : Cut s (pieces s) := by
  fun_induction pieces s with
  | case1 => exact .done
  | case2 s name rest found ih => exact .name (name?_eq_some_iff.mp found) ih
  | case3 s missing ih =>
    refine .literal (fun name rest begins => ?_) ih
    cases missing.symm.trans (name?_eq_some_iff.mpr begins)
  | case4 c s other ih => exact .literal (fun name rest begins => other begins.head) ih

/-- The pieces of a text are those that the scan meets. -/
theorem cut_iff : Cut s ps ↔ ps = pieces s := by
  constructor
  · intro cut
    induction cut with
    | done => rw [pieces]
    | name begins later ih => rw [pieces_of_begins begins, ih]
    | literal none later ih => rw [pieces_cons_of_none none, ih]
  · rintro rfl
    exact cut_pieces s

end Placeholder

namespace Variables

open Placeholder

variable (vars : Variables)

/-- A variable has a value that is not empty. -/
def Knows (n : String) : Prop :=
  ∃ value, vars.get? n = some value ∧ value ≠ ""

/-- What is put for a piece. -/
def replacement : Piece → List Char
  | .literal c => [c]
  | .name n => ((vars.get? (String.ofList n)).getD "").toList

/-- The value of a name is its text, if that is not empty. -/
theorem value?_eq_some_iff {n value : String} :
    vars.value? n = some value ↔ vars.get? n = some value ∧ value ≠ "" := by
  simp [value?, Option.filter_eq_some_iff]

theorem value?_isSome_iff {n : String} : (vars.value? n).isSome = true ↔ vars.Knows n := by
  rw [Option.isSome_iff_exists]
  exact exists_congr fun value => vars.value?_eq_some_iff

theorem fill_literal_eq_ok_iff {c : Char} {ps : List Piece} {filled : List Char} :
    vars.fill (.literal c :: ps) = .ok filled ↔
      ∃ rest, vars.fill ps = .ok rest ∧ filled = c :: rest := by
  cases rest : vars.fill ps <;>
    simp [fill, rest, bind, Except.bind, pure, Except.pure, eq_comm]

theorem fill_name_eq_ok_iff {n : List Char} {ps : List Piece} {filled : List Char} :
    vars.fill (.name n :: ps) = .ok filled ↔
      vars.Knows (String.ofList n) ∧
        ∃ rest, vars.fill ps = .ok rest ∧ filled = vars.replacement (.name n) ++ rest := by
  rw [← value?_isSome_iff]
  cases found : vars.value? (String.ofList n) with
  | none => simp [fill, found]
  | some value =>
    obtain ⟨has, -⟩ := vars.value?_eq_some_iff.mp found
    cases rest : vars.fill ps <;>
      simp [fill, found, rest, has, replacement, bind, Except.bind, pure, Except.pure, eq_comm]

/-- Pieces are filled in if every name among them has a value, with these values. -/
theorem fill_eq_ok_iff {ps : List Piece} {filled : List Char} :
    vars.fill ps = .ok filled ↔
      (∀ n ∈ ps.filterMap nameOf?, vars.Knows n) ∧ filled = ps.flatMap vars.replacement := by
  induction ps generalizing filled with
  | nil => simp [fill, eq_comm]
  | cons piece ps ih =>
    cases piece with
    | literal c =>
      rw [fill_literal_eq_ok_iff, List.filterMap_cons_none rfl, List.flatMap_cons]
      simp only [ih, and_assoc, exists_and_left, exists_eq_left]
      rfl
    | name n =>
      have first : nameOf? (.name n) = some (String.ofList n) := rfl
      rw [fill_name_eq_ok_iff, List.filterMap_cons_some first, List.forall_mem_cons, and_assoc,
        List.flatMap_cons]
      simp only [ih, exists_eq_left, and_assoc, exists_and_left]

/-- A text can be filled in if and only if all its names are known, and then each is replaced. -/
theorem interpolate_eq_ok_iff {text filled : String} :
    vars.interpolate text = .ok filled ↔
      (∀ n ∈ names text.toList, vars.Knows n) ∧
        filled = String.ofList ((pieces text.toList).flatMap vars.replacement) := by
  have whole : vars.interpolate text = .ok filled ↔
      ∃ rest, vars.fill (pieces text.toList) = .ok rest ∧ filled = String.ofList rest := by
    unfold interpolate
    cases vars.fill (pieces text.toList) <;>
      simp [bind, Except.bind, pure, Except.pure, eq_comm]
  rw [whole, names_eq]
  simp only [fill_eq_ok_iff, and_assoc, exists_and_left, exists_eq_left]

/-- A text is cut by a scan from the left, in which a name between percent signs is a placeholder
and any other character stands for itself. If every name has a value that is not empty, the text is
filled in with these values in the places of their placeholders; otherwise it fails for the first
name that has none. -/
theorem interpolate_scans (text : String) :
    ∃ ps, (∀ qs, Cut text.toList qs ↔ qs = ps) ∧
      (∀ filled, vars.interpolate text = .ok filled ↔
        (∀ n ∈ ps.filterMap nameOf?, vars.Knows n) ∧
          filled = String.ofList (ps.flatMap vars.replacement)) ∧
      ∀ e, vars.interpolate text = .error e ↔
        ∃ before n after, ps.filterMap nameOf? = before ++ n :: after ∧
          (∀ m ∈ before, vars.Knows m) ∧ ¬ vars.Knows n ∧ e = .missingVariable n := by
  have unknown (n : String) : (vars.value? n).isNone = true ↔ ¬ vars.Knows n := by
    rw [← value?_isSome_iff, Option.isNone_iff_eq_none, Option.not_isSome_iff_eq_none]
  refine ⟨pieces text.toList, fun qs => cut_iff, ?_, ?_⟩
  · intro filled
    rw [← names_eq]
    exact vars.interpolate_eq_ok_iff
  · intro e
    rw [interpolate_eq_error_iff, names_eq]
    constructor
    · rintro ⟨n, found, rfl⟩
      obtain ⟨none, before, after, split, known⟩ := List.find?_eq_some_iff_append.mp found
      refine ⟨before, n, after, split, ?_, (unknown n).mp none, rfl⟩
      intro m mem
      by_contra missing
      have other := known m mem
      rw [(unknown m).mpr missing] at other
      cases other
    · rintro ⟨before, n, after, split, known, missing, rfl⟩
      refine ⟨n, List.find?_eq_some_iff_append.mpr ?_, rfl⟩
      refine ⟨(unknown n).mpr missing, before, after, split, ?_⟩
      intro m mem
      rw [Bool.not_eq_true', ← Bool.not_eq_true, unknown, not_not]
      exact known m mem

/-- A percent sign belongs to one placeholder at most, and a value is not scanned again. -/
example : Variables.interpolate ⟨[("A", "%C%"), ("B", "2"), ("C", "3")]⟩ "100% %A%B%C%" =
    .ok "100% %C%B3" := by
  decide +kernel

end Variables

end PageScript
