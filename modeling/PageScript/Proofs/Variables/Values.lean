import Mathlib.Data.List.Basic
import Mathlib.Data.List.Induction
import PageScript.Proofs.Variables.Placeholders

/-!
# Names with a value

Filling in a text fails at the first of its placeholders whose variable has no value, and for no
other reason (`interpolate_eq_error_iff`). The names of a text that have a value are listed once
each, in the order in which they appear first (`pairwise_referencedNames`), so that a text can be
filled in exactly if the list has all its names (`interpolate_ok_iff`).

**What it does not establish.** Where the values come from: a name with an empty value has a value
too.
-/

namespace PageScript.Variables

open Placeholder

variable (vars : Variables)

/-! ## Filling in -/

/-- The name of a piece that is a placeholder. -/
def nameOf? : Piece → Option String
  | .literal _ => none
  | .name n => some (String.ofList n)

/-- The names of a text are those of its pieces. -/
theorem names_eq (s : List Char) : names s = (pieces s).filterMap nameOf? := by
  unfold names nameOf?
  rfl

/-- Pieces cannot be filled in because of the first of their names that has no value. -/
theorem fill_eq_error_iff {ps : List Piece} {e : Failure} :
    vars.fill ps = .error e ↔
      ∃ n, (ps.filterMap nameOf?).find? (fun n => (vars.value? n).isNone) = some n ∧
        e = .missingVariable n := by
  induction ps with
  | nil => simp [fill]
  | cons piece ps ih =>
    cases piece with
    | literal c =>
      have same : vars.fill (.literal c :: ps) = .error e ↔ vars.fill ps = .error e := by
        cases filled : vars.fill ps <;> simp [fill, filled, bind, Except.bind, pure, Except.pure]
      simp [same, ih, nameOf?]
    | name n =>
      cases value : vars.value? (String.ofList n) with
      | none =>
        simp [fill, value, nameOf?, eq_comm]
      | some text =>
        have same : vars.fill (.name n :: ps) = .error e ↔ vars.fill ps = .error e := by
          cases filled : vars.fill ps <;>
            simp [fill, value, filled, bind, Except.bind, pure, Except.pure]
        simp [same, ih, nameOf?, value]

/-- A text cannot be filled in if one of its names has no value; the first one is named. -/
theorem interpolate_eq_error_iff (text : String) (e : Failure) :
    vars.interpolate text = .error e ↔
      ∃ n, (names text.toList).find? (fun n => (vars.value? n).isNone) = some n ∧
        e = .missingVariable n := by
  rw [names_eq, ← fill_eq_error_iff]
  unfold interpolate
  cases vars.fill (pieces text.toList) <;> simp [bind, Except.bind, pure, Except.pure]

/-- A text can be filled in if and only if all its names have values. -/
theorem interpolate_ok_iff_values {text : String} :
    (∃ filled, vars.interpolate text = .ok filled) ↔
      ∀ n ∈ names text.toList, (vars.value? n).isSome = true := by
  have missing := vars.interpolate_eq_error_iff text
  cases ended : vars.interpolate text with
  | error e =>
    obtain ⟨n, found, -⟩ := (missing e).mp ended
    have mem := List.mem_of_find?_eq_some found
    have none := List.find?_some found
    simp only [reduceCtorEq, exists_false, false_iff]
    intro values
    have some := values n mem
    rw [Option.isNone_iff_eq_none.mp none] at some
    cases some
  | ok filled =>
    refine iff_of_true ⟨filled, rfl⟩ fun n mem => ?_
    by_contra none
    have first : ((names text.toList).find? fun n => (vars.value? n).isNone).isSome = true := by
      rw [List.find?_isSome]
      exact ⟨n, mem, by simpa using none⟩
    obtain ⟨m, found⟩ := Option.isSome_iff_exists.mp first
    cases ended.symm.trans ((missing _).mpr ⟨m, found, rfl⟩)

/-! ## Listing names -/

/-- A name that has a value and is not listed yet is listed last. -/
def list (seen : List String) (n : String) : List String :=
  if (vars.value? n).isSome && !seen.contains n then seen ++ [n] else seen

/-- The names that have a value are listed one after the other. -/
theorem referencedNames_eq (text : String) :
    vars.referencedNames text = (names text.toList).foldl vars.list [] :=
  rfl

/-- A name is listed if it has a value and is not listed yet. -/
theorem list_eq (seen : List String) (n : String) :
    vars.list seen n =
      if (vars.value? n).isSome = true ∧ n ∉ seen then seen ++ [n] else seen := by
  simp [list]

/-- Listing a name adds it if it has a value. -/
theorem mem_list {seen : List String} {n m : String} :
    m ∈ vars.list seen n ↔ m ∈ seen ∨ m = n ∧ (vars.value? n).isSome = true := by
  rw [list_eq]
  split
  · rename_i new
    simp [new.1]
  · rename_i old
    constructor
    · exact .inl
    · rintro (before | ⟨rfl, value⟩)
      · exact before
      · by_contra fresh
        exact old ⟨value, fresh⟩

/-- The names listed are those found that have a value. -/
theorem mem_foldl_list {found : List String} {n : String} :
    n ∈ found.foldl vars.list [] ↔ n ∈ found ∧ (vars.value? n).isSome = true := by
  induction found using List.reverseRecOn with
  | nil => simp
  | append_singleton found m ih =>
    rw [List.foldl_concat, mem_list, ih, List.mem_append, List.mem_singleton]
    constructor
    · rintro (⟨before, value⟩ | ⟨rfl, value⟩)
      · exact ⟨.inl before, value⟩
      · exact ⟨.inr rfl, value⟩
    · rintro ⟨before | rfl, value⟩
      · exact .inl ⟨before, value⟩
      · exact .inr ⟨rfl, value⟩

/-- Of two listed names, the one that is listed first appears first. -/
theorem pairwise_foldl_list (found : List String) :
    (found.foldl vars.list []).Pairwise fun a b => found.idxOf a < found.idxOf b := by
  induction found using List.reverseRecOn with
  | nil => exact List.Pairwise.nil
  | append_singleton found m ih =>
    have before : ∀ a ∈ found.foldl vars.list [], a ∈ found := fun a mem =>
      (vars.mem_foldl_list.mp mem).1
    have kept : (found.foldl vars.list []).Pairwise fun a b =>
        (found ++ [m]).idxOf a < (found ++ [m]).idxOf b := by
      refine ih.imp_of_mem ?_
      intro a b memA memB first
      rwa [List.idxOf_append_of_mem (before a memA), List.idxOf_append_of_mem (before b memB)]
    rw [List.foldl_concat, list_eq]
    split
    · rename_i new
      -- A name that has a value and is not listed has not appeared before.
      have fresh : m ∉ found := fun mem => new.2 (vars.mem_foldl_list.mpr ⟨mem, new.1⟩)
      refine List.pairwise_append.mpr ⟨kept, List.pairwise_singleton _ m, ?_⟩
      intro a memA b memB
      obtain rfl := List.mem_singleton.mp memB
      rw [List.idxOf_append_of_mem (before a memA), List.idxOf_append_of_notMem fresh]
      exact Nat.lt_add_right _ (List.idxOf_lt_length_of_mem (before a memA))
    · exact kept

/-- A name is referenced if it is in the text and has a value. -/
theorem mem_referencedNames {text n : String} :
    n ∈ vars.referencedNames text ↔
      n ∈ names text.toList ∧ (vars.value? n).isSome = true := by
  rw [referencedNames_eq, mem_foldl_list]

/-- Names are listed in the order in which they appear first. -/
theorem pairwise_referencedNames (text : String) :
    (vars.referencedNames text).Pairwise fun a b =>
      (names text.toList).idxOf a < (names text.toList).idxOf b := by
  rw [referencedNames_eq]
  exact vars.pairwise_foldl_list _

/-- No name is listed twice. -/
theorem nodup_referencedNames (text : String) : (vars.referencedNames text).Nodup := by
  refine (vars.pairwise_referencedNames text).imp ?_
  rintro a _ first rfl
  exact Nat.lt_irrefl _ first

/-- A text can be filled in exactly if all its names are listed. -/
theorem interpolate_ok_iff {text : String} :
    (∃ filled, vars.interpolate text = .ok filled) ↔
      ∀ n ∈ names text.toList, n ∈ vars.referencedNames text := by
  rw [interpolate_ok_iff_values]
  constructor
  · intro values n mem
    exact vars.mem_referencedNames.mpr ⟨mem, values n mem⟩
  · intro listed n mem
    exact (vars.mem_referencedNames.mp (listed n mem)).2

/-! ## A name by itself -/

/-- A placeholder by itself is replaced by a text. -/
def Resolves (n : String) : Prop :=
  ∃ value, vars.interpolate ("%" ++ n ++ "%") = .ok value

/-- A word between percent signs has itself as its only name. -/
theorem names_of_alone {n : String} (some : n.toList ≠ [])
    (word : ∀ c ∈ n.toList, Text.isWordChar c = true) :
    names ("%" ++ n ++ "%").toList = [n] := by
  have begins : Begins ("%" ++ n ++ "%").toList n.toList [] := by
    refine ⟨?_, some, word⟩
    simp
  rw [names_of_begins begins, names_nil, String.ofList_toList]

/-- A name of a text is replaced, in this text as by itself, exactly if it has a value. -/
theorem resolves_iff {s : List Char} {n : String} (mem : n ∈ names s) :
    vars.Resolves n ↔ (vars.value? n).isSome = true := by
  obtain ⟨some, word⟩ := word_of_mem_names mem
  rw [Resolves, interpolate_ok_iff_values, names_of_alone some word]
  simp

end PageScript.Variables
