import Mathlib.Data.List.Induction
import Mathlib.Data.String.Basic
import PageScript.Json.Value

/-!
# Fields of objects

Bringing fields into order does not change what is found under a name: of equal names, the last.
What is brought into order ascends (`ascending_sortFields`), and what ascends stays as it is
(`Ascending.sortFields_eq`).

**What it does not establish.** Fields of the same name are one in an object that was read; which of
them was written first is lost.
-/

namespace PageScript.Json

/-- What is found under a name is the value of a field. -/
theorem mem_of_lookup? {name : String} {v : Json} {fields : List (String × Json)}
    (found : lookup? name fields = some v) : (name, v) ∈ fields := by
  induction fields with
  | nil => cases found
  | cons field rest ih =>
    rw [lookup?] at found
    split at found
    · rename_i same
      cases found
      exact same ▸ List.mem_cons_self
    · exact List.mem_cons_of_mem _ (ih found)

/-- After a field was put in, its name finds its value and every other name finds what it found. -/
theorem lookup?_insertField (wanted name : String) (value : Json) (fields : List (String × Json)) :
    lookup? wanted (insertField name value fields) =
      if name = wanted then some value else lookup? wanted fields := by
  induction fields with
  | nil => rfl
  | cons field rest ih =>
    obtain ⟨other, old⟩ := field
    unfold insertField
    split
    · rfl
    · split
      · rename_i same
        subst same
        simp only [lookup?]
        split <;> rfl
      · rename_i different
        simp only [lookup?, ih]
        split
        · rename_i here
          subst here
          rw [if_neg different]
        · rfl

/-- In an object, a name finds the last value that was given for it. -/
theorem field?_ofFields (wanted : String) (fields : List (String × Json)) :
    (ofFields fields).field? wanted = lookup? wanted fields.reverse := by
  show lookup? wanted (sortFields fields) = _
  rw [sortFields, ← List.foldr_reverse]
  induction fields.reverse with
  | nil => rfl
  | cons field rest ih => rw [List.foldr_cons, lookup?_insertField, ih, lookup?]

/-! ## Order -/

section Order

variable {name : String} {value : Json} {fields : List (String × Json)}

/-- The names of fields ascend, so no name comes twice. -/
def Ascending (fields : List (String × Json)) : Prop :=
  fields.Pairwise fun f g => f.1 < g.1

theorem mem_insertField {f : String × Json} (mem : f ∈ insertField name value fields) :
    f = (name, value) ∨ f ∈ fields := by
  induction fields with
  | nil => exact .inl (List.mem_singleton.mp mem)
  | cons g rest ih =>
    unfold insertField at mem
    split at mem
    · exact List.mem_cons.mp mem
    · split at mem
      · rcases List.mem_cons.mp mem with here | there
        · exact .inl here
        · exact .inr (List.mem_cons_of_mem _ there)
      · rcases List.mem_cons.mp mem with here | there
        · exact .inr (here ▸ List.mem_cons_self)
        · exact (ih there).imp_right (List.mem_cons_of_mem _)

theorem Ascending.insertField (ascending : Ascending fields) :
    Ascending (insertField name value fields) := by
  induction fields with
  | nil => exact List.pairwise_singleton _ _
  | cons g rest ih =>
    obtain ⟨below, later⟩ := List.pairwise_cons.mp ascending
    unfold Json.insertField
    split
    · rename_i first
      refine List.pairwise_cons.mpr ⟨fun f mem => ?_, ascending⟩
      rcases List.mem_cons.mp mem with rfl | there
      · exact first
      · exact String.lt_trans first (below f there)
    · split
      · rename_i same
        subst same
        exact List.pairwise_cons.mpr ⟨below, later⟩
      · rename_i notBelow different
        have above : g.1 < name := by
          rcases String.le_total name g.1 with le | le
          · exact absurd (lt_of_le_of_ne le different) notBelow
          · exact lt_of_le_of_ne le (Ne.symm different)
        refine List.pairwise_cons.mpr ⟨fun f mem => ?_, ih later⟩
        rcases mem_insertField mem with rfl | there
        · exact above
        · exact below f there

/-- A field whose name is above all others goes to the end. -/
theorem insertField_of_above (above : ∀ f ∈ fields, f.1 < name) :
    insertField name value fields = fields ++ [(name, value)] := by
  induction fields with
  | nil => rfl
  | cons g rest ih =>
    obtain ⟨here, later⟩ := List.forall_mem_cons.mp above
    have notBelow : ¬ name < g.1 := String.lt_asymm here
    have different : name ≠ g.1 := fun same => String.lt_irrefl name (same ▸ here)
    rw [insertField, if_neg notBelow, if_neg different, ih later, List.cons_append]

theorem sortFields_concat (fields : List (String × Json)) (f : String × Json) :
    sortFields (fields ++ [f]) = insertField f.1 f.2 (sortFields fields) := by
  rw [sortFields, List.foldl_append]
  rfl

/-- Bringing fields into order brings them into order. -/
theorem ascending_sortFields (fields : List (String × Json)) : Ascending (sortFields fields) := by
  induction fields using List.reverseRecOn with
  | nil => exact List.Pairwise.nil
  | append_singleton fields f ih =>
    rw [sortFields_concat]
    exact ih.insertField

theorem mem_of_mem_sortFields {f : String × Json} (mem : f ∈ sortFields fields) : f ∈ fields := by
  induction fields using List.reverseRecOn with
  | nil => exact mem
  | append_singleton fields g ih =>
    rw [sortFields_concat] at mem
    rcases mem_insertField mem with rfl | there
    · exact List.mem_append_right _ (List.mem_singleton.mpr rfl)
    · exact List.mem_append_left _ (ih there)

/-- Fields that are in order stay as they are. -/
theorem Ascending.sortFields_eq (ascending : Ascending fields) : sortFields fields = fields := by
  induction fields using List.reverseRecOn with
  | nil => rfl
  | append_singleton fields f ih =>
    obtain ⟨earlier, -, above⟩ := List.pairwise_append.mp ascending
    rw [sortFields_concat, ih earlier]
    exact insertField_of_above fun g mem => above g mem f (List.mem_singleton.mpr rfl)

end Order

end PageScript.Json
