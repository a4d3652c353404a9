import PageScript.Json.Parser
import PageScript.Proofs.Json.Fields
import PageScript.Proofs.Json.Scalars

/-!
# What reading can give

A document that is read is a value whose objects have their names in ascending order and which
nests no deeper than allowed (`readable_of_parseSymbols`).

**What it does not establish.** Which texts can be read: only what a text that can be read gives.
-/

namespace PageScript.Json

open Text (Symbol)

/-- What reading can give: the names in every object ascend, and lists and objects nest at most so
deep. -/
inductive Readable : Nat → Json → Prop where
  | scalar {depth : Nat} {v : Json} (scalar : v.isScalar = true) : Readable depth v
  | array {depth : Nat} {items : List Json} (each : ∀ v ∈ items, Readable depth v) :
      Readable (depth + 1) (.array items)
  | object {depth : Nat} {fields : List (String × Json)} (ascending : Ascending fields)
      (each : ∀ f ∈ fields, Readable depth f.2) : Readable (depth + 1) (.object fields)

/-- A value was read by a reader somewhere. -/
def Reader.Gives (reader : Reader α) (a : α) : Prop :=
  ∃ s r, reader.run s = .ok (a, r)

/-- A word that is read gives its value. -/
theorem eq_of_readWord {value v : Json} {letters : List Char} {s r : List Symbol}
    (h : readWord value letters s = .ok (v, r)) : v = value := by
  fun_induction readWord value letters s with
  | case1 => exact (Prod.mk.inj (Except.ok.inj h)).1.symm
  | case2 => cases h
  | case3 c rest s ih => exact ih h
  | case4 => cases h

/-- A value that was read is a single one, or the reader of lists or the one of objects gave it. -/
theorem valueWith_eq_ok {list object : List Symbol → Outcome Json} {s r : List Symbol} {v : Json}
    (h : valueWith list object s = .ok (v, r)) :
    v.isScalar = true ∨ (∃ t, list t = .ok (v, r)) ∨ ∃ t, object t = .ok (v, r) := by
  unfold valueWith refuse refuseNext at h
  split at h
  · cases h
  · cases h
  · split at h
    · obtain ⟨t, -, rfl⟩ := onValue_eq_ok.mp h
      exact .inl rfl
    split at h
    · exact .inr (.inl ⟨_, h⟩)
    split at h
    · exact .inr (.inr ⟨_, h⟩)
    split at h
    · obtain ⟨n, -, rfl⟩ := onValue_eq_ok.mp h
      exact .inl rfl
    split at h
    · obtain ⟨n, -, rfl⟩ := onValue_eq_ok.mp h
      exact .inl rfl
    split at h
    · exact .inl (eq_of_readWord h ▸ rfl)
    split at h
    · exact .inl (eq_of_readWord h ▸ rfl)
    split at h
    · exact .inl (eq_of_readWord h ▸ rfl)
    · cases h

/-- The items of a list are given by the reader of items. -/
theorem gives_of_itemsAfter {item : Reader Json} {s r : List Symbol} {vs : List Json}
    (h : itemsAfter item s = .ok (vs, r)) : ∀ v ∈ vs, item.Gives v := by
  fun_induction itemsAfter item s generalizing vs with
  | case1 => cases h
  | case2 =>
    cases h
    exact List.forall_mem_nil _
  | case3 => cases h
  | case4 => cases h
  | case5 => cases h
  | case6 s r' next r'' hr _ v rest hi hs _ ih =>
    obtain ⟨ws, hw, rfl⟩ := onValue_eq_ok.mp h
    exact List.forall_mem_cons.mpr ⟨⟨_, _, hi⟩, ih hw⟩
  | case7 => cases h

/-- A list that is read has the items that were read. -/
theorem exists_of_readList {item : Reader Json} {s r : List Symbol} {v : Json}
    (h : readList item s = .ok (v, r)) : ∃ items, v = .array items ∧ ∀ w ∈ items, item.Gives w := by
  unfold readList refuse at h
  split at h
  · cases h
  · split at h
    · cases h
      exact ⟨[], rfl, List.forall_mem_nil _⟩
    · split at h
      · cases h
      · rename_i first
        obtain ⟨ws, hw, rfl⟩ := onValue_eq_ok.mp h
        exact ⟨_, rfl, List.forall_mem_cons.mpr ⟨⟨_, _, first⟩, gives_of_itemsAfter hw⟩⟩

/-- The value of a member is given by the reader of values. -/
theorem gives_of_readMember {value : Reader Json} {s r : List Symbol} {f : String × Json}
    (h : readMember value s = .ok (f, r)) : value.Gives f.2 := by
  unfold readMember refuse refuseNext at h
  split at h
  · cases h
  · split at h
    · cases h
    · split at h
      · obtain ⟨v, hv, rfl⟩ := onValue_eq_ok.mp h
        exact ⟨_, _, hv⟩
      · cases h

/-- The values of members are given by the reader of values. -/
theorem gives_of_membersAfter {value : Reader Json} {s r : List Symbol}
    {fs : List (String × Json)} (h : membersAfter value s = .ok (fs, r)) :
    ∀ f ∈ fs, value.Gives f.2 := by
  fun_induction membersAfter value s generalizing fs with
  | case1 => cases h
  | case2 =>
    cases h
    exact List.forall_mem_nil _
  | case3 => cases h
  | case4 => cases h
  | case5 s r' r'' f rest hm hs _ hr ih =>
    obtain ⟨ws, hw, rfl⟩ := onValue_eq_ok.mp h
    exact List.forall_mem_cons.mpr ⟨gives_of_readMember hm, ih hw⟩
  | case6 => cases h
  | case7 => cases h
  | case8 => cases h

/-- An object that is read has the members that were read, brought into order. -/
theorem exists_of_readObject {value : Reader Json} {s r : List Symbol} {v : Json}
    (h : readObject value s = .ok (v, r)) :
    ∃ fields, v = ofFields fields ∧ ∀ f ∈ fields, value.Gives f.2 := by
  unfold readObject refuse refuseNext at h
  split at h
  · cases h
  · split at h
    · cases h
      exact ⟨[], rfl, List.forall_mem_nil _⟩
    · split at h
      · split at h
        · cases h
        · rename_i first
          obtain ⟨ws, hw, rfl⟩ := onValue_eq_ok.mp h
          exact ⟨_, rfl,
            List.forall_mem_cons.mpr ⟨gives_of_readMember first, gives_of_membersAfter hw⟩⟩
      · cases h

/-- Whatever is read has its fields in ascending order and does not nest too deep. -/
theorem readable_of_readValue {depth : Nat} {v : Json} (given : (readValue depth).Gives v) :
    Readable depth v := by
  induction depth generalizing v with
  | zero =>
    obtain ⟨s, r, h⟩ := given
    rcases valueWith_eq_ok h with scalar | ⟨t, ⟨⟩⟩ | ⟨t, ⟨⟩⟩
    exact .scalar scalar
  | succ depth ih =>
    obtain ⟨s, r, h⟩ := given
    rcases valueWith_eq_ok h with scalar | ⟨t, list⟩ | ⟨t, object⟩
    · exact .scalar scalar
    · obtain ⟨items, rfl, each⟩ := exists_of_readList list
      exact .array fun w mem => ih (each w mem)
    · obtain ⟨fields, rfl, each⟩ := exists_of_readObject object
      exact .object (ascending_sortFields fields) fun f mem =>
        ih (each f (mem_of_mem_sortFields mem))

/-- A document that was read is a value with something after it that does not count. -/
theorem exists_of_parseSymbols {s : List Symbol} {v : Json} (read : parseSymbols s = .ok v) :
    ∃ r, (readValue deepest).run s = .ok (v, r) := by
  unfold parseSymbols readDocument at read
  split at read
  · rename_i h
    split at h
    · cases h
    · rename_i first
      split at h
      · cases h
        cases read
        exact ⟨_, first⟩
      · cases h
  · cases read

theorem readable_of_parseSymbols {s : List Symbol} {v : Json} (read : parseSymbols s = .ok v) :
    Readable deepest v := by
  obtain ⟨r, first⟩ := exists_of_parseSymbols read
  exact readable_of_readValue ⟨s, r, first⟩

end PageScript.Json
