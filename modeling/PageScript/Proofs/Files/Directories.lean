import Mathlib.Data.List.Nodup
import PageScript.Proofs.Files.Growth

/-!
# What is in a directory

A directory that was made is there (`walk_of_makeDirectory`), and making it once more changes
nothing (`makeDirectory_of_walk`). A file stored in it is one more thing in it, beside all that was
there before under other names (`below_of_store`), and is read back.

**What it does not establish.** Links, permissions and times are no part of the file tree, and
nothing else changes it meanwhile.
-/

namespace PageScript

namespace FileTree

variable {t t' : FileTree} {p : Path} {here place : List String}

/-- An empty name at the end of a path means the directory itself. -/
theorem walk_concat_empty (t : FileTree) (here names : List String) :
    t.walk here (names ++ [""]) = t.walk here names := by
  induction names generalizing here with
  | nil => rfl
  | cons name rest ih =>
    rw [List.cons_append, walk, walk]
    cases t.enter here name with
    | error e => rfl
    | ok next => exact ih next

/-! ## Making a directory -/

/-- A directory that was made, or was there, can be entered. -/
theorem enter_of_makeOne {next : List String} {name : String}
    (made : t.makeOne here name = .ok (t', next)) : t'.enter here name = .ok next := by
  unfold makeOne at made
  split at made
  · rename_i enters
    cases made
    exact enters
  · rename_i absent
    cases made
    unfold enter at absent ⊢
    split at absent
    · cases absent
    rename_i plain
    split at absent
    · cases absent
    rename_i down
    split at absent
    · cases absent
    rename_i short
    rw [if_neg plain, if_neg down, if_neg short, get?_put (List.concat_ne_nil name here),
      if_pos rfl]
  · cases made

/-- Directories that were all made can be walked through. -/
theorem walk_of_makeAll {names : List String} (made : t.makeAll here names = .ok t') :
    ∃ place, t'.walk here names = .ok place := by
  induction names generalizing t here with
  | nil => exact ⟨here, rfl⟩
  | cons name rest ih =>
    obtain ⟨u, next, one, others⟩ := exists_makeOne_of_makeAll made
    obtain ⟨place, walks⟩ := ih others
    have enters := enter_of_directoriesStay (making_grows.makeAll others).directories
      (enter_of_makeOne one)
    refine ⟨place, ?_⟩
    rw [walk, enters]
    exact walks

/-- Directories that can be walked through are not made again. -/
theorem makeAll_of_walk {names : List String} (walks : t.walk here names = .ok place) :
    t.makeAll here names = .ok t := by
  induction names generalizing here with
  | nil => rfl
  | cons name rest ih =>
    simp only [walk, bind, Except.bind] at walks
    cases enters : t.enter here name with
    | error e =>
      rw [enters] at walks
      cases walks
    | ok next =>
      rw [enters] at walks
      have one : t.makeOne here name = .ok (t, next) := by rw [makeOne, enters]
      rw [makeAll_cons_of_makeOne one]
      exact ih walks

/-- A directory that was made is there. -/
theorem walk_of_makeDirectory (made : t.makeDirectory p = .ok t') :
    ∃ place, t'.walk p.start p.names = .ok place := by
  unfold makeDirectory at made
  split at made
  · cases made
  · exact walk_of_makeAll made

/-- Making a directory that is there changes nothing. -/
theorem makeDirectory_of_walk (text : '\x00' ∉ p.text.toList)
    (walks : t.walk p.start p.names = .ok place) : t.makeDirectory p = .ok t := by
  rw [makeDirectory, if_neg (by simpa using text)]
  exact makeAll_of_walk walks

/-- A directory that was made has no zero character in its name. -/
theorem text_of_makeDirectory (made : t.makeDirectory p = .ok t') : '\x00' ∉ p.text.toList := by
  intro nul
  rw [makeDirectory, if_pos (by simpa using nul)] at made
  cases made

/-- A path is that of a directory if it has a text without zero characters and can be walked. -/
theorem directory?_eq_some_iff :
    t.directory? p = some place ↔
      p.text ≠ "" ∧ '\x00' ∉ p.text.toList ∧ t.walk p.start p.names = .ok place := by
  unfold directory?
  cases t.walk p.start p.names <;> simp [Except.toOption, and_assoc]

/-! ## What lies below -/

/-- All that is listed lies at paths at which nothing else is. -/
theorem filter_entries_of_get?_none {path : List String} (free : t.get? path = none) :
    t.entries.filter (·.1 != path) = t.entries := by
  rw [List.filter_eq_self]
  intro e mem
  unfold get? at free
  split at free
  · cases free
  · rw [Option.map_eq_none_iff, List.find?_eq_none] at free
    simpa using free e mem

/-- Making directories only adds entries. -/
theorem making_suffix : Making fun t t' => t.entries <:+ t'.entries where
  refl _ := List.suffix_rfl
  trans := List.IsSuffix.trans
  put _ free := by
    rw [put, filter_entries_of_get?_none free]
    exact List.suffix_cons _ _

/-- Making a directory leaves all that is listed below any other. -/
theorem below_suffix_of_makeDirectory (made : t.makeDirectory p = .ok t') (here : List String) :
    t.below here <:+ t'.below here :=
  (making_suffix.makeDirectory made).filterMap _

/-- What is listed below a directory is listed by its path from there. -/
theorem eq_append_of_below {e b : List String × Entry}
    (found : (match here.isPrefixOf? e.1 with
      | some (name :: rest) => some (name :: rest, e.2)
      | _ => none) = some b) : e = (here ++ b.1, b.2) := by
  split at found
  · rename_i inside
    cases found
    rw [List.append_eq_of_isPrefixOf?_eq_some inside]
  · cases found

/-- What is below a directory has a name there. -/
theorem exists_of_mem_below {e : List String × Entry} (mem : e ∈ t.below here) :
    ∃ name names entry, e = (name :: names, entry) := by
  obtain ⟨⟨path, entry⟩, -, found⟩ := List.mem_filterMap.mp mem
  dsimp only at found
  split at found
  · cases found
    exact ⟨_, _, _, rfl⟩
  · cases found

/-- What is below a directory is what has the path of the directory before its own. -/
theorem mem_below_iff {name : String} {names : List String} {entry : Entry} :
    (name :: names, entry) ∈ t.below here ↔ (here ++ name :: names, entry) ∈ t.entries := by
  unfold below
  rw [List.mem_filterMap]
  constructor
  · rintro ⟨e, mem, found⟩
    exact eq_append_of_below found ▸ mem
  · intro mem
    have inside : here.isPrefixOf? (here ++ name :: names) = some (name :: names) := by simp
    exact ⟨_, mem, by simp only [inside]⟩

/-- An entry with a path below the directory is one more thing in it. -/
theorem below_cons_of_inside (name : String) (names : List String) (entry : Entry)
    (rest : List (List String × Entry)) :
    below ⟨(here ++ name :: names, entry) :: rest⟩ here =
      (name :: names, entry) :: below ⟨rest⟩ here := by
  have rest? : here.isPrefixOf? (here ++ name :: names) = some (name :: names) := by simp
  refine List.filterMap_cons_some ?_
  simp only [rest?]

/-- An entry with another path is not in the directory. -/
theorem below_cons_of_outside {path : List String}
    (outside : ∀ name names, path ≠ here ++ name :: names) (entry : Entry)
    (rest : List (List String × Entry)) :
    below ⟨(path, entry) :: rest⟩ here = below ⟨rest⟩ here := by
  unfold below
  refine List.filterMap_cons_none ?_
  dsimp only
  split
  · rename_i name names found
    exact absurd (List.append_eq_of_isPrefixOf?_eq_some found).symm (outside name names)
  · rfl

/-- What lies below a directory after something was taken away there. -/
theorem below_filter (entries : List (List String × Entry)) (name : String) :
    below ⟨entries.filter (·.1 != here ++ [name])⟩ here =
      (below ⟨entries⟩ here).filter (·.1 != [name]) := by
  induction entries with
  | nil => rfl
  | cons e rest ih =>
    obtain ⟨path, entry⟩ := e
    by_cases inside : ∃ first names, path = here ++ first :: names
    · obtain ⟨first, names, rfl⟩ := inside
      rw [below_cons_of_inside]
      by_cases same : first :: names = [name]
      · simp [same, ih]
      · simp [same, below_cons_of_inside, ih]
    · have outside : ∀ first names, path ≠ here ++ first :: names :=
        fun first names same => inside ⟨first, names, same⟩
      have other : path ≠ here ++ [name] := outside name []
      rw [below_cons_of_outside outside]
      simp [other, below_cons_of_outside outside, ih]

/-! ## Trees that list each path once -/

/-- No path is listed twice. -/
def Distinct (t : FileTree) : Prop :=
  (t.entries.map (·.1)).Nodup

/-- Putting an entry keeps paths distinct. -/
theorem Distinct.put (distinct : t.Distinct) (path : List String) (entry : Entry) :
    (t.put path entry).Distinct := by
  have others : ((t.entries.filter (·.1 != path)).map (·.1)).Nodup :=
    distinct.sublist (List.filter_sublist.map _)
  exact List.nodup_cons.mpr ⟨by simp, others⟩

/-- Making directories keeps paths distinct. -/
theorem making_distinct : Making fun t t' => t.Distinct → t'.Distinct where
  refl _ := id
  trans first next := next ∘ first
  put _ _ distinct := distinct.put _ _

/-- Storing an entry keeps paths distinct. -/
theorem Distinct.store (distinct : t.Distinct) {entry : Entry}
    (stored : t.store p entry = .ok t') : t'.Distinct := by
  obtain ⟨parent, name, -, -, rfl⟩ := store_eq_ok_iff.mp stored
  exact distinct.put _ _

/-- What is at a path is listed. -/
theorem mem_entries_of_get? {path : List String} (some_ : path ≠ []) {entry : Entry}
    (found : t.get? path = some entry) : (path, entry) ∈ t.entries := by
  rw [get?, if_neg (by simpa using some_), Option.map_eq_some_iff] at found
  obtain ⟨e, first, rfl⟩ := found
  have here : e.1 = path := by simpa using List.find?_some first
  exact here ▸ List.mem_of_find?_eq_some first

/-- What is listed below a directory is what is there. -/
theorem Distinct.mem_below_iff (distinct : t.Distinct) {name : String} {names : List String}
    {entry : Entry} :
    (name :: names, entry) ∈ t.below here ↔ t.get? (here ++ name :: names) = some entry := by
  have some_ : here ++ name :: names ≠ [] := by simp
  rw [FileTree.mem_below_iff]
  refine ⟨fun mem => ?_, mem_entries_of_get? some_⟩
  have present : (t.entries.find? (·.1 == here ++ name :: names)).isSome = true :=
    List.find?_isSome.mpr ⟨_, mem, by simp⟩
  obtain ⟨e, first⟩ := Option.isSome_iff_exists.mp present
  have path : e.1 = here ++ name :: names := by simpa using List.find?_some first
  have same : e = (here ++ name :: names, entry) :=
    List.inj_on_of_nodup_map distinct (List.mem_of_find?_eq_some first) mem path
  rw [get?, if_neg (by simp), first, same]
  rfl

/-- What is below a directory has distinct paths. -/
theorem Distinct.below (distinct : t.Distinct) (here : List String) :
    ((t.below here).map (·.1)).Nodup := by
  rw [List.Nodup, List.pairwise_map, FileTree.below, List.pairwise_filterMap]
  have apart := List.pairwise_map.mp distinct
  refine apart.imp fun differ b found b' found' same => differ ?_
  rw [eq_append_of_below found, eq_append_of_below found', same]

end FileTree

/-! ## Paths to something in a directory -/

/-- A character of a joined path is one of the path, a slash, or one of the name. -/
theorem Path.mem_text_join {p : Path} {name : String} {c : Char}
    (mem : c ∈ (p.join name).text.toList) : c ∈ p.text.toList ∨ c = '/' ∨ c ∈ name.toList := by
  unfold Path.join at mem
  split at mem
  · exact .inr (.inr mem)
  split at mem
  · exact (by simpa using mem : c ∈ p.text.toList ∨ c ∈ name.toList).imp_right .inr
  · simpa using mem

/-- Joining a plain name to a path leaves a path with a text. -/
theorem Path.text_join_ne_empty {p : Path} (some_ : p.text ≠ "") {name : String}
    (plain : '/' ∉ name.toList) : (p.join name).text ≠ "" := by
  unfold Path.join
  rw [Path.not_absolute_of_plain plain, Bool.false_or, if_neg (by simpa using some_)]
  split <;> simp [some_]

/-- The names before the last on the path to something in a directory lead where the path of the
directory leads. -/
theorem Path.walk_join (p : Path) {name : String} (plain : '/' ∉ name.toList) (t : FileTree)
    (here : List String) : t.walk here (p.join name).names.dropLast = t.walk here p.names := by
  obtain ⟨before, same | closed, names⟩ := p.exists_names_join
  · rw [names name plain, List.dropLast_concat, same]
  · rw [names name plain, List.dropLast_concat, closed, FileTree.walk_concat_empty]

namespace FileTree

variable {t t' : FileTree} {directory : Path} {place : List String} {name : String} {entry : Entry}

/-- A file that is stored in a directory is put there. -/
theorem store_join_eq_put (plain : '/' ∉ name.toList)
    (leads : t.walk directory.start directory.names = .ok place)
    (stored : t.store (directory.join name) entry = .ok t') :
    t' = t.put (place ++ [name]) entry := by
  obtain ⟨parent, last, located, -, rfl⟩ := store_eq_ok_iff.mp stored
  obtain ⟨-, -, walks, named, -⟩ := locate_eq_ok_iff.mp located
  rw [directory.getLast?_names_join plain] at named
  rw [directory.start_join plain, directory.walk_join plain, leads] at walks
  cases named
  cases walks
  rfl

/-- Storing a file in a directory adds it to what lies below, unless there is one of this name. -/
theorem below_of_store (plain : '/' ∉ name.toList)
    (leads : t.walk directory.start directory.names = .ok place)
    (new : ∀ e ∈ t.below place, e.1 ≠ [name])
    (stored : t.store (directory.join name) entry = .ok t') :
    t'.below place = ([name], entry) :: t.below place := by
  rw [store_join_eq_put plain leads stored, put, below_cons_of_inside name [], below_filter]
  congr 1
  rw [List.filter_eq_self]
  intro e mem
  simpa using new e mem

end FileTree

end PageScript
