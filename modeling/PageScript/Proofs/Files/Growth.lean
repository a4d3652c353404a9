import Mathlib.Data.List.Basic
import PageScript.FileTree

/-!
# What operations leave of files and directories

Writing files and making directories takes nothing away: what is a directory stays one, and what is
a file stays a file, whatever its content then is (`Grows`). Taking a file away leaves the
directories as they are. As long as directories stay, a path that led somewhere leads to the same
place again (`locate_of_directoriesStay`), so that it can be said of a path whether a file is there
(`Has`), and what becomes of that.

**What it does not establish.** Files have no owners and links are unknown here; what other programs
do to the files at the same time is left out.
-/

namespace PageScript

theorem Entry.file_ne_directory {bytes : List UInt8} : Entry.file bytes ≠ .directory := nofun

namespace FileTree

variable {t t' u : FileTree}

/-! ## Entries -/

/-- The entries at one path are not among those taken away at another. -/
theorem find?_filter_of_ne {path other : List String} (differ : other ≠ path)
    (entries : List (List String × Entry)) :
    (entries.filter (·.1 != path)).find? (·.1 == other) = entries.find? (·.1 == other) := by
  rw [List.find?_filter]
  congr 1
  funext e
  by_cases here : e.1 = other
  · simp [here, differ]
  · simp [here]

/-- What was put in at a path is found there, and all else as before. -/
theorem get?_put {path : List String} (some_ : path ≠ []) (entry : Entry) (other : List String) :
    (t.put path entry).get? other = if other = path then some entry else t.get? other := by
  by_cases same : other = path
  · subst same
    simp [get?, put, some_]
  · rw [if_neg same]
    simp only [get?, put]
    rw [List.find?_cons_of_neg (by simpa using Ne.symm same), find?_filter_of_ne same]

/-- At a path that was erased nothing is found, and all else as before. -/
theorem get?_erase {path : List String} (some_ : path ≠ []) (other : List String) :
    (t.erase path).get? other = if other = path then none else t.get? other := by
  by_cases same : other = path
  · subst same
    simp [get?, erase, some_, List.find?_filter]
  · rw [if_neg same]
    simp only [get?, erase]
    rw [find?_filter_of_ne same]

/-- A file or an archive is there. -/
def IsFile (t : FileTree) (path : List String) : Prop :=
  ∃ entry, t.get? path = some entry ∧ entry ≠ .directory

/-- What is a directory stays one. -/
def DirectoriesStay (t t' : FileTree) : Prop :=
  ∀ path, t.get? path = some .directory → t'.get? path = some .directory

/-- Nothing is taken away: what is a directory stays one, and what is a file stays a file. -/
structure Grows (t t' : FileTree) : Prop where
  directories : t.DirectoriesStay t'
  files : ∀ path, t.IsFile path → t'.IsFile path

theorem Grows.refl (t : FileTree) : t.Grows t :=
  ⟨fun _ h => h, fun _ h => h⟩

/-- Trees that grow step after step have grown as a whole. -/
theorem Grows.trans (h : t.Grows t') (h' : t'.Grows u) : t.Grows u :=
  ⟨fun path there => h'.directories path (h.directories path there),
    fun path there => h'.files path (h.files path there)⟩

/-- Putting a file where no directory is takes nothing away. -/
theorem grows_put_file {path : List String} (some_ : path ≠ []) {entry : Entry}
    (file : entry ≠ .directory) (free : t.get? path ≠ some .directory) :
    t.Grows (t.put path entry) where
  directories other there := by
    have ne : other ≠ path := by
      rintro rfl
      exact free there
    rw [get?_put some_, if_neg ne, there]
  files other there := by
    obtain ⟨old, found, isFile⟩ := there
    by_cases same : other = path
    · exact ⟨entry, by rw [get?_put some_, if_pos same], file⟩
    · exact ⟨old, by rw [get?_put some_, if_neg same, found], isFile⟩

/-- A directory that is put in where nothing was takes nothing away. -/
theorem grows_put_directory {path : List String} (some_ : path ≠ [])
    (free : t.get? path = none) : t.Grows (t.put path .directory) where
  directories other there := by
    rw [get?_put some_, there, ite_self]
  files other there := by
    obtain ⟨old, found, isFile⟩ := there
    have ne : other ≠ path := by
      rintro rfl
      cases free.symm.trans found
    exact ⟨old, by rw [get?_put some_, if_neg ne, found], isFile⟩

/-- Erasing what is no directory leaves the directories. -/
theorem directoriesStay_erase {path : List String} (some_ : path ≠ [])
    (file : t.get? path ≠ some .directory) : t.DirectoriesStay (t.erase path) := by
  intro other there
  have ne : other ≠ path := by
    rintro rfl
    exact file there
  rw [get?_erase some_, if_neg ne, there]

/-! ## Paths -/

/-- A name leads to the same directory as long as directories stay. -/
theorem enter_of_directoriesStay (stay : t.DirectoriesStay t') {here next : List String}
    {name : String} (enters : t.enter here name = .ok next) : t'.enter here name = .ok next := by
  unfold enter at enters ⊢
  split
  · rwa [if_pos (by assumption)] at enters
  rw [if_neg (by assumption)] at enters
  split
  · rwa [if_pos (by assumption)] at enters
  rw [if_neg (by assumption)] at enters
  split
  · rwa [if_pos (by assumption)] at enters
  rw [if_neg (by assumption)] at enters
  split at enters
  · rename_i there
    rw [stay _ there]
    exact enters
  · cases enters
  · cases enters

/-- By induction on the names: a path leads to the same place as long as directories stay. -/
theorem walk_of_directoriesStay (stay : t.DirectoriesStay t') {names here there : List String}
    (walks : t.walk here names = .ok there) : t'.walk here names = .ok there := by
  induction names generalizing here with
  | nil => exact walks
  | cons name rest ih =>
    simp only [walk, bind, Except.bind] at walks ⊢
    cases enters : t.enter here name with
    | error e =>
      rw [enters] at walks
      cases walks
    | ok next =>
      rw [enters] at walks
      rw [enter_of_directoriesStay stay enters]
      exact ih walks

/-- A path leads to a name in a directory if its other names lead there and the last one can be the
name of a file. -/
theorem locate_eq_ok_iff {p : Path} {parent : List String} {name : String} :
    t.locate p = .ok (parent, some name) ↔
      '\x00' ∉ p.text.toList ∧ ¬ p.text.isEmpty ∧
        t.walk p.start p.names.dropLast = .ok parent ∧ p.names.getLast? = some name ∧
        ¬ (name.isEmpty || name == "." || name == "..") ∧
        ¬ Text.byteLength name.toList > longestName := by
  unfold locate
  by_cases nul : '\x00' ∈ p.text.toList
  · simp [nul]
  by_cases empty : p.text.isEmpty
  · simp [nul, empty]
  rw [if_neg (by simpa using nul), if_neg empty]
  simp only [bind, Except.bind, pure, Except.pure]
  cases walks : t.walk p.start p.names.dropLast with
  | error e => simp
  | ok there =>
    cases last : p.names.getLast? with
    | none => simp
    | some own =>
      dsimp only
      split
      · rename_i special
        refine ⟨fun h => by simp at h, ?_⟩
        rintro ⟨-, -, -, ⟨⟩, free, -⟩
        exact absurd special free
      split
      · rename_i long
        refine ⟨fun h => by simp at h, ?_⟩
        rintro ⟨-, -, -, ⟨⟩, -, short⟩
        exact absurd long short
      · rename_i plain short
        constructor
        · rintro ⟨⟩
          exact ⟨nul, empty, rfl, rfl, plain, short⟩
        · rintro ⟨-, -, ⟨⟩, ⟨⟩, -, -⟩
          rfl

/-- As long as directories stay, a path leads to the same place. -/
theorem locate_of_directoriesStay (stay : t.DirectoriesStay t') {p : Path} {parent : List String}
    {name : String} (leads : t.locate p = .ok (parent, some name)) :
    t'.locate p = .ok (parent, some name) := by
  obtain ⟨nul, text, walks, rest⟩ := locate_eq_ok_iff.mp leads
  exact locate_eq_ok_iff.mpr ⟨nul, text, walk_of_directoriesStay stay walks, rest⟩

/-- A file is where a path leads. -/
def Has (t : FileTree) (p : Path) : Prop :=
  ∃ parent name, t.locate p = .ok (parent, some name) ∧ t.IsFile (parent ++ [name])

/-- A file that is there is still there in a tree that has grown. -/
theorem Grows.has (grows : t.Grows t') {p : Path} (has : t.Has p) : t'.Has p := by
  obtain ⟨parent, name, leads, isFile⟩ := has
  exact ⟨parent, name, locate_of_directoriesStay grows.directories leads, grows.files _ isFile⟩

/-! ## Operations -/

/-- Storing works where the path leads into a directory and no directory is in the way. -/
theorem store_eq_ok_iff {p : Path} {entry : Entry} :
    t.store p entry = .ok t' ↔
      ∃ parent name, t.locate p = .ok (parent, some name) ∧
        t.get? (parent ++ [name]) ≠ some .directory ∧ t' = t.put (parent ++ [name]) entry := by
  unfold store
  simp only [bind, Except.bind, pure, Except.pure]
  cases leads : t.locate p with
  | error e => simp
  | ok place =>
    obtain ⟨parent, _ | name⟩ := place
    · simp
    · simp only [Except.ok.injEq, Prod.mk.injEq, Option.some.injEq]
      constructor
      · intro h
        split at h
        · cases h
        · rename_i free
          cases h
          exact ⟨parent, name, ⟨rfl, rfl⟩, free, rfl⟩
      · rintro ⟨_, _, ⟨rfl, rfl⟩, free, rfl⟩
        split
        · contradiction
        · rfl

/-- Storing a file takes nothing away. -/
theorem store_grows {p : Path} {entry : Entry} (file : entry ≠ .directory)
    (stored : t.store p entry = .ok t') : t.Grows t' := by
  obtain ⟨parent, name, -, free, rfl⟩ := store_eq_ok_iff.mp stored
  exact grows_put_file (List.concat_ne_nil name parent) file free

/-- Where a file was put, there is one. -/
theorem store_has {p : Path} {entry : Entry} (file : entry ≠ .directory)
    (stored : t.store p entry = .ok t') : t'.Has p := by
  have grows := store_grows file stored
  obtain ⟨parent, name, leads, free, rfl⟩ := store_eq_ok_iff.mp stored
  refine ⟨parent, name, locate_of_directoriesStay grows.directories leads, entry, ?_, file⟩
  rw [get?_put (List.concat_ne_nil name parent), if_pos rfl]

theorem write_grows {p : Path} {bytes : List UInt8} (written : t.write p bytes = .ok t') :
    t.Grows t' :=
  store_grows Entry.file_ne_directory written

/-- What was written is there. -/
theorem write_has {p : Path} {bytes : List UInt8} (written : t.write p bytes = .ok t') : t'.Has p :=
  store_has Entry.file_ne_directory written

/-- A name that is not found leads nowhere. -/
theorem get?_of_enter_notFound {here : List String} {name : String}
    (absent : t.enter here name = .error .notFound) : t.get? (here ++ [name]) = none := by
  unfold enter at absent
  split at absent
  · cases absent
  split at absent
  · cases absent
  split at absent
  · cases absent
  split at absent
  · cases absent
  · cases absent
  · assumption

/-- Directories are made one after the other. -/
theorem makeAll_cons_of_makeOne {names here next : List String} {name : String}
    (made : t.makeOne here name = .ok (u, next)) :
    t.makeAll here (name :: names) = u.makeAll next names := by
  cases names with
  | nil => simp only [makeAll, made]
  | cons name' rest => simp only [makeAll, made, bind, Except.bind]

/-- Making directories along a path makes the first and goes on from it. -/
theorem exists_makeOne_of_makeAll {names here : List String} {name : String}
    (made : t.makeAll here (name :: names) = .ok t') :
    ∃ u next, t.makeOne here name = .ok (u, next) ∧ u.makeAll next names = .ok t' := by
  cases one : t.makeOne here name with
  | ok first => exact ⟨first.1, first.2, rfl, makeAll_cons_of_makeOne one ▸ made⟩
  | error e =>
    cases names with
    | nil =>
      rw [makeAll, one] at made
      cases e <;> cases made
    | cons name' rest =>
      simp only [makeAll, one, bind, Except.bind] at made
      cases made

/-- A relation of trees along which directories can be made: nothing need be made, one may be made
after the other, and each is made where nothing is. -/
structure Making (R : FileTree → FileTree → Prop) : Prop where
  refl : ∀ t, R t t
  trans : ∀ {t u t'}, R t u → R u t' → R t t'
  put : ∀ {t : FileTree} {path : List String}, path ≠ [] → t.get? path = none →
    R t (t.put path .directory)

namespace Making

variable {R : FileTree → FileTree → Prop} (making : Making R)

include making

/-- Making one directory stands in any relation that putting a directory in does. -/
theorem makeOne {here next : List String} {name : String}
    (made : t.makeOne here name = .ok (t', next)) : R t t' := by
  unfold FileTree.makeOne at made
  split at made
  · cases made
    exact making.refl _
  · rename_i absent
    cases made
    exact making.put (List.concat_ne_nil name here) (get?_of_enter_notFound absent)
  · cases made

/-- By induction on the names: making all directories of a path does as well. -/
theorem makeAll {names here : List String} (made : t.makeAll here names = .ok t') : R t t' := by
  induction names generalizing t here with
  | nil =>
    cases made
    exact making.refl _
  | cons name rest ih =>
    obtain ⟨u, next, one, others⟩ := exists_makeOne_of_makeAll made
    exact making.trans (making.makeOne one) (ih others)

/-- Making a directory with those above it does as well. -/
theorem makeDirectory {p : Path} (made : t.makeDirectory p = .ok t') : R t t' := by
  unfold FileTree.makeDirectory at made
  split at made
  · cases made
  · exact making.makeAll made

end Making

theorem making_grows : Making Grows :=
  ⟨Grows.refl, Grows.trans, grows_put_directory⟩

theorem makeDirectory_grows {p : Path} (made : t.makeDirectory p = .ok t') : t.Grows t' :=
  making_grows.makeDirectory made

/-- A file that is there can be removed, and the directories stay. -/
theorem remove_of_has {p : Path} (has : t.Has p) :
    ∃ parent name, t.locate p = .ok (parent, some name) ∧
      t.remove p = .ok (t.erase (parent ++ [name])) ∧
      t.DirectoriesStay (t.erase (parent ++ [name])) := by
  obtain ⟨parent, name, leads, entry, found, file⟩ := has
  have notDirectory : t.get? (parent ++ [name]) ≠ some .directory := by
    rw [found]
    exact fun same => file (Option.some.inj same)
  refine ⟨parent, name, leads, ?_,
    directoriesStay_erase (List.concat_ne_nil name parent) notDirectory⟩
  unfold remove
  simp only [bind, Except.bind, leads, found]
  cases entry with
  | directory => exact absurd rfl file
  | file bytes => rfl
  | archive members => rfl

/-- A file that is there can be taken away, and is not there any more. -/
theorem exists_remove {p : Path} (has : t.Has p) :
    ∃ t', t.remove p = .ok t' ∧ ¬ t'.Has p ∧ t.DirectoriesStay t' := by
  obtain ⟨parent, name, leads, removed, stay⟩ := remove_of_has has
  refine ⟨_, removed, ?_, stay⟩
  rintro ⟨parent', name', leads', entry, found, -⟩
  rw [locate_of_directoriesStay stay leads] at leads'
  cases leads'
  rw [get?_erase (List.concat_ne_nil name parent), if_pos rfl] at found
  cases found

end FileTree

/-! ## Files of different names -/

/-- A name without slashes is no absolute path. -/
theorem Path.not_absolute_of_plain {name : String} (plain : '/' ∉ name.toList) :
    (name.toList.head? == some '/') = false := by
  rw [beq_eq_false_iff_ne]
  exact fun head => plain (List.mem_of_mem_head? head)

/-- The names of a path to something in a directory end in the name that was given; those before it
are the names of the path to the directory, but for what follows a slash at its end. -/
theorem Path.exists_names_join (p : Path) :
    ∃ before, (p.names = before ∨ p.names = before ++ [""]) ∧
      ∀ name : String, '/' ∉ name.toList → (p.join name).names = before ++ [name] := by
  have alone {name : String} (plain : '/' ∉ name.toList) :
      name.toList.splitOn '/' = [name.toList] := List.splitOn_eq_singleton plain
  have below (text : List Char) {name : String} (plain : '/' ∉ name.toList) :
      ((text ++ '/' :: name.toList).splitOn '/').map String.ofList =
        (text.splitOn '/').map String.ofList ++ [name] := by
    rw [List.splitOn_append_cons_self, alone plain, List.map_append]
    simp
  by_cases empty : p.text.isEmpty
  · refine ⟨[], .inr ?_, fun name plain => ?_⟩
    · rw [names, String.isEmpty_iff.mp empty]
      rfl
    · simp [join, names, empty, alone plain]
  by_cases closed : p.text.toList.getLast? = some '/'
  · obtain ⟨text, ends⟩ := List.getLast?_eq_some_iff.mp closed
    refine ⟨(text.splitOn '/').map String.ofList, .inr ?_, fun name plain => ?_⟩
    · rw [names, ends]
      exact @below text "" (by simp)
    · simp only [join, not_absolute_of_plain plain, empty, closed, names, Bool.or_self,
        Bool.false_eq_true, if_false, beq_self_eq_true, if_true]
      rw [String.toList_append, ends, List.append_assoc]
      exact below text plain
  · refine ⟨(p.text.toList.splitOn '/').map String.ofList, .inl rfl, fun name plain => ?_⟩
    simp only [join, not_absolute_of_plain plain, empty, closed, names, Bool.or_self,
      Bool.false_eq_true, if_false, beq_iff_eq]
    rw [String.toList_append, String.toList_append, List.append_assoc]
    exact below p.text.toList plain

/-- The last name of a path to something in a directory is the name that was given. -/
theorem Path.getLast?_names_join (p : Path) {name : String} (plain : '/' ∉ name.toList) :
    (p.join name).names.getLast? = some name := by
  obtain ⟨before, -, names⟩ := p.exists_names_join
  rw [names name plain, List.getLast?_concat]

/-- Where the path to something in a directory begins does not depend on the name. -/
theorem Path.start_join (p : Path) {name : String} (plain : '/' ∉ name.toList) :
    (p.join name).start = p.start := by
  by_cases empty : p.text.isEmpty
  · have text : p.text = "" := String.isEmpty_iff.mp empty
    simp [start, isAbsolute, join, text, not_absolute_of_plain plain]
  · have some_ : p.text.toList ≠ [] := fun none =>
      empty (String.isEmpty_iff.mpr (String.toList_eq_nil_iff.mp none))
    have same (rest : List Char) : (p.text.toList ++ rest).head? = p.text.toList.head? :=
      List.head?_append_of_ne_nil _ some_
    unfold join
    rw [not_absolute_of_plain plain, Bool.false_or, if_neg empty]
    split <;> simp only [start, isAbsolute, String.toList_append, List.append_assoc, same] <;> rfl

namespace FileTree

variable {t t' : FileTree}

/-- Storing a file of another name takes nothing away and adds nothing where a path leads. -/
theorem store_has_iff {p q : Path} {entry : Entry} {parent : List String} {name : String}
    (stored : t.store q entry = .ok t') (file : entry ≠ .directory)
    (leads : t.locate p = .ok (parent, some name)) (differ : p.names.getLast? ≠ q.names.getLast?) :
    t'.Has p ↔ t.Has p := by
  have grows := store_grows file stored
  refine ⟨?_, grows.has⟩
  obtain ⟨parent', name', leads', -, rfl⟩ := store_eq_ok_iff.mp stored
  have elsewhere : parent ++ [name] ≠ parent' ++ [name'] := by
    intro same
    have names : name = name' := by simpa using congrArg List.getLast? same
    obtain ⟨-, -, -, last, -⟩ := locate_eq_ok_iff.mp leads
    obtain ⟨-, -, -, last', -⟩ := locate_eq_ok_iff.mp leads'
    exact differ (by rw [last, last', names])
  rintro ⟨parent₂, name₂, leads₂, entry₂, found, isFile⟩
  cases (locate_of_directoriesStay grows.directories leads).symm.trans leads₂
  rw [get?_put (List.concat_ne_nil _ _), if_neg elsewhere] at found
  exact ⟨parent, name, leads, entry₂, found, isFile⟩

/-- Where a path leads is a matter of where all its names but the last lead. -/
theorem locate_congr {p : Path}
    (same : t'.walk p.start p.names.dropLast = t.walk p.start p.names.dropLast) :
    t'.locate p = t.locate p := by
  unfold locate
  rw [same]

section Directory

variable {directory : Path} {name other : String} {entry : Entry}

/-- Storing in a directory changes nothing about where the names in it lead. -/
theorem locate_join_of_store (plain : '/' ∉ name.toList) (plain' : '/' ∉ other.toList)
    (file : entry ≠ .directory) (stored : t.store (directory.join name) entry = .ok t') :
    t'.locate (directory.join other) = t.locate (directory.join other) := by
  have grows := store_grows file stored
  obtain ⟨parent, last, leads, -⟩ := store_eq_ok_iff.mp stored
  obtain ⟨-, -, walks, -⟩ := locate_eq_ok_iff.mp leads
  obtain ⟨before, -, names⟩ := directory.exists_names_join
  rw [directory.start_join plain, names name plain, List.dropLast_concat] at walks
  refine locate_congr ?_
  rw [directory.start_join plain', names other plain', List.dropLast_concat, walks]
  exact walk_of_directoriesStay grows.directories walks

/-- Storing in a directory changes what is read under that name and under no other. -/
theorem read_join_of_store (plain : '/' ∉ name.toList) (plain' : '/' ∉ other.toList)
    (file : entry ≠ .directory) (stored : t.store (directory.join name) entry = .ok t') :
    t'.read (directory.join other) =
      if other = name then .ok entry else t.read (directory.join other) := by
  have same := locate_join_of_store plain plain' file stored
  obtain ⟨parent, last, leads, -, rfl⟩ := store_eq_ok_iff.mp stored
  obtain ⟨-, -, -, lastName, -⟩ := locate_eq_ok_iff.mp leads
  rw [directory.getLast?_names_join plain, Option.some.injEq] at lastName
  subst lastName
  unfold read
  rw [same]
  by_cases here : other = name
  · subst here
    simp only [leads, bind, Except.bind, get?_put (List.concat_ne_nil other parent), if_true]
    cases entry with
    | directory => exact absurd rfl file
    | file bytes => rfl
    | archive members => rfl
  · rw [if_neg here]
    cases place : t.locate (directory.join other) with
    | error e => rfl
    | ok found =>
      obtain ⟨parent', _ | own⟩ := found
      · rfl
      · obtain ⟨-, -, -, lastName, -⟩ := locate_eq_ok_iff.mp place
        rw [directory.getLast?_names_join plain', Option.some.injEq] at lastName
        have elsewhere : parent' ++ [own] ≠ parent ++ [name] := by
          intro equal
          have names : own = name := by simpa using congrArg List.getLast? equal
          exact here (lastName.trans names)
        simp only [bind, Except.bind, get?_put (List.concat_ne_nil name parent), if_neg elsewhere]

end Directory

end FileTree

end PageScript
