import PageScript.Proofs.Files.Directories

/-!
# Disks that fail

An operation on files can fail for reasons that have nothing to do with paths, such as a disk that
is full, and it can fail part of the way: some of the directories on a path have been made, or some
of the bytes of a file have been written. A `Fault` says what goes wrong, `makeDirectoryOn` and
`writeOn` what then becomes of the files.

Whatever goes wrong, all that was there before stays as it was (`Keeps`), as long as nothing is
written to a file that is there already.

**What it does not establish.** What a disk leaves of a file that was there before it was written to
again.
-/

namespace PageScript.FileTree

variable {t t' u : FileTree} {p : Path}

/-! ## What stays as it is -/

/-- All that is there stays as it is. -/
def Keeps (t t' : FileTree) : Prop :=
  ∀ path entry, t.get? path = some entry → t'.get? path = some entry

namespace Keeps

theorem refl (t : FileTree) : t.Keeps t :=
  fun _ _ there => there

theorem trans (first : t.Keeps u) (next : u.Keeps t') : t.Keeps t' :=
  fun path entry there => next path entry (first path entry there)

theorem directoriesStay (keeps : t.Keeps t') : t.DirectoriesStay t' :=
  fun path there => keeps path .directory there

end Keeps

theorem keeps_put {path : List String} (some_ : path ≠ []) (free : t.get? path = none)
    (entry : Entry) : t.Keeps (t.put path entry) := by
  intro other old there
  have elsewhere : other ≠ path := by
    rintro rfl
    cases free.symm.trans there
  rw [get?_put some_, if_neg elsewhere, there]

theorem making_keeps : Making Keeps :=
  ⟨Keeps.refl, Keeps.trans, fun some_ free => keeps_put some_ free .directory⟩

/-- A file is read where a path leads. -/
theorem read_eq_ok_iff {entry : Entry} :
    t.read p = .ok entry ↔ ∃ parent name, t.locate p = .ok (parent, some name) ∧
      t.get? (parent ++ [name]) = some entry ∧ entry ≠ .directory := by
  unfold read
  simp only [bind, Except.bind, pure, Except.pure]
  cases leads : t.locate p with
  | error e => simp
  | ok place =>
    obtain ⟨parent, _ | name⟩ := place
    · simp
    · dsimp only
      cases found : t.get? (parent ++ [name]) with
      | none => simp [found]
      | some old =>
        cases old with
        | directory => simpa [found] using Eq.symm
        | file bytes =>
          have file (same : entry = .file bytes) : entry ≠ .directory := same ▸ nofun
          simpa [found, eq_comm] using file
        | archive members =>
          have file (same : entry = .archive members) : entry ≠ .directory := same ▸ nofun
          simpa [found, eq_comm] using file

/-- What could be read can be read as long as all stays as it is. -/
theorem Keeps.read (keeps : t.Keeps t') {entry : Entry} (reads : t.read p = .ok entry) :
    t'.read p = .ok entry := by
  obtain ⟨parent, name, leads, found, file⟩ := read_eq_ok_iff.mp reads
  exact read_eq_ok_iff.mpr ⟨parent, name, locate_of_directoriesStay keeps.directoriesStay leads,
    keeps _ _ found, file⟩

/-- It makes no difference to making directories if the first of them were made before. -/
theorem makeAll_of_makeAll_take {names here : List String} {n : Nat}
    (made : t.makeAll here (names.take n) = .ok t') :
    t'.makeAll here names = t.makeAll here names := by
  induction names generalizing t here n with
  | nil =>
    rw [List.take_nil] at made
    cases made
    rfl
  | cons name rest ih =>
    cases n with
    | zero =>
      cases made
      rfl
    | succ n =>
      obtain ⟨u, next, one, others⟩ := exists_makeOne_of_makeAll made
      have enters := enter_of_directoriesStay (making_keeps.makeAll others).directoriesStay
        (enter_of_makeOne one)
      have again : t'.makeOne here name = .ok (t', next) := by rw [makeOne, enters]
      rw [makeAll_cons_of_makeOne again, makeAll_cons_of_makeOne one]
      exact ih others

/-- It makes no difference to making a directory if some of those on the way were made before. -/
theorem makeDirectory_of_makeAll_take {n : Nat}
    (made : t.makeAll p.start (p.names.take n) = .ok t') :
    t'.makeDirectory p = t.makeDirectory p := by
  rw [makeDirectory, makeDirectory, makeAll_of_makeAll_take made]

/-! ## Operations on a disk with a fault -/

/-- What goes wrong on a disk, in words. -/
inductive Fault where
  /-- So many names of a path lead to directories or can be made; then it fails. -/
  | making (names : Nat) (why : String)
  /-- A file cannot be opened. -/
  | opening (why : String)
  /-- So many bytes of a file can be written, then it fails. -/
  | writing (bytes : Nat) (why : String)

/-- The files after an operation, or as they were, with why it did not work. -/
def settle (t : FileTree) : Except FileTrouble FileTree → FileTree × Option String
  | .ok t' => (t', none)
  | .error trouble => (t, some trouble.message)

theorem settle_cases (t : FileTree) (ended : Except FileTrouble FileTree) :
    (∃ t', ended = .ok t' ∧ t.settle ended = (t', none)) ∨
      ∃ why, t.settle ended = (t, some why) := by
  cases ended with
  | ok t' => exact .inl ⟨t', rfl, rfl⟩
  | error trouble => exact .inr ⟨trouble.message, rfl⟩

/-- Makes a directory on a disk that may have a fault. -/
def makeDirectoryOn (fault? : Option Fault) (t : FileTree) (p : Path) : FileTree × Option String :=
  match fault? with
  | some (.making n why) => ((t.settle (t.makeAll p.start (p.names.take n))).1, some why)
  | _ => t.settle (t.makeDirectory p)

/-- Writes a file on a disk that may have a fault. -/
def writeOn (fault? : Option Fault) (t : FileTree) (p : Path) (bytes : List UInt8) :
    FileTree × Option String :=
  match fault? with
  | some (.opening why) => (t, some why)
  | some (.writing n why) => ((t.settle (t.write p (bytes.take n))).1, some why)
  | _ => t.settle (t.write p bytes)

/-- Making a directory works, or it fails after some of those on the way, or none, were made. -/
theorem makeDirectoryOn_cases (fault? : Option Fault) (t : FileTree) (p : Path) :
    (∃ made, t.makeDirectory p = .ok made ∧ t.makeDirectoryOn fault? p = (made, none)) ∨
      ∃ t' why n, t.makeDirectoryOn fault? p = (t', some why) ∧
        t.makeAll p.start (p.names.take n) = .ok t' := by
  unfold makeDirectoryOn
  split
  · rename_i n why
    right
    rcases t.settle_cases (t.makeAll p.start (p.names.take n)) with
      ⟨t', made, settled⟩ | ⟨_, settled⟩ <;> rw [settled]
    · exact ⟨t', why, n, rfl, made⟩
    · exact ⟨t, why, 0, rfl, rfl⟩
  · rcases t.settle_cases (t.makeDirectory p) with ⟨t', made, settled⟩ | ⟨why, settled⟩
    · exact .inl ⟨t', made, settled⟩
    · exact .inr ⟨t, why, 0, settled, rfl⟩

/-- Writing a file works, or it fails and leaves the first of its bytes or nothing. -/
theorem writeOn_cases (fault? : Option Fault) (t : FileTree) (p : Path) (bytes : List UInt8) :
    (∃ t', t.write p bytes = .ok t' ∧ t.writeOn fault? p bytes = (t', none)) ∨
      ∃ t' why, t.writeOn fault? p bytes = (t', some why) ∧
        (t' = t ∨ ∃ n, t.write p (bytes.take n) = .ok t') := by
  unfold writeOn
  split
  · rename_i why
    exact .inr ⟨t, why, rfl, .inl rfl⟩
  · rename_i n why
    right
    rcases t.settle_cases (t.write p (bytes.take n)) with ⟨t', written, settled⟩ | ⟨_, settled⟩ <;>
      rw [settled]
    · exact ⟨t', why, rfl, .inr ⟨n, written⟩⟩
    · exact ⟨t, why, rfl, .inl rfl⟩
  · rcases t.settle_cases (t.write p bytes) with ⟨t', written, settled⟩ | ⟨why, settled⟩
    · exact .inl ⟨t', written, settled⟩
    · exact .inr ⟨t, why, settled, .inl rfl⟩

end PageScript.FileTree
