import Mathlib.Data.List.Forall2
import PageScript.Model.InferenceLog

/-!
# Exchanges kept at different times

The file of an exchange holds the time at which the exchange was kept. Two file trees that have
the same paths, with the same at each of them but for such times (`FileTree.SameButTimes`), cannot
be told apart by what a run does with files: a path is followed alike in both, writing fails alike
in both, and keeping an exchange in both gives two trees of this kind again
(`InferenceLog.record_sameButTimes`).

**What it does not establish.** Files are compared as they are at the end of a change, not while it
is going on.
-/

namespace PageScript

namespace Model.InferenceLog

/-- The bytes of the file of an exchange. -/
def bytes (purpose timestamp : String) (request response : Json) : List UInt8 :=
  Text.encode (entry purpose timestamp request response).printIndented.toList

end Model.InferenceLog

/-- The same entry, or the files of one exchange kept at two times. -/
inductive Entry.SameButTime : Entry → Entry → Prop where
  | same (entry : Entry) : SameButTime entry entry
  | exchange (purpose time time' : String) (request response : Json) :
    SameButTime (.file (Model.InferenceLog.bytes purpose time request response))
      (.file (Model.InferenceLog.bytes purpose time' request response))

namespace FileTree

/-- The same paths lead to the same entries, but for the times of exchanges. -/
def SameButTimes (t t' : FileTree) : Prop :=
  List.Forall₂ (fun e e' => e.1 = e'.1 ∧ e.2.SameButTime e'.2) t.entries t'.entries

/-- A tree is the same as itself. -/
theorem sameButTimes_refl (t : FileTree) : t.SameButTimes t :=
  List.forall₂_same.mpr fun _ _ => ⟨rfl, .same _⟩

/-- Two operations fail with the same trouble, or give what is related. -/
inductive EndAlike (R : α → β → Prop) : Except FileTrouble α → Except FileTrouble β → Prop where
  | ok {a : α} {b : β} : R a b → EndAlike R (.ok a) (.ok b)
  | error (trouble : FileTrouble) : EndAlike R (.error trouble) (.error trouble)

namespace SameButTimes

variable {t t' : FileTree}

/-- Both trees have the same at every path, but for times. -/
theorem get? (same : t.SameButTimes t') (path : List String) :
    Option.Rel Entry.SameButTime (t.get? path) (t'.get? path) := by
  unfold FileTree.get?
  split
  · exact .some (.same _)
  · obtain ⟨entries⟩ := t
    obtain ⟨entries'⟩ := t'
    simp only [SameButTimes] at same ⊢
    induction same with
    | nil => exact .none
    | @cons e e' rest rest' here _ ih =>
      rw [List.find?_cons, List.find?_cons, here.1]
      cases e'.1 == path with
      | true => exact .some here.2
      | false => exact ih

/-- Putting the same at a path of both trees keeps them the same. -/
theorem put (same : t.SameButTimes t') (path : List String) {e e' : Entry}
    (entries : e.SameButTime e') : (t.put path e).SameButTimes (t'.put path e') := by
  have kept : List.Forall₂ (fun e e' => e.1 = e'.1 ∧ e.2.SameButTime e'.2)
      (t.entries.filter (·.1 != path)) (t'.entries.filter (·.1 != path)) := by
    refine List.rel_filter (fun a b here => ?_) same
    simp only [here.1]
  exact .cons ⟨rfl, entries⟩ kept

/-- Names are followed alike, because what stands at a path is a directory in both trees or in
neither. -/
theorem enter (same : t.SameButTimes t') (here : List String) (name : String) :
    t.enter here name = t'.enter here name := by
  have found := same.get? (here ++ [name])
  unfold FileTree.enter
  generalize t.get? (here ++ [name]) = a, t'.get? (here ++ [name]) = b at found
  cases found with
  | none => rfl
  | some entries => cases entries <;> rfl

/-- A path leads to the same place in both trees. -/
theorem walk (same : t.SameButTimes t') (names here : List String) :
    t.walk here names = t'.walk here names := by
  induction names generalizing here with
  | nil => rfl
  | cons name rest ih =>
    rw [FileTree.walk, FileTree.walk, same.enter]
    cases t'.enter here name with
    | error e => rfl
    | ok next => exact ih next

/-- A path is located alike in both trees. -/
theorem locate (same : t.SameButTimes t') (p : Path) : t.locate p = t'.locate p := by
  simp only [FileTree.locate, same.walk]

/-- Storing goes the same way in both trees. -/
theorem store (same : t.SameButTimes t') (p : Path) {e e' : Entry}
    (entries : e.SameButTime e') : EndAlike SameButTimes (t.store p e) (t'.store p e') := by
  unfold FileTree.store
  rw [same.locate]
  cases t'.locate p with
  | error trouble => exact .error trouble
  | ok place =>
    obtain ⟨parent, name⟩ := place
    cases name with
    | none => exact .error _
    | some name =>
      have found := same.get? (parent ++ [name])
      have stored : EndAlike SameButTimes (.ok (t.put (parent ++ [name]) e))
          (.ok (t'.put (parent ++ [name]) e')) := .ok (same.put _ entries)
      simp only [bind, Except.bind]
      generalize t.get? (parent ++ [name]) = a, t'.get? (parent ++ [name]) = b at found
      cases found with
      | none => exact stored
      | @some old old' olds =>
        cases olds with
        | exchange => exact stored
        | same =>
          cases old with
          | directory => exact .error _
          | file | archive => exact stored

/-- One directory is made alike in both trees. -/
theorem makeOne (same : t.SameButTimes t') (here : List String) (name : String) :
    EndAlike (fun made made' => made.1.SameButTimes made'.1 ∧ made.2 = made'.2)
      (t.makeOne here name) (t'.makeOne here name) := by
  unfold FileTree.makeOne
  rw [same.enter]
  cases t'.enter here name with
  | ok next => exact .ok ⟨same, rfl⟩
  | error trouble =>
    cases trouble with
    | notFound => exact .ok ⟨same.put _ (.same _), rfl⟩
    | _ => exact .error _

/-- Directories are made alike in both trees. -/
theorem makeAll (same : t.SameButTimes t') (names here : List String) :
    EndAlike SameButTimes (t.makeAll here names) (t'.makeAll here names) := by
  induction names generalizing t t' here with
  | nil => exact .ok same
  | cons name rest ih =>
    have made := same.makeOne here name
    -- The last name is told apart: a file that stands there is another trouble than one on the way.
    cases rest with
    | nil =>
      unfold FileTree.makeAll
      generalize t.makeOne here name = a, t'.makeOne here name = b at made
      cases made with
      | ok trees => exact .ok trees.1
      | error trouble => cases trouble <;> exact .error _
    | cons next rest =>
      simp only [FileTree.makeAll, bind, Except.bind]
      generalize t.makeOne here name = a, t'.makeOne here name = b at made
      cases made with
      | @ok made made' trees =>
        obtain ⟨trees, place⟩ := trees
        simp only [place]
        exact ih trees _
      | error trouble => exact .error trouble

/-- A path of directories is made alike in both trees. -/
theorem makeDirectory (same : t.SameButTimes t') (p : Path) :
    EndAlike SameButTimes (t.makeDirectory p) (t'.makeDirectory p) := by
  unfold FileTree.makeDirectory
  split
  · exact .error _
  · exact same.makeAll _ _

end SameButTimes

end FileTree

namespace Model.InferenceLog

/-- Keeping an exchange at two times in two trees of this kind works alike, or not at all for the
same reason, and leaves two trees of this kind. -/
theorem record_sameButTimes {t t' : FileTree} (same : t.SameButTimes t') (log : InferenceLog)
    (purpose time time' : String) (request response : Json) :
    let one := log.record t purpose time request response
    let other := log.record t' purpose time' request response
    one.1 = other.1 ∧ one.2.1.SameButTimes other.2.1 ∧ one.2.2 = other.2.2 := by
  simp only [record]
  have made := same.makeDirectory log.directory
  generalize t.makeDirectory log.directory = a, t'.makeDirectory log.directory = b at made
  cases made with
  | error trouble => exact ⟨rfl, same, rfl⟩
  | @ok u u' made =>
    have entries := Entry.SameButTime.exchange purpose time time' request response
    have written := made.store (log.directory.join (fileName log.next purpose)) entries
    simp only [FileTree.write]
    simp only [bytes] at written
    generalize u.store _ _ = a, u'.store _ _ = b at written ⊢
    cases written with
    | ok written => exact ⟨rfl, written, rfl⟩
    | error trouble => exact ⟨rfl, made, rfl⟩

end Model.InferenceLog

end PageScript
