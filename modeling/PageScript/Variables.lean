import PageScript.Failure
import PageScript.Text.WordChar

/-!
# Variables and placeholders

A text may refer to variables by placeholders `%NAME%`, the name being one or more word
characters. `Placeholder.pieces` cuts a text into literal characters and placeholders, from the
left and without overlap; `Variables.interpolate` puts the values in, which are not looked at
again, and refuses the first name without a value; `Variables.referencedNames` lists the names
of a text that have one.
-/

namespace PageScript

/-- Named values for the placeholders of a script. -/
structure Variables where
  /-- Names with their values; of equal names the last counts. -/
  entries : List (String × String)
  deriving DecidableEq, Repr, Inhabited

namespace Placeholder

/-- A piece of a text with placeholders. -/
inductive Piece where
  /-- A character that stands for itself. -/
  | literal (c : Char)
  | name (name : List Char)
  deriving DecidableEq, Repr

/-- The name and the rest, in a text that follows an opening percent sign. -/
def name? (s : List Char) : Option (List Char × List Char) :=
  let name := s.takeWhile Text.isWordChar
  match s.dropWhile Text.isWordChar with
  | '%' :: rest => if name.isEmpty then none else some (name, rest)
  | _ => none

theorem length_of_name? {s name rest : List Char} (h : name? s = some (name, rest)) :
    rest.length < s.length := by
  have hs := (List.dropWhile_suffix Text.isWordChar (l := s)).length_le
  simp only [name?] at h
  split at h
  · rename_i r hr
    rw [hr] at hs
    simp only [List.length_cons] at hs
    split at h
    · cases h
    · injection h with h; injection h with _ h; subst h; omega
  · cases h

/-- The pieces of a text, from left to right. -/
def pieces : List Char → List Piece
  | [] => []
  | c :: s =>
    if c = '%' then
      match _h : name? s with
      | some (name, rest) => .name name :: pieces rest
      | none => .literal c :: pieces s
    else .literal c :: pieces s
termination_by s => s.length
decreasing_by
  · have := length_of_name? _h; simp only [List.length_cons]; omega
  · simp
  · simp

/-- The names of a text's placeholders, in order and with repetitions. -/
def names (s : List Char) : List String :=
  (pieces s).filterMap fun
    | .literal _ => none
    | .name n => some (String.ofList n)

end Placeholder

namespace Variables

/-- No variables. -/
def empty : Variables := ⟨[]⟩

/-- The value of a variable. -/
def get? (vars : Variables) (name : String) : Option String :=
  (vars.entries.reverse.find? (·.1 == name)).map (·.2)

/-- The value of a variable, an empty one counting as none. -/
def value? (vars : Variables) (name : String) : Option String :=
  (vars.get? name).filter (!·.isEmpty)

/-- The text of pieces with every placeholder replaced by its value. -/
def fill (vars : Variables) : List Placeholder.Piece → Except Failure (List Char)
  | [] => .ok []
  | .literal c :: rest => do
    let tail ← vars.fill rest
    return c :: tail
  | .name n :: rest =>
    match vars.value? (String.ofList n) with
    | none => .error (.missingVariable (String.ofList n))
    | some value => do
      let tail ← vars.fill rest
      return value.toList ++ tail

/-- Replaces every placeholder of a text by its value. -/
def interpolate (vars : Variables) (text : String) : Except Failure String := do
  let filled ← vars.fill (Placeholder.pieces text.toList)
  return String.ofList filled

/-- The names a text refers to that have a value, in order of first appearance. -/
def referencedNames (vars : Variables) (text : String) : List String :=
  (Placeholder.names text.toList).foldl
    (fun seen name =>
      if (vars.value? name).isSome && !seen.contains name then seen ++ [name] else seen)
    []

end Variables

end PageScript
