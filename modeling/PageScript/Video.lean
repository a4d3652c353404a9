import PageScript.Text.Blank

/-!
# Recording policy

Whether a run is recorded on video and whether the recording is kept. Any word but the two known
ones asks for a recording that is thrown away when the run is over.
-/

namespace PageScript

/-- What happens with a video of the run. -/
inductive VideoMode where
  | none
  /-- The run is recorded and the recording kept. -/
  | always
  /-- The run is recorded and the recording thrown away. -/
  | discard (word : String)
  deriving DecidableEq, Repr, Inhabited

namespace VideoMode

/-- The mode that a word asks for, blanks and letter case left aside. -/
def ofWord? (word : Option String) : VideoMode :=
  match word with
  | Option.none => .none
  | some w =>
    let w := String.ofList ((Text.trim w.toList).map Char.toLower)
    if w = "" || w = "none" then .none
    else if w = "always" then .always
    else .discard w

/-- Whether the run is recorded. -/
def records : VideoMode → Bool
  | .none => false
  | _ => true

/-- Whether the recording is kept. -/
def keeps : VideoMode → Bool
  | .always => true
  | _ => false

end VideoMode

end PageScript
