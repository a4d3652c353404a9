import PageScript.Step

/-!
# Calls

What a run asks of its surroundings: operations on the page, and instructions to an assistant that
carries them out on the page or reads data off it. A call is complete when it is made: its target
has an alternative, its texts are filled in, its timeout is decided.
-/

namespace PageScript

/-- An operation on the page. -/
inductive PageCall where
  /-- Open an address and wait until the navigation counts as finished. -/
  | goto (url : String) (timeout : Nat) (waitUntil : WaitUntil)
  /-- Load the page again and wait until that counts as finished. -/
  | reload (timeout : Nat) (waitUntil : WaitUntil)
  /-- Set the size of the page. -/
  | setViewport (width height : Nat)
  /-- Wait for an element to be visible and click it, at its centre or at an offset, so many
  times. -/
  | click (target : Target) (timeout : Nat) (offset : Option (Float × Float)) (count : Nat)
  /-- Wait for an element to be visible and replace its value. -/
  | fill (target : Target) (value : String) (timeout : Nat)
  | keyDown (key : String)
  | keyUp (key : String)
  /-- Insert a text where the focus is. -/
  | insertText (text : String)
  | evaluate (script : String)
  /-- Wait for an element to reach a state. -/
  | waitFor (target : Target) (state : ElementState) (timeout : Nat)
  | scrollBy (dx dy : Float)
  deriving DecidableEq, Repr

/-- A call of a run. -/
inductive Call where
  | page (call : PageCall)
  /-- An instruction to carry out, with the names of the variables it may use. -/
  | act (instruction : String) (timeout : Nat) (names : List String)
  /-- An instruction to read data off the page. -/
  | extract (instruction : String) (timeout : Nat)
  deriving DecidableEq, Repr

/-- What carrying out an instruction led to. -/
structure ActOutcome where
  success : Bool
  description : String
  message : String
  deriving DecidableEq, Repr, Inhabited

end PageScript
