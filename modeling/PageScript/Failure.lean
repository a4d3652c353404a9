import PageScript.Text.Digits

/-!
# How a run fails

Every way in which preparing or running a job can fail, with the wording of each.
`Failure.isValidation` tells the failures that are found in the job itself, before anything has
touched the page.
-/

namespace PageScript

/-- Why a job or one of its steps failed. -/
inductive Failure where
  /-- The job document cannot be used. -/
  | invalidInput (reason : String)
  /-- A document inside the job or a captured body is not the JSON it should be. -/
  | unreadable (reason : String)
  /-- A step lacks something or holds something unusable. -/
  | validation (reason : String)
  /-- A placeholder names a variable that has no value. -/
  | missingVariable (name : String)
  /-- A page could not be reached. -/
  | navigationFailed (reason : String)
  /-- No element answers to the selectors. -/
  | elementNotFound (what : String)
  /-- A wait took longer than allowed. -/
  | timeout (ms : Nat) (what : String)
  /-- An operation on the page failed. -/
  | actionFailed (reason : String)
  /-- The page did not hold what was asked for. -/
  | extractionFailed (prompt : String)
  /-- The language model could not be asked, or its answer could not be used. -/
  | model (reason : String)
  /-- The browser could not be started. -/
  | launchFailed (reason : String)
  /-- The connection to the browser failed. -/
  | connection (reason : String)
  /-- A file or directory could not be read or written. -/
  | storage (reason : String)
  | other (reason : String)
  deriving DecidableEq, Repr, Inhabited

namespace Failure

/-- The failure in words. -/
def message : Failure → String
  | .invalidInput reason => "Invalid job input: " ++ reason
  | .unreadable reason => "Failed to parse script JSON: " ++ reason
  | .validation reason => reason
  | .missingVariable name => "Environment variable not found: " ++ name
  | .navigationFailed reason => "Navigation failed: " ++ reason
  | .elementNotFound what => "Element not found: " ++ what
  | .timeout ms what =>
    "Timeout " ++ String.ofList (Text.decimal ms) ++ "ms exceeded while " ++ what
  | .actionFailed reason => "Action failed: " ++ reason
  | .extractionFailed prompt => "Extraction failed: " ++ prompt
  | .model reason => "AI executor error: " ++ reason
  | .launchFailed reason => "Failed to launch Chrome: " ++ reason
  | .connection reason => "CDP error: " ++ reason
  | .storage reason => "I/O error: " ++ reason
  | .other reason => reason

/-- Whether the failure lies in the job itself: its document, its script, a step's fields or a
variable without a value. -/
def isValidation : Failure → Bool
  | .invalidInput _ | .unreadable _ | .validation _ | .missingVariable _ => true
  | _ => false

end Failure

end PageScript
