import PageScript.Target
import PageScript.Lenient

/-!
# Steps

One unit of a compiled script, for each kind of step what it holds. What a step must hold in order
to run is optional here: a step that lacks it fails when it is reached, so the steps before it
still run. Reading a step from a document is in `Step.Reading`.
-/

namespace PageScript

/-- When a navigation counts as finished. -/
inductive WaitUntil where
  /-- The page and everything in it has loaded. -/
  | load
  | domContentLoaded
  /-- No request has been under way for a while. -/
  | networkIdle
  /-- The browser has begun to show the new document. -/
  | commit
  deriving DecidableEq, Repr, Inhabited

namespace WaitUntil

/-- The word for a condition. -/
def name : WaitUntil → String
  | .load => "load"
  | .domContentLoaded => "domcontentloaded"
  | .networkIdle => "networkidle"
  | .commit => "commit"

/-- The conditions by their words. -/
def choices : List (String × WaitUntil) :=
  [.load, .domContentLoaded, .networkIdle, .commit].map fun w => (w.name, w)

/-- The event of the page's life that meets the condition; none has to be waited for when the
navigation has been committed already. -/
def event? : WaitUntil → Option String
  | .load => some "load"
  | .domContentLoaded => some "DOMContentLoaded"
  | .networkIdle => some "networkIdle"
  | .commit => none

end WaitUntil

namespace Step

/-- Opening a page. -/
structure Navigate where
  /-- Where to; has to be an absolute address. -/
  url : Option Json
  /-- How long it may take, in milliseconds. -/
  timeout : Option Nat
  waitUntil : Option WaitUntil
  deriving Inhabited

/-- Loading the page again. -/
structure Reload where
  /-- How long it may take, in milliseconds. -/
  timeout : Option Nat
  waitUntil : Option WaitUntil
  deriving Inhabited

/-- Capturing the responses to certain requests from now on. -/
structure Capture where
  /-- A part of the addresses to capture. -/
  url : Option Json
  download : Bool
  /-- Whether files are laid out for reading. -/
  pretty : Bool
  deriving Inhabited

/-- An instruction in natural language. -/
structure Prompt where
  prompt : Option String
  /-- How long an operation on the page may take, in milliseconds. -/
  timeout : Option Nat
  deriving Inhabited

/-- Setting the size of the page. -/
structure Viewport where
  width : Option Nat
  height : Option Nat
  deriving Inhabited

/-- A click or a double click. -/
structure Click where
  /-- The selector groups of the element. -/
  selectors : Option Json
  /-- Distance from the left edge of the element. -/
  offsetX : Option Float
  /-- Distance from the top edge of the element. -/
  offsetY : Option Float
  /-- How long the element may take to appear, in milliseconds. -/
  timeout : Option Nat
  deriving Inhabited

/-- Giving a form element a value. -/
structure Change where
  /-- The selector groups of the element. -/
  selectors : Option Json
  value : Option Json
  /-- How long the element may take to appear, in milliseconds. -/
  timeout : Option Nat
  deriving Inhabited

/-- Pressing or releasing a key. -/
structure Key where
  key : Option String
  deriving Inhabited

/-- Typing a text. -/
structure Typing where
  text : Option String
  value : Option String
  deriving Inhabited

/-- Evaluating an expression in the page. -/
structure Evaluate where
  script : Option String
  deriving Inhabited

/-- Doing nothing for a while. -/
structure Sleep where
  duration : Option Nat
  deriving Inhabited

/-- Waiting for an element to reach a state. -/
structure WaitFor where
  /-- The selector groups of the element. -/
  selectors : Option Json
  state : Option ElementState
  /-- How long it may take, in milliseconds. -/
  timeout : Option Nat
  deriving Inhabited

end Step

/-- One unit of a compiled script. -/
inductive Step where
  | navigate (s : Step.Navigate)
  | reload (s : Step.Reload)
  | capture (s : Step.Capture)
  | action (s : Step.Prompt)
  | extract (s : Step.Prompt)
  /-- Set the size of the page. -/
  | setViewport (s : Step.Viewport)
  | click (s : Step.Click)
  | doubleClick (s : Step.Click)
  /-- Give a form element a value. -/
  | change (s : Step.Change)
  | keyDown (s : Step.Key)
  | keyUp (s : Step.Key)
  | text (s : Step.Typing)
  | evaluate (s : Step.Evaluate)
  | sleep (s : Step.Sleep)
  | waitFor (s : Step.WaitFor)
  /-- A kind that is not known; it is passed over. -/
  | unknown (kind : String)
  /-- A known kind with a field that cannot be used; it fails when it is reached. -/
  | invalid (kind reason : String)
  deriving Inhabited

namespace Step

/-- Where to click within the element; needs both distances. -/
def Click.offset (s : Click) : Option (Float × Float) :=
  match s.offsetX, s.offsetY with
  | some x, some y => some (x, y)
  | _, _ => none

/-- The value as a text, empty when there is none. -/
def Change.valueText (s : Change) : String :=
  match s.value with
  | none | some .null => ""
  | some (.string t) => t
  | some v => v.print

/-- The text to type: `text`, or else `value`, whichever is there and not empty. -/
def Typing.content (s : Typing) : Option String :=
  (s.text.filter (!·.isEmpty)).or (s.value.filter (!·.isEmpty))

/-- The name of the step's kind. -/
def kind : Step → String
  | .navigate _ => "navigate"
  | .reload _ => "reload"
  | .capture _ => "capture"
  | .action _ => "action"
  | .extract _ => "extract"
  | .setViewport _ => "setViewport"
  | .click _ => "click"
  | .doubleClick _ => "doubleClick"
  | .change _ => "change"
  | .keyDown _ => "keyDown"
  | .keyUp _ => "keyUp"
  | .text _ => "text"
  | .evaluate _ => "evaluate"
  | .sleep _ => "sleep"
  | .waitFor _ => "waitFor"
  | .unknown kind => kind
  | .invalid kind _ => kind

/-- A field of any type in messages: a text as it is, anything else as JSON. -/
def displayValue : Option Json → String
  | none => "(none)"
  | some (.string s) => s
  | some v => v.print

/-- A count in messages, zero when there is none. -/
def displayCount (n : Option Nat) : String :=
  String.ofList (Text.decimal (n.getD 0))

/-- What the step does, for the progress log. -/
def describe : Step → String
  | .navigate s => "Navigating to: " ++ displayValue s.url
  | .reload _ => "Reloading page."
  | .capture s => "Capturing network requests for: " ++ displayValue s.url
  | .action s => "Taking action: " ++ s.prompt.getD ""
  | .extract s => "Extracting data: " ++ s.prompt.getD ""
  | .setViewport s =>
    "Setting viewport size: " ++ displayCount s.width ++ "x" ++ displayCount s.height
  | .click s => "Clicking on: " ++ Target.describeGroups s.selectors
  | .doubleClick s => "Double-clicking on: " ++ Target.describeGroups s.selectors
  | .change s =>
    "Changing form element: " ++ Target.describeGroups s.selectors ++ " to: " ++ s.valueText
  | .keyDown s => "Pressing key: " ++ s.key.getD ""
  | .keyUp s => "Releasing key: " ++ s.key.getD ""
  | .text s => "Typing text: " ++ s.content.getD ""
  | .evaluate s => "Evaluating JavaScript: " ++ s.script.getD ""
  | .sleep s => "Sleeping for " ++ displayCount s.duration ++ "ms."
  | .waitFor s => "Waiting for: " ++ Target.describeGroups s.selectors
  | .unknown kind => "Unknown step type: " ++ kind
  | .invalid kind _ => "Malformed " ++ kind ++ " step."

/-- The failure of a step of a known kind that holds something unusable. -/
def invalidFailure (kind reason : String) : Failure :=
  .validation ("Invalid '" ++ kind ++ "' step: " ++ reason)

end Step

end PageScript
