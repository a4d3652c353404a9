import PageScript.Run.Call
import PageScript.Capture.Response
import PageScript.Settings
import PageScript.Text.WordChar
import PageScript.Variables

/-!
# What a step does

Every step has one effect, or a reason why it cannot have it. `Step.effect` decides this from the
step, the settings and the variables alone, before anything is touched: a step with a fault in it
makes no call, and the call of a step without one is complete.
-/

namespace PageScript

/-- What a step does when it runs. -/
inductive Effect where
  /-- Calls the page; what it returns is not kept. -/
  | onPage (call : PageCall)
  /-- Evaluates an expression; its value is kept under the expression as the script has it. -/
  | evaluate (written filled : String)
  | act (instruction : String) (timeout : Nat)
  /-- Has data read off the page, which is kept. -/
  | extract (instruction : String) (timeout : Nat)
  | capture (rule : CaptureRule)
  /-- Does nothing for so many milliseconds. -/
  | pause (ms : Nat)

namespace Settings

/-- How long an operation on elements may take: what the step says if that is positive. -/
def elementTimeout (settings : Settings) (timeout : Option Nat) : Nat :=
  positiveOr timeout settings.domTimeout

/-- How long a navigation may take: what the step says if that is positive. -/
def navigationTimeout (settings : Settings) (timeout : Option Nat) : Nat :=
  positiveOr timeout settings.navTimeout

end Settings

/-- Whether an address is absolute: word characters, a colon with two slashes, and at least one
further character, none of them blank. -/
def isAbsoluteUrl (url : String) : Bool :=
  let s := url.toList
  match s.dropWhile Text.isWordChar with
  | ':' :: '/' :: '/' :: rest =>
    !(s.takeWhile Text.isWordChar).isEmpty && !rest.isEmpty && !Text.hasBlank rest
  | _ => false

namespace Step

/-- The address of a navigation. -/
def Navigate.absoluteUrl (s : Navigate) : Except Failure String :=
  let fault := Failure.validation ("Navigate: Invalid URL: " ++ displayValue s.url)
  match s.url with
  | some (.string url) => if isAbsoluteUrl url then .ok url else .error fault
  | _ => .error fault

/-- The rule of a capture. -/
def Capture.rule (s : Capture) : Except Failure CaptureRule :=
  let fault := Failure.validation ("Capture: Invalid match: " ++ displayValue s.url)
  match s.url with
  | some (.string url) =>
    if url.isEmpty then .error fault else .ok ⟨url, s.download, s.pretty⟩
  | _ => .error fault

/-- The instruction, which must not be blank. -/
def Prompt.instruction (s : Prompt) (fault : String) : Except Failure String :=
  match s.prompt with
  | some p => if Text.allBlank p.toList then .error (.validation fault) else .ok p
  | none => .error (.validation fault)

/-- A text that must be there and not empty. -/
def filledIn (text : Option String) (fault : String) : Except Failure String :=
  match text with
  | some t => if t.isEmpty then .error (.validation fault) else .ok t
  | none => .error (.validation fault)

/-- A page dimension of a step: positive and below 2 ^ 32. -/
def dimension? (n : Option Nat) : Option Nat :=
  n.filter fun n => 0 < n && n < 0x100000000

/-- The size a step sets. -/
def Viewport.size (s : Viewport) : Except Failure (Nat × Nat) :=
  match dimension? s.width, dimension? s.height with
  | some width, some height => .ok (width, height)
  | _, _ => .error (.validation "setViewport: width and/or height missing.")

/-- How long to do nothing. -/
def Sleep.positive (s : Sleep) : Except Failure Nat :=
  match s.duration with
  | some ms =>
    if 0 < ms then .ok ms
    else .error (.validation "Sleep: Missing duration (ms) to sleep for.")
  | none => .error (.validation "Sleep: Missing duration (ms) to sleep for.")

/-- The effect of a click of so many counts. -/
def Click.effect (s : Click) (settings : Settings) (kind : String) (count : Nat) :
    Except Failure Effect := do
  let target ← Target.ofSelectors kind s.selectors
  return .onPage (.click target (settings.elementTimeout s.timeout) s.offset count)

/-- The effect of a step, `none` if it is passed over; or why it cannot run. -/
def effect (settings : Settings) (vars : Variables) : Step → Except Failure (Option Effect)
  | .navigate s => do
    let url ← s.absoluteUrl
    return some (.onPage (.goto url (settings.navigationTimeout s.timeout)
      (s.waitUntil.getD .load)))
  | .reload s =>
    .ok (some (.onPage (.reload (settings.navigationTimeout s.timeout) (s.waitUntil.getD .load))))
  | .capture s => do
    let rule ← s.rule
    return some (.capture rule)
  | .action s => do
    let instruction ← s.instruction "Action: No prompt specified."
    return some (.act instruction (settings.elementTimeout s.timeout))
  | .extract s => do
    let instruction ← s.instruction "Extract: No prompt specified."
    return some (.extract instruction (settings.elementTimeout s.timeout))
  | .setViewport s => do
    let (width, height) ← s.size
    return some (.onPage (.setViewport width height))
  | .click s => do
    let effect ← s.effect settings "click" 1
    return some effect
  | .doubleClick s => do
    let effect ← s.effect settings "doubleClick" 2
    return some effect
  | .change s => do
    let target ← Target.ofSelectors "change" s.selectors
    let value ← vars.interpolate s.valueText
    return some (.onPage (.fill target value (settings.elementTimeout s.timeout)))
  | .keyDown s => do
    let key ← filledIn s.key "keyDown: Missing key to hit."
    return some (.onPage (.keyDown key))
  | .keyUp s => do
    let key ← filledIn s.key "keyUp: Missing key to release."
    return some (.onPage (.keyUp key))
  | .text s => do
    let text ← filledIn s.content "Text: Missing text to enter."
    let filled ← vars.interpolate text
    return some (.onPage (.insertText filled))
  | .evaluate s => do
    let script ← filledIn s.script "Evaluate: Missing script code to execute."
    let filled ← vars.interpolate script
    return some (.evaluate script filled)
  | .sleep s => do
    let ms ← s.positive
    return some (.pause ms)
  | .waitFor s => do
    let target ← Target.ofSelectors "waitFor" s.selectors
    return some (.onPage (.waitFor target (s.state.getD .visible)
      (settings.elementTimeout s.timeout)))
  | .unknown _ => .ok none
  | .invalid kind reason => .error (invalidFailure kind reason)

end Step

end PageScript
