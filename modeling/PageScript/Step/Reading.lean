import PageScript.Step

/-!
# Reading steps

A step of a structured script is an object whose `type` names its kind. Reading never fails: a
kind that is not known gives `Step.unknown`, and a known one whose `waitUntil` or `state` is none
of its words gives `Step.invalid`. All other fields are read forgivingly.
-/

namespace PageScript.Step

/-- The kinds that have a meaning. -/
def knownKinds : List String :=
  ["navigate", "reload", "capture", "action", "extract", "setViewport", "click", "doubleClick",
   "change", "keyDown", "keyUp", "text", "evaluate", "sleep", "waitFor"]

/-- The value of a field that is there and not `null`. -/
def present? (v : Json) (name : String) : Option Json :=
  (v.field? name).filter (!·.isNull)

/-- A natural number in a field. -/
def natural? (v : Json) (name : String) : Option Nat :=
  (v.field? name).bind Lenient.natural?

/-- A floating-point number in a field. -/
def float? (v : Json) (name : String) : Option Float :=
  (v.field? name).bind Lenient.float?

/-- A text in a field. -/
def text? (v : Json) (name : String) : Option String :=
  (v.field? name).bind Lenient.text?

/-- A flag in a field. -/
def flag (v : Json) (name : String) : Bool :=
  (v.field? name).any Lenient.flag

/-- One of several words in a field that may be absent. -/
def choice? (choices : List (String × α)) (v : Json) (name : String) :
    Except Json.Mismatch (Option α) :=
  match present? v name with
  | none => .ok none
  | some w => (w.asChoice true choices).map some

/-- What an instruction step holds. -/
def prompt (v : Json) : Prompt :=
  { prompt := text? v "prompt", timeout := natural? v "timeout" }

/-- What a click step holds. -/
def clicking (v : Json) : Click :=
  { selectors := present? v "selectors"
    offsetX := float? v "offsetX"
    offsetY := float? v "offsetY"
    timeout := natural? v "timeout" }

/-- A step of a known kind, or what is wrong with it. -/
def ofKind (kind : String) (v : Json) : Except Json.Mismatch Step :=
  match kind with
  | "navigate" => do
    let waitUntil ← choice? WaitUntil.choices v "waitUntil"
    return .navigate
      { url := present? v "url", timeout := natural? v "timeout", waitUntil := waitUntil }
  | "reload" => do
    let waitUntil ← choice? WaitUntil.choices v "waitUntil"
    return .reload { timeout := natural? v "timeout", waitUntil := waitUntil }
  | "capture" =>
    .ok (.capture
      { url := present? v "url", download := flag v "download", pretty := flag v "pretty" })
  | "action" => .ok (.action (prompt v))
  | "extract" => .ok (.extract (prompt v))
  | "setViewport" =>
    .ok (.setViewport { width := natural? v "width", height := natural? v "height" })
  | "click" => .ok (.click (clicking v))
  | "doubleClick" => .ok (.doubleClick (clicking v))
  | "change" =>
    .ok (.change
      { selectors := present? v "selectors"
        value := present? v "value"
        timeout := natural? v "timeout" })
  | "keyDown" => .ok (.keyDown { key := text? v "key" })
  | "keyUp" => .ok (.keyUp { key := text? v "key" })
  | "text" => .ok (.text { text := text? v "text", value := text? v "value" })
  | "evaluate" => .ok (.evaluate { script := text? v "script" })
  | "sleep" => .ok (.sleep { duration := natural? v "duration" })
  | "waitFor" => do
    let state ← choice? ElementState.choices v "state"
    return .waitFor
      { selectors := present? v "selectors", state := state, timeout := natural? v "timeout" }
  | kind => .ok (.unknown kind)

/-- The kind a document names, empty if it names none. -/
def kindOf (v : Json) : String :=
  ((v.field? "type").bind Json.text?).getD ""

/-- The step that a document describes. -/
def ofJson (v : Json) : Step :=
  let kind := kindOf v
  match ofKind kind v with
  | .ok s => s
  | .error m => .invalid kind m.message

end PageScript.Step
