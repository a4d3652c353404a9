import PageScript.Chrome.Connection
import PageScript.Chrome.Navigation

/-!
# Operating the page

How each call of a run is carried out: which commands it takes, what it waits for and how it can
fail. Elements are waited for by evaluating the script that finds them again and again; a click is
a move of the mouse and then, as often as asked for, a press and a release.
-/

namespace PageScript.Chrome

/-- The place of an element in the window. -/
structure ElementBox where
  x : Float
  y : Float
  width : Float
  height : Float
  deriving Repr

namespace ElementBox

/-- What is expected of a value that tells the place of an element. -/
def expected : String := "struct ElementBox"

/-- The names of the numbers, in their order. -/
def names : List String := ["x", "y", "width", "height"]

/-- The number of a name among numbers. -/
def number (name : String) (numbers : List (String × Float)) : Except Json.Mismatch Float :=
  match numbers.find? (·.1 == name) with
  | some (_, x) => .ok x
  | none => .error (.missingField name)

/-- The numbers among fields, in the order of the fields. -/
def numbersOf : List (String × Json) → Except Json.Mismatch (List (String × Float))
  | [] => .ok []
  | (name, v) :: rest =>
    if names.contains name then do
      let x ← v.asFloat
      let others ← numbersOf rest
      return (name, x) :: others
    else numbersOf rest

/-- The place that a value tells: four numbers by their names, or in their order. -/
def ofJson : Json → Except Json.Mismatch ElementBox
  | .object fields => do
    let numbers ← numbersOf fields
    return ⟨← number "x" numbers, ← number "y" numbers, ← number "width" numbers,
      ← number "height" numbers⟩
  | .array [x, y, width, height] => do
    return ⟨← x.asFloat, ← y.asFloat, ← width.asFloat, ← height.asFloat⟩
  | .array items => do
    for v in items.take names.length do
      let _ ← v.asFloat
    if items.length < names.length then
      .error (.wrongLength items.length (expected ++ " with 4 elements"))
    else .error (.wrongLength items.length "fewer elements in array")
  | v => v.mismatch expected

/-- The centre, as a distance from the corner. -/
def centre (b : ElementBox) : Float × Float :=
  (b.width / 2, b.height / 2)

end ElementBox

/-- The wait for an element of a target. -/
def waitingFor (target : Target) (state : String) : String :=
  "waiting for " ++ target.display ++ " to be " ++ state

namespace Talk

/-- The value that the answer to an evaluation holds. What the page has thrown is no value. -/
def valueOf (result : Json) : Except String Json :=
  match result.field? "exceptionDetails" with
  | none | some .null => .ok ((result.field "result").field "value")
  | some details => .error ((details.field "text").text?.getD "Uncaught")

/-- Evaluates an expression. -/
def evaluate (peer : Peer) (expression : String) : Talk (Except String Json) := do
  let result ← ask peer (.evaluate expression)
  return result.bind valueOf

/-- Evaluates an expression and tells how long it took. -/
def evaluation (peer : Peer) (expression : String) (c : Connection) : Evaluation × Connection :=
  match evaluate peer expression c with
  | .ok outcome c' => (⟨c'.time - c.time, outcome⟩, c')
  | .error e c' => (⟨c'.time - c.time, .error e.message⟩, c')

/-- Ends as polling does. -/
def conclude (timeout : Nat) (what : String) (polled : Polling.Polled Connection) :
    EStateM.Result Failure Connection Json :=
  let c := { polled.state with time := polled.time }
  match polled.value with
  | some v => .ok v c
  | none => .error (.timeout timeout what) c

/-- Evaluates an expression until it has a value, for so many milliseconds. -/
def poll (peer : Peer) (expression : String) (timeout : Nat) (what : String) : Talk Json := fun c =>
  conclude timeout what
    (Polling.run (evaluation peer expression) (c.time + timeout * millisecond) c.time c)

/-- The lives of documents as a command brings them up, all at once. -/
def livesAt (time : Nat) (events : List Event) : LifecycleStream :=
  { events := events.filterMap fun
      | .lifecycle e => some ⟨time, e⟩
      | _ => none
    closed := none }

/-- Ends as a navigation does. -/
def settle (start : Nat) (ending : Timed (Except Failure Unit)) : Talk Unit := fun c =>
  let c := { c with time := start + ending.time }
  match ending.value with
  | .ok () => .ok () c
  | .error e => .error e c

/-- The answer to a navigation that comes through. -/
def navigateReply (peer : Peer) (d : Delivery) : Option (Timed (Except String NavigateReply)) :=
  match d.reply with
  | some (.ok v) =>
    match NavigateReply.ofJson v with
    | .ok reply =>
      if Navigation.comesThrough peer.mainFrame reply d.events then some ⟨0, .ok reply⟩ else none
    | .error m => some ⟨0, .error m.message⟩
  | _ => none

/-- Opens an address. -/
def goto (peer : Peer) (url : String) (timeout : Nat) (waitUntil : WaitUntil) :
    Talk Unit := fun c =>
  let (d, sent) := c.send peer (.navigate url peer.mainFrame)
  settle c.time
    (Navigation.goto url timeout waitUntil.event? (navigateReply peer d) (livesAt 0 d.events)) sent

/-- Loads the page again. -/
def reload (peer : Peer) (timeout : Nat) (waitUntil : WaitUntil) : Talk Unit := do
  let start := (← get).time
  let d ← exchange peer .reload
  match resultOf d.reply with
  | .error reason => throw (.connection reason)
  | .ok _ =>
    settle start
      (Navigation.reload peer.mainFrame timeout waitUntil.event? 0 (livesAt 0 d.events))

/-- Presses and releases the mouse button at a point, `left` times more after `done` times. -/
def press (peer : Peer) (x y : Float) (done : Nat) : (left : Nat) → Talk Unit
  | 0 => return ()
  | left + 1 => do
    order peer (.pressMouse x y (done + 1))
    order peer (.releaseMouse x y (done + 1))
    press peer x y (done + 1) left

/-- Clicks a target, so many times. -/
def click (peer : Peer) (target : Target) (timeout : Nat) (offset : Option (Float × Float))
    (count : Nat) : Talk Unit := do
  let found ← poll peer (target.script Target.boxBody) timeout (waitingFor target "visible")
  match ElementBox.ofJson found with
  | .error m => throw (.unreadable m.message)
  | .ok box =>
    let (dx, dy) := offset.getD box.centre
    let x := box.x + dx
    let y := box.y + dy
    order peer (.moveMouse x y)
    press peer x y 0 (max count 1)

/-- How a number of pixels is written in a script: without exponent, whole numbers bare. -/
def pixels (x : Float) : String :=
  let d := Decimal.shortest x
  let digits := Text.decimal d.digits
  let text := Decimal.positional digits (d.exponent + digits.length - 1)
  let bare := (Text.before? ['.', '0'] text).getD text
  String.ofList (if Decimal.isNegative x then '-' :: bare else bare)

/-- Evaluates an expression whose value is wanted. -/
def require (peer : Peer) (expression : String) : Talk Json := do
  match ← evaluate peer expression with
  | .ok v => return v
  | .error reason => throw (.actionFailed ("Script execution failed: " ++ reason))

/-- Carries out a call. -/
def perform (peer : Peer) (scale : Float) : PageCall → Talk Json
  | .goto url timeout waitUntil => do
    goto peer url timeout waitUntil
    return .null
  | .reload timeout waitUntil => do
    reload peer timeout waitUntil
    return .null
  | .setViewport width height => do
    order peer (.setViewport width height scale)
    return .null
  | .click target timeout offset count => do
    click peer target timeout offset count
    return .null
  | .fill target value timeout => do
    let _ ← poll peer (target.script (Target.fillBody value)) timeout
      (waitingFor target "visible")
    return .null
  | .keyDown key => do
    order peer (.keyDown (Key.lookup key))
    return .null
  | .keyUp key => do
    order peer (.keyUp (Key.lookup key))
    return .null
  | .insertText text => do
    order peer (.insertText text)
    return .null
  | .evaluate script => require peer script
  | .waitFor target state timeout => do
    let _ ← poll peer (target.stateScript state) timeout (waitingFor target state.name)
    return .null
  | .scrollBy dx dy => do
    let _ ← require peer ("window.scrollBy(" ++ pixels dx ++ ", " ++ pixels dy ++ ")")
    return .null

end Talk

end PageScript.Chrome
