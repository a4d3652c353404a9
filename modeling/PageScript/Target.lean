import PageScript.Failure
import PageScript.Json.Mismatch
import PageScript.Target.Resolver

/-!
# Targets

The element a step is about: an ordered list of locators, the first that finds something winning.
`Target.ofSelectors` builds it from the groups of raw selectors that a step carries. A target is
only a description; the scripts here are what the page evaluates when a step runs.
-/

namespace PageScript

/-- A condition that an element can be waited for to meet. -/
inductive ElementState where
  /-- It is there and can be seen. -/
  | visible
  /-- It is not there or cannot be seen. -/
  | hidden
  | attached
  | detached
  deriving DecidableEq, Repr, Inhabited

namespace ElementState

/-- The word for a state. -/
def name : ElementState → String
  | .visible => "visible"
  | .hidden => "hidden"
  | .attached => "attached"
  | .detached => "detached"

/-- The states by their words. -/
def choices : List (String × ElementState) :=
  [.visible, .hidden, .attached, .detached].map fun s => (s.name, s)

/-- The statement that gives `true` once `el` is in a state and `null` before. -/
def check : ElementState → String
  | .visible => "return isVisible(el) ? true : null;"
  | .hidden => "return !isVisible(el) ? true : null;"
  | .attached => "return el ? true : null;"
  | .detached => "return el ? null : true;"

end ElementState

/-- The element a step is about. -/
structure Target where
  /-- The ways to find it, best first. -/
  alternatives : List Locator
  deriving DecidableEq, Repr

namespace Target

/-- A target found by one CSS selector. -/
def css (selector : String) : Target :=
  ⟨[.css selector]⟩

/-- The first raw selector of a group; groups that are no list or do not start with a text have
none. -/
def firstOfGroup? (group : Json) : Option String :=
  match group with
  | .array (.string s :: _) => some s
  | _ => none

/-- The locators of selector groups, one for each group whose first selector gives one. -/
def locatorsOf (groups : List Json) : List Locator :=
  groups.filterMap fun group => (firstOfGroup? group).bind Locator.classify

/-- The target of a step of the given kind, from its selector groups. -/
def ofSelectors (kind : String) (selectors : Option Json) : Except Failure Target :=
  match selectors.bind Json.items? with
  | none => .error (.validation ("Step of type '" ++ kind ++ "' has no selectors"))
  | some groups =>
    let alternatives := locatorsOf groups
    if alternatives.isEmpty then
      .error (.validation ("Could not build any locator for step type: " ++ kind))
    else .ok ⟨alternatives⟩

/-- A selector group as progress messages show it. -/
def describeGroup? : Json → Option String
  | .array items => some (",".intercalate (items.filterMap Json.text?))
  | .string s => some s
  | _ => none

/-- The raw selectors as progress messages show them. -/
def describeGroups (selectors : Option Json) : String :=
  match selectors.bind Json.items? with
  | none => ""
  | some groups => ", ".intercalate (groups.filterMap describeGroup?)

/-- The target in messages. -/
def display (t : Target) : String :=
  " | ".intercalate (t.alternatives.map Locator.display)

/-- The expression that finds the target and evaluates a body for it. -/
def script (t : Target) (body : String) : String :=
  scriptFor t.alternatives body

/-- The expression that gives `true` once the target is in a state. -/
def stateScript (t : Target) (state : ElementState) : String :=
  t.script state.check

/-- The body that gives the place of a visible element after bringing it into view. -/
def boxBody : String :=
  Text.ofLines
    ["if (!el || !isVisible(el)) return null;",
     "el.scrollIntoView(\x7b block: 'center', inline: 'center' \x7d);",
     "const r = el.getBoundingClientRect();",
     "return \x7b x: r.left, y: r.top, width: r.width, height: r.height \x7d;"]

/-- The part of the filling body after the value. -/
def fillTail : String :=
  Text.ofLines
    [";",
     "el.focus();",
     "if (el.tagName === 'SELECT') \x7b",
     "  const opt = Array.from(el.options).find((o) => o.value === value || o.label === value);",
     "  el.value = opt ? opt.value : value;",
     "\x7d else if (el.isContentEditable) \x7b",
     "  el.textContent = value;",
     "\x7d else \x7b",
     "  const proto = el.tagName === 'TEXTAREA' ? HTMLTextAreaElement.prototype : "
       ++ "HTMLInputElement.prototype;",
     "  const setter = Object.getOwnPropertyDescriptor(proto, 'value').set;",
     "  setter.call(el, value);",
     "\x7d",
     "el.dispatchEvent(new Event('input', \x7b bubbles: true \x7d));",
     "el.dispatchEvent(new Event('change', \x7b bubbles: true \x7d));",
     "return true;"]

/-- The body that replaces the value of a visible element and tells the page so. -/
def fillBody (value : String) : String :=
  "if (!el || !isVisible(el)) return null;\nconst value = " ++ Json.print (.string value)
    ++ fillTail

end Target

end PageScript
