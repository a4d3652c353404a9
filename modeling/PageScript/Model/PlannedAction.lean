import PageScript.Json.Mismatch

/-!
# The action a model chose

The model answers an instruction with one action on the page, as an object that names it. Fields
are strict here: an answer that does not have this shape is no action at all. A list is read like
an object, the name of the action first and its fields after it in their order.
-/

namespace PageScript

/-- An action on the page; every kind carries the model's own description of it. -/
inductive PlannedAction where
  | click (element description : String)
  /-- Replace the value of an element. -/
  | fill (element value description : String)
  | type (element value description : String)
  | press (key description : String)
  | scroll (direction description : String)
  | none (description reason : String)
  deriving DecidableEq, Repr

namespace PlannedAction

/-- The name of the action. -/
def name : PlannedAction → String
  | .click .. => "click"
  | .fill .. => "fill"
  | .type .. => "type"
  | .press .. => "press"
  | .scroll .. => "scroll"
  | .none .. => "none"

/-- The model's description of the action. -/
def description : PlannedAction → String
  | .click _ d | .fill _ _ d | .type _ _ d | .press _ d | .scroll _ d | .none d _ => d

/-- The names of the actions. -/
def names : List String :=
  ["click", "fill", "type", "press", "scroll", "none"]

/-- The name of an action in messages about its fields. -/
def title (name : String) : String :=
  match name with
  | "click" => "Click"
  | "fill" => "Fill"
  | "type" => "Type"
  | "press" => "Press"
  | "scroll" => "Scroll"
  | _ => "None"

/-- The fields of an action in their order, each with whether it has to be there. -/
def fieldsOf (name : String) : List (String × Bool) :=
  match name with
  | "click" => [("element", true), ("description", false)]
  | "fill" | "type" => [("element", true), ("value", false), ("description", false)]
  | "press" => [("key", true), ("description", false)]
  | "scroll" => [("direction", false), ("description", false)]
  | _ => [("description", false), ("reason", false)]

/-- The action of a name, from its fields. -/
def ofTexts (name : String) (text : String → String) : PlannedAction :=
  match name with
  | "click" => .click (text "element") (text "description")
  | "fill" => .fill (text "element") (text "value") (text "description")
  | "type" => .type (text "element") (text "value") (text "description")
  | "press" => .press (text "key") (text "description")
  | "scroll" => .scroll (text "direction") (text "description")
  | _ => .none (text "description") (text "reason")

/-- The text of a field that was read, empty if there is none. -/
def textOf (read : List (String × String)) (field : String) : String :=
  ((read.find? (·.1 == field)).map (·.2)).getD ""

/-- Reads the name of an action. -/
def nameOf (v : Json) : Except Json.Mismatch String :=
  match v with
  | .string name =>
    if names.contains name then .ok name else .error (.unknownVariant name names)
  | v => v.mismatch "variant identifier"

/-- Reads the fields that belong to an action, in the order in which the object has them. -/
def readFields (wanted : List (String × Bool)) :
    List (String × Json) → Except Json.Mismatch (List (String × String))
  | [] => .ok []
  | (name, v) :: rest =>
    if wanted.any (·.1 == name) then do
      let t ← v.asText
      let others ← readFields wanted rest
      return (name, t) :: others
    else readFields wanted rest

/-- Reads the fields of an action from an object without the field that names it. -/
def ofObject (name : String) (fields : List (String × Json)) :
    Except Json.Mismatch PlannedAction := do
  let wanted := fieldsOf name
  let read ← readFields wanted fields
  match wanted.find? fun w => w.2 && !read.any (·.1 == w.1) with
  | some (missing, _) => .error (.missingField missing)
  | Option.none => return ofTexts name (textOf read)

/-- What a list for an action should have held. -/
def expectedFields (name : String) : String :=
  "struct variant PlannedAction::" ++ title name ++ " with "
    ++ String.ofList (Text.decimal (fieldsOf name).length) ++ " elements"

/-- What a list should have held that goes on after the fields. -/
def expectedLength (count : Nat) : String :=
  if count = 1 then "1 element in sequence"
  else String.ofList (Text.decimal count) ++ " elements in sequence"

/-- Reads fields one after the other from a list; `done` of them are read. -/
def readItems (name : String) (done : Nat) :
    List (String × Bool) → List Json → Except Json.Mismatch (List (String × String))
  | [], [] => .ok []
  | [], rest => .error (.wrongLength (done + rest.length) (expectedLength done))
  | (field, required) :: wanted, [] =>
    if required then .error (.wrongLength done (expectedFields name))
    else do
      let others ← readItems name done wanted []
      return (field, "") :: others
  | (field, _) :: wanted, v :: rest => do
    let t ← v.asText
    let others ← readItems name (done + 1) wanted rest
    return (field, t) :: others

/-- Reads an action. -/
def ofJson (v : Json) : Except Json.Mismatch PlannedAction :=
  match v with
  | .object fields =>
    match Json.lookup? "action" fields with
    | Option.none => .error (.missingField "action")
    | some tag => do
      let name ← nameOf tag
      ofObject name (fields.filter (·.1 != "action"))
  | .array [] => .error (.missingField "action")
  | .array (tag :: items) => do
    let name ← nameOf tag
    let read ← readItems name 0 (fieldsOf name) items
    return ofTexts name (textOf read)
  | v => v.mismatch "internally tagged enum PlannedAction"

end PlannedAction

end PageScript
