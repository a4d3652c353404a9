import PageScript.Json.Printer
import PageScript.Text.Printable
import PageScript.Text.Search

/-!
# When a value has the wrong shape

A value that is valid JSON may still not be what its reader wants: it is of another type, a field
is missing, a name is none of the known ones. `Mismatch` lists the causes and `Mismatch.message`
their wording; `describe` says what a value is. The readers for the few strict places (choices
among names, texts, records of numbers) are here too.
-/

namespace PageScript

namespace Json

/-- Why a value does not have the wanted shape. -/
inductive Mismatch where
  /-- The value is something else than what was wanted. -/
  | wrongType (found expected : String)
  /-- The value is of the right type and unusable. -/
  | wrongValue (found expected : String)
  /-- A list of the wrong length. -/
  | wrongLength (found : Nat) (expected : String)
  /-- A field that must be there is not. -/
  | missingField (name : String)
  /-- A name that is none of the known ones. -/
  | unknownVariant (found : String) (known : List String)
  deriving DecidableEq, Repr

/-- A name between backticks. -/
def ticked (name : String) : String :=
  "`" ++ name ++ "`"

/-- Known names, as a message lists them. -/
def oneOf : List String → String
  | [] => "there are no variants"
  | [a] => "expected " ++ ticked a
  | [a, b] => "expected " ++ ticked a ++ " or " ++ ticked b
  | names => "expected one of " ++ ", ".intercalate (names.map ticked)

/-- The mismatch in words. -/
def Mismatch.message : Mismatch → String
  | .wrongType found expected => "invalid type: " ++ found ++ ", expected " ++ expected
  | .wrongValue found expected => "invalid value: " ++ found ++ ", expected " ++ expected
  | .wrongLength n expected =>
    "invalid length " ++ String.ofList (Text.decimal n) ++ ", expected " ++ expected
  | .missingField name => "missing field " ++ ticked name
  | .unknownVariant found known => "unknown variant " ++ ticked found ++ ", " ++ oneOf known

/-- What a value is, for a message. -/
def describe : Json → String
  | .null => "null"
  | .bool true => "boolean `true`"
  | .bool false => "boolean `false`"
  | .number (.whole n) => "integer " ++ ticked (String.ofList (numberText (.whole n)))
  | .number (.float x) => "floating point " ++ ticked (String.ofList (numberText (.float x)))
  | .string s => "string " ++ String.ofList (Text.quoted s.toList)
  | .array _ => "sequence"
  | .object _ => "map"

/-- The value is not what was wanted. -/
def mismatch (v : Json) (expected : String) : Except Mismatch α :=
  .error (.wrongType v.describe expected)

/-- A text. -/
def asText : Json → Except Mismatch String
  | .string s => .ok s
  | v => v.mismatch "a string"

/-- A floating-point number; whole numbers are taken for one. -/
def asFloat : Json → Except Mismatch Float
  | .number n => .ok n.toFloat
  | v => v.mismatch "f64"

/-- One of several choices, written as its name or as an object whose only field has that name and
holds nothing: `null` or, where `emptyHoldsNothing`, an object without fields. -/
def asChoice (emptyHoldsNothing : Bool) (choices : List (String × α)) (v : Json) :
    Except Mismatch α :=
  let named (name : String) : Except Mismatch α :=
    match choices.find? (·.1 == name) with
    | some (_, a) => .ok a
    | none => .error (.unknownVariant name (choices.map (·.1)))
  match v with
  | .string name => named name
  | .object [(name, content)] => do
    let a ← named name
    match content, emptyHoldsNothing with
    | .null, _ => .ok a
    | .object [], true => .ok a
    | content, _ => content.mismatch "unit"
  | .object _ => .error (.wrongValue "map" "map with a single key")
  | v => v.mismatch "string or map"

end Json

end PageScript
