import PageScript.Step.Reading
import PageScript.Script.Line
import PageScript.Json.Parser

/-!
# Compiling scripts

A job's script is an object with a list of `steps`, the JSON text of such an object, or a line
script. `Script.compile` gives its steps together with the script as it is kept afterwards: JSON
text is replaced by the object it denotes, everything else stays. No steps at all is no failure
here; a run refuses to start without steps.
-/

namespace PageScript.Script

/-- Whether a text is to be read as a JSON object: without surrounding blanks it has at least three
characters, of which the first and the last are the brackets of an object. -/
def isObjectText (text : List Char) : Bool :=
  let inner := Text.trim text
  3 ≤ inner.length && inner.head? == some '\x7b' && inner.getLast? == some '\x7d'

/-- The steps of an object. -/
def ofObject (script : Json) : Except Failure (List Step) :=
  match script.field? "steps" with
  | none | some .null => .ok []
  | some (.array items) => .ok (items.map Step.ofJson)
  | some _ => .error (.validation "Script 'steps' must be a list")

/-- The steps of a script, and the script as it is kept. -/
def compile (script : Json) : Except Failure (List Step) × Json :=
  match script with
  | .object fields => (ofObject (.object fields), .object fields)
  | .string text =>
    if isObjectText text.toList then
      match Json.parse (String.ofList (Text.trim text.toList)) with
      | .ok parsed => (ofObject parsed, parsed)
      | .error e => (.error (.unreadable e.message), .string text)
    else (.ok (Line.steps text), .string text)
  | .null => (.ok [], .null)
  | other =>
    (.error (.validation ("Script must be an object or text, got: " ++ other.print)), other)

end PageScript.Script
