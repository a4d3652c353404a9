import PageScript.Json.Value
import PageScript.Decimal.Notation

/-!
# Writing JSON

Two layouts of a value: without any blanks, and with one item a line under a given indentation.
Texts are escaped as little as the format allows: quotes, backslashes and control characters only.
-/

namespace PageScript

namespace Json

/-- One character between quotes. -/
def escapeChar (c : Char) : List Char :=
  match c with
  | '"' => ['\\', '"']
  | '\\' => ['\\', '\\']
  | '\x08' => ['\\', 'b']
  | '\x0c' => ['\\', 'f']
  | '\n' => ['\\', 'n']
  | '\r' => ['\\', 'r']
  | '\t' => ['\\', 't']
  | c =>
    if c.toNat < 0x20 then
      ['\\', 'u', '0', '0', Text.hexDigit (c.toNat / 16), Text.hexDigit (c.toNat % 16)]
    else [c]

/-- A text in quotes. -/
def quote (s : String) : List Char :=
  '"' :: s.toList.flatMap escapeChar ++ ['"']

/-- A number; one that is not finite has no notation and is written as `null`. -/
def numberText : JsonNumber → List Char
  | .whole n => Text.signedDecimal n.val
  | .float x => if x.isFinite then Decimal.text x else "null".toList

mutual

/-- A value without blanks. -/
def compact : Json → List Char
  | .null => "null".toList
  | .bool true => "true".toList
  | .bool false => "false".toList
  | .number n => numberText n
  | .string s => quote s
  | .array items => '[' :: compactItems items ++ [']']
  | .object fields => '\x7b' :: compactFields fields ++ ['\x7d']

/-- Values with commas between them. -/
def compactItems : List Json → List Char
  | [] => []
  | [v] => compact v
  | v :: rest => compact v ++ ',' :: compactItems rest

/-- Fields with commas between them. -/
def compactFields : List (String × Json) → List Char
  | [] => []
  | [(name, v)] => quote name ++ ':' :: compact v
  | (name, v) :: rest => quote name ++ ':' :: compact v ++ ',' :: compactFields rest

end

/-- A new line under `depth` indentations. -/
def newLine (indentation : List Char) (depth : Nat) : List Char :=
  '\n' :: (List.replicate depth indentation).flatten

mutual

/-- A value with one item a line, the value itself being `depth` indentations deep. -/
def indented (indentation : List Char) (depth : Nat) : Json → List Char
  | .array [] => ['[', ']']
  | .array (v :: rest) =>
    '[' :: indentedItems indentation (depth + 1) (v :: rest)
      ++ newLine indentation depth ++ [']']
  | .object [] => ['\x7b', '\x7d']
  | .object (f :: rest) =>
    '\x7b' :: indentedFields indentation (depth + 1) (f :: rest)
      ++ newLine indentation depth ++ ['\x7d']
  | .null => "null".toList
  | .bool true => "true".toList
  | .bool false => "false".toList
  | .number n => numberText n
  | .string s => quote s

/-- Values on lines of their own. -/
def indentedItems (indentation : List Char) (depth : Nat) : List Json → List Char
  | [] => []
  | [v] => newLine indentation depth ++ indented indentation depth v
  | v :: rest =>
    newLine indentation depth ++ indented indentation depth v
      ++ ',' :: indentedItems indentation depth rest

/-- Fields on lines of their own. -/
def indentedFields (indentation : List Char) (depth : Nat) : List (String × Json) → List Char
  | [] => []
  | [(name, v)] =>
    newLine indentation depth ++ quote name ++ ':' :: ' ' :: indented indentation depth v
  | (name, v) :: rest =>
    newLine indentation depth ++ quote name ++ ':' :: ' ' :: indented indentation depth v
      ++ ',' :: indentedFields indentation depth rest

end

/-- The text of a value without blanks. -/
def print (v : Json) : String :=
  String.ofList v.compact

/-- The text of a value indented by tabs. -/
def printTabbed (v : Json) : String :=
  String.ofList (v.indented ['\t'] 0)

/-- The text of a value indented by two spaces. -/
def printIndented (v : Json) : String :=
  String.ofList (v.indented [' ', ' '] 0)

end Json

end PageScript
