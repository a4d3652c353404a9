import PageScript.Text.Digits

/-!
# Why a text is not JSON

A document is refused at one place for one cause. The message names the cause and the place, as
the line and the number of bytes read on it.
-/

namespace PageScript

namespace Json

/-- What is wrong with a document. -/
inductive Cause where
  /-- The text ends inside a list. -/
  | endInList
  /-- The text ends inside an object. -/
  | endInObject
  /-- The text ends inside a text value. -/
  | endInString
  /-- The text ends where a value should be. -/
  | endInValue
  | expectedColon
  /-- Neither a comma nor the end of the list after an item. -/
  | expectedListEnd
  /-- Neither a comma nor the end of the object after a field. -/
  | expectedObjectEnd
  /-- A word other than the three that are values. -/
  | expectedWord
  /-- A character that begins no value. -/
  | expectedValue
  | invalidEscape
  | invalidNumber
  /-- A number beyond the floating-point range. -/
  | numberOutOfRange
  /-- A text value whose bytes are not UTF-8. -/
  | invalidCharacter
  /-- A control character inside a text value. -/
  | controlInString
  /-- A field whose name is not a text. -/
  | nameNotText
  | loneSurrogate
  /-- The first half of a surrogate pair without the second. -/
  | brokenPair
  /-- A comma before the end of a list or an object. -/
  | trailingComma
  | trailingCharacters
  /-- More nesting than a document may have. -/
  | tooDeep
  deriving DecidableEq, Repr

/-- The cause in words. -/
def Cause.message : Cause → String
  | .endInList => "EOF while parsing a list"
  | .endInObject => "EOF while parsing an object"
  | .endInString => "EOF while parsing a string"
  | .endInValue => "EOF while parsing a value"
  | .expectedColon => "expected `:`"
  | .expectedListEnd => "expected `,` or `]`"
  | .expectedObjectEnd => "expected `,` or `\x7d`"
  | .expectedWord => "expected ident"
  | .expectedValue => "expected value"
  | .invalidEscape => "invalid escape"
  | .invalidNumber => "invalid number"
  | .numberOutOfRange => "number out of range"
  | .invalidCharacter => "invalid unicode code point"
  | .controlInString =>
    "control character (\\u0000-\\u001F) found while parsing a string"
  | .nameNotText => "key must be a string"
  | .loneSurrogate => "lone leading surrogate in hex escape"
  | .brokenPair => "unexpected end of hex escape"
  | .trailingComma => "trailing comma"
  | .trailingCharacters => "trailing characters"
  | .tooDeep => "recursion limit exceeded"

/-- A refusal of a document. -/
structure SyntaxError where
  cause : Cause
  line : Nat
  /-- How many bytes of the line were read. -/
  column : Nat
  deriving DecidableEq, Repr

/-- The refusal in words. -/
def SyntaxError.message (e : SyntaxError) : String :=
  e.cause.message ++ " at line " ++ String.ofList (Text.decimal e.line)
    ++ " column " ++ String.ofList (Text.decimal e.column)

end Json

end PageScript
