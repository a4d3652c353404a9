import PageScript.Json.Printer
import PageScript.Decimal.Reading
import PageScript.Text.Blank

/-!
# Forgiving readings of job values

Jobs are written by hand or filled in by forms, so a number may come as a text (`"3000"`, even
`"3000ms"`) and a flag as `0` or `1`. The readings here never fail: what cannot be read counts as
absent, and for a flag as not set.
-/

namespace PageScript.Lenient

/-- The natural number that the digits at the start of a text denote, if there are any and it is
below 2 ^ 64. Blanks around the text do not count. -/
def naturalOfText? (s : String) : Option Nat :=
  let digits := (Text.trim s.toList).takeWhile Char.isDigit
  let n := Text.decimalValue digits
  if digits.isEmpty || n ≥ 0x10000000000000000 then none else some n

/-- A natural number below 2 ^ 64: a number that is not negative, cut to a whole one and to that
range, or what the digits at the start of a text denote. -/
def natural? : Json → Option Nat
  | .number (.whole n) => n.toNat?
  | .number (.float x) => if x >= 0 then some x.toUInt64.toNat else none
  | .string s => naturalOfText? s
  | _ => none

/-- A floating-point number, or a text that denotes one. -/
def float? : Json → Option Float
  | .number n => some n.toFloat
  | .string s => Decimal.ofText? (Text.trim s.toList)
  | _ => none

/-- Whether a text stands for a set flag: all do but blanks, `0` and `false`. -/
def flagOfText (s : String) : Bool :=
  let word := (Text.trim s.toList).map Char.toLower
  !(word == [] || word == ['0'] || word == "false".toList)

/-- Whether a value stands for a set flag. -/
def flag : Json → Bool
  | .null => false
  | .bool b => b
  | .number n => !(n.toFloat == 0)
  | .string s => flagOfText s
  | .array _ => true
  | .object _ => true

/-- A text that is not empty; numbers and truth values are taken by their notation. -/
def text? : Json → Option String
  | .string s => if s.isEmpty then none else some s
  | .number n => some (String.ofList (Json.numberText n))
  | .bool true => some "true"
  | .bool false => some "false"
  | _ => none

end PageScript.Lenient
