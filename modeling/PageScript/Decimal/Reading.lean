import PageScript.Text.Digits
import PageScript.Text.Search

/-!
# Reading floating-point numbers

The number that a decimal text denotes, rounded to the nearest floating-point number. A text is an
optional sign followed by digits with an optional point among or around them and an optional
exponent, or by one of the words for infinity and for no number, in any letter case.
-/

namespace PageScript.Decimal

/-- Positive infinity. -/
def infinity : Float := Float.ofBits 0x7FF0000000000000

/-- No number. -/
def notANumber : Float := Float.ofBits 0x7FF8000000000000

/-- The floating-point number nearest to `digits · 10 ^ exponent`. Powers beyond the range of
floating-point numbers are settled from the number of digits. -/
def nearest (digits : Nat) (exponent : Int) : Float :=
  let magnitude := exponent + (Text.decimal digits).length
  if digits = 0 then 0
  else if magnitude > 310 then infinity
  else if magnitude < -330 then 0
  else Float.ofScientific digits (exponent < 0) exponent.natAbs

/-- The digits at the start of a text, and what follows them. -/
def digitRun (s : List Char) : List Char × List Char :=
  (s.takeWhile Char.isDigit, s.dropWhile Char.isDigit)

/-- The value of an exponent part, which may be absent. -/
def exponentPart? : List Char → Option Int
  | [] => some 0
  | c :: rest =>
    if c = 'e' ∨ c = 'E' then
      let (negative, digits) := match rest with
        | '-' :: r => (true, r)
        | '+' :: r => (false, r)
        | r => (false, r)
      if digits.isEmpty || !digits.all Char.isDigit then none
      else
        let n : Int := Text.decimalValue digits
        some (if negative then -n else n)
    else none

/-- The value of an unsigned decimal. -/
def unsignedOfText? (s : List Char) : Option Float :=
  let (whole, rest) := digitRun s
  let (fraction, rest) := match rest with
    | '.' :: r => digitRun r
    | r => ([], r)
  if whole.isEmpty && fraction.isEmpty then none
  else
    (exponentPart? rest).map fun exponent =>
      nearest (Text.decimalValue (whole ++ fraction)) (exponent - fraction.length)

/-- The value of an unsigned decimal or of a word for an infinity or for no number. -/
def magnitudeOfText? (s : List Char) : Option Float :=
  if Text.sameLetters s "inf".toList || Text.sameLetters s "infinity".toList then some infinity
  else if Text.sameLetters s "nan".toList then some notANumber
  else unsignedOfText? s

/-- The number that a text denotes. -/
def ofText? : List Char → Option Float
  | '-' :: s => (magnitudeOfText? s).map (- ·)
  | '+' :: s => magnitudeOfText? s
  | s => magnitudeOfText? s

end PageScript.Decimal
