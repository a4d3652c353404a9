import PageScript.Decimal.Shortest

/-!
# How floating-point numbers are written

The text of a floating-point number in documents and messages: its shortest decimal, positional
between 0.00001 and 10 ^ 16 and with an explicit exponent outside. A positional number always
shows a fraction, so that it cannot be taken for an integer.
-/

namespace PageScript.Decimal

/-- Whether the sign bit is set; it is for negative zero. -/
def isNegative (x : Float) : Bool :=
  x.toBits.toNat / 0x8000000000000000 == 1

/-- The digits of a decimal whose leading digit has the power `leading`, without exponent. -/
def positional (digits : List Char) (leading : Int) : List Char :=
  if leading < 0 then
    '0' :: '.' :: List.replicate (-leading - 1).toNat '0' ++ digits
  else
    let whole := leading.toNat + 1
    if digits.length ≤ whole then
      digits ++ List.replicate (whole - digits.length) '0' ++ ['.', '0']
    else digits.take whole ++ '.' :: digits.drop whole

/-- The digits of a decimal with one digit before the point, then the exponent with its sign. -/
def scientific (digits : List Char) (leading : Int) : List Char :=
  let sign := if leading < 0 then '-' else '+'
  let fraction := match digits.drop 1 with
    | [] => []
    | rest => '.' :: rest
  digits.take 1 ++ fraction ++ 'e' :: sign :: Text.decimal leading.natAbs

/-- The text of a finite number. -/
def text (x : Float) : List Char :=
  let d := shortest x
  let digits := Text.decimal d.digits
  let leading := d.exponent + digits.length - 1
  let unsigned :=
    if -5 ≤ leading ∧ leading < 16 then positional digits leading else scientific digits leading
  if isNegative x then '-' :: unsigned else unsigned

end PageScript.Decimal
