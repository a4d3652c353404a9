import PageScript.Text.Digits

/-!
# Shortest decimals

The decimal notation of a binary floating-point number: the fewest digits that read back as the
same number, and of those the nearest to it. A finite positive number is a significand times a
power of two; the reals that round to it form an interval around it, and the shortest decimal is
found on the first of the grids of one, two, … seventeen digits that has a point in the interval.
All arithmetic is exact.
-/

namespace PageScript.Decimal

/-- A positive number `significand · 2 ^ exponent`. -/
structure Scaled where
  /-- The integer part of the scaling. -/
  significand : Nat
  exponent : Int
  deriving DecidableEq, Repr

/-- The significand and exponent of a finite number, its sign left aside. -/
def Scaled.ofFloat (x : Float) : Scaled :=
  let bits : Nat := x.toBits.toNat
  let fraction : Nat := bits % 0x10000000000000
  let biased : Nat := bits / 0x10000000000000 % 0x800
  if biased = 0 then ⟨fraction, -1074⟩ else ⟨0x10000000000000 + fraction, (biased : Int) - 1075⟩

/-- A number `digits · 10 ^ exponent`. -/
structure Digits where
  /-- The digits, read as a whole number. -/
  digits : Nat
  exponent : Int
  deriving DecidableEq, Repr

/-- Removes zeros at the end of the digits; `fuel` bounds their number. -/
def Digits.strip : Nat → Digits → Digits
  | 0, d => d
  | fuel + 1, d =>
    if d.digits ≠ 0 ∧ d.digits % 10 = 0 then strip fuel ⟨d.digits / 10, d.exponent + 1⟩ else d

/-- How many decimal digits a number has. -/
def digitCount (n : Nat) : Nat :=
  (Text.decimal n).length

/-- The interval of the reals that round to a number, in quarters of its unit: lower end, the
number, upper end; then whether the ends belong to it. -/
structure Neighbourhood where
  low : Nat
  mid : Nat
  high : Nat
  /-- Whether the two ends round to the number. -/
  closed : Bool
  deriving DecidableEq, Repr

/-- The reals that round to a number: half a unit to either side, only a quarter below the
smallest significand of a binade, and the ends just if the significand is even. -/
def Scaled.neighbourhood (s : Scaled) : Neighbourhood :=
  let m := s.significand
  let below := if m = 0x10000000000000 ∧ s.exponent > -1074 then 1 else 2
  ⟨4 * m - below, 4 * m, 4 * m + 2, m % 2 == 0⟩

/-- The point of the grid `10 ^ power` that is in the interval and nearest to the number, the
interval being in units of `numerator / denominator`. -/
def gridPoint? (n : Neighbourhood) (numerator denominator : Nat) (power : Int) : Option Digits :=
  -- a grid point k stands at k · step / scale in the units of the interval
  let step := Nat.pow 10 power.toNat * denominator
  let scale := Nat.pow 10 (-power).toNat * numerator
  let inside (k : Nat) : Bool :=
    if n.closed then n.low * scale ≤ k * step && k * step ≤ n.high * scale
    else n.low * scale < k * step && k * step < n.high * scale
  let below := n.mid * scale / step
  let above := below + 1
  let toBelow := n.mid * scale - below * step
  let toAbove := above * step - n.mid * scale
  let belowFirst := toBelow < toAbove || (toBelow == toAbove && below % 2 == 0)
  let first := if belowFirst then below else above
  let second := if belowFirst then above else below
  if inside first then some ⟨first, power⟩
  else if inside second then some ⟨second, power⟩
  else none

/-- The power of ten of the leading digit of `numerator / denominator`. -/
def leadingPower (numerator denominator : Nat) : Int :=
  if denominator ≤ numerator then (digitCount (numerator / denominator) : Int) - 1
  else -(digitCount ((denominator + numerator - 1) / numerator - 1) : Int)

/-- The first grid, from `count` digits upwards, that has a point in the interval. -/
def firstGridPoint (n : Neighbourhood) (numerator denominator : Nat) (leading : Int) :
    (count fuel : Nat) → Digits
  | count, 0 => (gridPoint? n numerator denominator (leading - count)).getD ⟨0, 0⟩
  | count, fuel + 1 =>
    match gridPoint? n numerator denominator (leading + 1 - count) with
    | some d => d
    | none => firstGridPoint n numerator denominator leading (count + 1) fuel

/-- The shortest decimal that reads back as a finite number, nearest to it among those; the sign
is left aside. -/
def shortest (x : Float) : Digits :=
  let s := Scaled.ofFloat x
  if s.significand = 0 then ⟨0, 0⟩
  else
    let power := s.exponent - 2
    let numerator := Nat.pow 2 power.toNat
    let denominator := Nat.pow 2 (-power).toNat
    let leading := leadingPower (4 * s.significand * numerator) denominator
    (firstGridPoint s.neighbourhood numerator denominator leading 1 17).strip 17

end PageScript.Decimal
