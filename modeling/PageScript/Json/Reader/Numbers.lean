import PageScript.Json.Value
import PageScript.Json.Reader.Basic

/-!
# Reading numbers

A number without point and exponent that fits 64 bits is a whole number. All others become
floating-point numbers by one multiplication or division of the leading digits that fit 64 bits
with a power of ten, each rounded on its own; digits beyond those count by their number only.
`length_of_readNumber` says that reading a number leaves fewer symbols.
-/

namespace PageScript

namespace Json

open Text (Symbol width)

/-- The decimal digits at the front of symbols, and the symbols after them. -/
def digitRun : List Symbol → List Char × List Symbol
  | .char c :: r =>
    if c.isDigit then (c :: (digitRun r).1, (digitRun r).2) else ([], .char c :: r)
  | r => ([], r)

/-- Appends digits to a significand as long as it stays below 2 ^ 64; gives the significand and
how many digits were left over. -/
def significandOf (start : Nat) : List Char → Nat × Nat
  | [] => (start, 0)
  | c :: rest =>
    let next := 10 * start + Text.digitValue c
    if next < 0x10000000000000000 then significandOf next rest else (start, rest.length + 1)

/-- A power of ten as a floating-point number. -/
def tenTo (n : Nat) : Float :=
  Float.ofScientific 1 false n

/-- Divides by a power of ten, in steps of at most 308 places. -/
def divideByTens (x : Float) (places : Nat) : Float :=
  if places ≤ 308 then x / tenTo places
  else if x == 0 then x
  else divideByTens (x / tenTo 308) (places - 308)
termination_by places

/-- The floating-point number of a significand and a power of ten, unless it is too great. -/
def scale? (significand : Nat) (exponent : Int) : Option Float :=
  let x := significand.toUInt64.toFloat
  if exponent < 0 then some (divideByTens x exponent.natAbs)
  else if exponent ≤ 308 then
    let y := x * tenTo exponent.natAbs
    if y.isInf then none else some y
  else if x == 0 then some x
  else none

/-- A floating-point number from its parts, `s` being what follows the notation. -/
def floatOfParts (negative : Bool) (significand : Nat) (exponent : Int) (s : List Symbol) :
    Outcome JsonNumber :=
  match scale? significand exponent with
  | some x => .ok (.float (if negative then -x else x), s)
  | none => refuse .numberOutOfRange s

/-- The value of an exponent's digits, or the digits after the one that made it too great. -/
def exponentOf (start : Nat) : List Char → Except (List Char) Nat
  | [] => .ok start
  | c :: rest =>
    let next := 10 * start + Text.digitValue c
    if next < 0x80000000 then exponentOf next rest else .error rest

/-- Whether a symbol opens an exponent. -/
def isExponentMark : Symbol → Bool
  | .char c => c == 'e' || c == 'E'
  | .stray _ => false

/-- Reads the digits of an exponent, `down` saying whether it is negative; `before` is the power
of ten that the digits so far have. -/
def exponentDigits (negative : Bool) (significand : Nat) (before : Int) (down : Bool)
    (s : List Symbol) : Outcome JsonNumber :=
  let (digits, r) := digitRun s
  if s.isEmpty then refuse .endInValue []
  else if digits.isEmpty then refuseNext .invalidNumber s
  else
    match exponentOf 0 digits with
    | .ok n => floatOfParts negative significand (if down then before - n else before + n) r
    | .error rest =>
      if significand ≠ 0 ∧ !down then .error ⟨.numberOutOfRange, rest.length + width r⟩
      else .ok (.float (if negative then -0.0 else 0.0), r)

/-- Reads an exponent after its mark. -/
def exponent (negative : Bool) (significand : Nat) (before : Int) : List Symbol → Outcome JsonNumber
  | [] => refuse .endInValue []
  | sign :: r =>
    if sign = .char '+' then exponentDigits negative significand before false r
    else if sign = .char '-' then exponentDigits negative significand before true r
    else exponentDigits negative significand before false (sign :: r)

/-- Reads an exponent if there is one; the digits so far have the power of ten `before`. -/
def exponentIfAny (negative : Bool) (significand : Nat) (before : Int) (s : List Symbol) :
    Outcome JsonNumber :=
  match s with
  | [] => floatOfParts negative significand before []
  | mark :: r =>
    if isExponentMark mark then exponent negative significand before r
    else floatOfParts negative significand before (mark :: r)

/-- Reads a fraction after its point; `before` is the power of ten of the digits so far. -/
def fraction (negative : Bool) (significand : Nat) (before : Int) (s : List Symbol) :
    Outcome JsonNumber :=
  let (digits, r) := digitRun s
  if digits.isEmpty then
    if r.isEmpty then refuse .endInValue [] else refuseNext .invalidNumber r
  else
    let (significand, ignored) := significandOf significand digits
    exponentIfAny negative significand (before - ((digits.length : Int) - ignored)) r

/-- A number without point and exponent whose digits all fit the significand. -/
def wholeOf (negative : Bool) (significand : Nat) : JsonNumber :=
  if negative && (significand == 0 || significand > 0x8000000000000000) then
    .float (-significand.toUInt64.toFloat)
  else
    match WholeNumber.ofInt? (if negative then -(significand : Int) else significand) with
    | some n => .whole n
    | none => .float significand.toUInt64.toFloat

/-- Reads a number after its sign. -/
def readNumber (negative : Bool) (s : List Symbol) : Outcome JsonNumber :=
  let (digits, r) := digitRun s
  match digits with
  | [] => if s.isEmpty then refuse .endInValue [] else refuseNext .invalidNumber s
  | first :: others =>
    if first = '0' ∧ others ≠ [] then
      .error ⟨.invalidNumber, others.length + width r - 1⟩
    else
      let (significand, ignored) := significandOf 0 digits
      match r with
      | .char '.' :: r => fraction negative significand ignored r
      | r =>
        if ignored = 0 ∧ !(r.head?.any isExponentMark) then .ok (wholeOf negative significand, r)
        else exponentIfAny negative significand ignored r

theorem length_digitRun (s : List Symbol) :
    (digitRun s).1.length + (digitRun s).2.length = s.length := by
  fun_induction digitRun s with
  | case1 c r h ih => simp [← ih]; omega
  | case2 => simp
  | case3 => simp

theorem rest_of_floatOfParts {negative : Bool} {significand : Nat} {e : Int} {s r : List Symbol}
    {n : JsonNumber} (h : floatOfParts negative significand e s = .ok (n, r)) : r = s := by
  unfold floatOfParts refuse at h
  split at h
  · injection h with h; injection h with _ h; exact h.symm
  · cases h

theorem length_of_exponentDigits {negative down : Bool} {significand : Nat} {before : Int}
    {s r : List Symbol} {n : JsonNumber}
    (h : exponentDigits negative significand before down s = .ok (n, r)) :
    r.length ≤ s.length := by
  have hd := length_digitRun s
  simp only [exponentDigits, refuse, refuseNext] at h
  split at h
  · cases h
  · split at h
    · cases h
    · split at h
      · rw [rest_of_floatOfParts h]; omega
      · split at h
        · cases h
        · injection h with h; injection h with _ h; subst h; omega

theorem length_of_exponent {negative : Bool} {significand : Nat} {before : Int}
    {s r : List Symbol} {n : JsonNumber}
    (h : exponent negative significand before s = .ok (n, r)) : r.length ≤ s.length := by
  unfold exponent refuse at h
  split at h
  · cases h
  · split at h
    · have := length_of_exponentDigits h; simp only [List.length_cons]; omega
    · split at h
      · have := length_of_exponentDigits h; simp only [List.length_cons]; omega
      · exact length_of_exponentDigits h

theorem length_of_exponentIfAny {negative : Bool} {significand : Nat} {before : Int}
    {s r : List Symbol} {n : JsonNumber}
    (h : exponentIfAny negative significand before s = .ok (n, r)) : r.length ≤ s.length := by
  unfold exponentIfAny at h
  split at h
  · exact Nat.le_of_eq (by rw [rest_of_floatOfParts h])
  · split at h
    · have := length_of_exponent h; simp only [List.length_cons]; omega
    · exact Nat.le_of_eq (by rw [rest_of_floatOfParts h])

theorem length_of_fraction {negative : Bool} {significand : Nat} {before : Int}
    {s r : List Symbol} {n : JsonNumber}
    (h : fraction negative significand before s = .ok (n, r)) : r.length ≤ s.length := by
  unfold fraction refuse refuseNext at h
  have hd := length_digitRun s
  simp only at h
  split at h
  · split at h <;> cases h
  · have := length_of_exponentIfAny h
    omega

theorem length_of_readNumber {negative : Bool} {s r : List Symbol} {n : JsonNumber}
    (h : readNumber negative s = .ok (n, r)) : r.length < s.length := by
  unfold readNumber refuse refuseNext at h
  have hd := length_digitRun s
  simp only at h
  split at h
  · split at h <;> cases h
  · rename_i first others hds
    rw [hds] at hd
    simp only [List.length_cons] at hd
    split at h
    · cases h
    · split at h
      · rename_i r' hr
        have := length_of_fraction h
        rw [hr] at hd
        simp only [List.length_cons] at hd
        omega
      · split at h
        · injection h with h; injection h with _ h; subst h; omega
        · have := length_of_exponentIfAny h; omega

end Json

end PageScript
