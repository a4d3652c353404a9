import PageScript.Text.Digits

/-!
# Base64

The standard alphabet with padding. Decoding is strict: no other symbols, padding only where it
completes the last group and then in full, and no bits left over in the last symbol. `encode`
writes exactly what `decode` accepts.
-/

namespace PageScript.Base64

/-- Why bytes are not base64. -/
inductive Fault where
  /-- A byte at a place where it cannot stand. -/
  | symbol (byte : UInt8) (offset : Nat)
  /-- A length that no encoding has. -/
  | length (n : Nat)
  /-- A last symbol with bits that belong to no byte. -/
  | lastSymbol (byte : UInt8) (offset : Nat)
  /-- Padding that is missing or incomplete. -/
  | padding
  deriving DecidableEq, Repr

/-- The fault in words. -/
def Fault.message : Fault → String
  | .symbol byte offset =>
    "Invalid symbol " ++ String.ofList (Text.decimal byte.toNat) ++ ", offset "
      ++ String.ofList (Text.decimal offset) ++ "."
  | .length n => "Invalid input length: " ++ String.ofList (Text.decimal n)
  | .lastSymbol byte offset =>
    "Invalid last symbol " ++ String.ofList (Text.decimal byte.toNat) ++ ", offset "
      ++ String.ofList (Text.decimal offset) ++ "."
  | .padding => "Invalid padding"

/-- The padding symbol. -/
def pad : UInt8 := 61

/-- The six bits that a symbol stands for. -/
def bits? (b : UInt8) : Option Nat :=
  let n := b.toNat
  if 65 ≤ n ∧ n ≤ 90 then some (n - 65)
  else if 97 ≤ n ∧ n ≤ 122 then some (n - 71)
  else if 48 ≤ n ∧ n ≤ 57 then some (n + 4)
  else if n = 43 then some 62
  else if n = 47 then some 63
  else none

/-- The symbol for six bits. -/
def symbol (n : Nat) : UInt8 :=
  .ofNat (if n < 26 then n + 65 else if n < 52 then n + 71 else if n < 62 then n - 4
    else if n = 62 then 43 else 47)

/-- The bits of the symbol at an offset. -/
def bitsAt (offset : Nat) (b : UInt8) : Except Fault Nat :=
  match bits? b with
  | some n => .ok n
  | none => .error (.symbol b offset)

/-- The three bytes of a full group. -/
def bytesOf (a b c d : Nat) : List UInt8 :=
  [.ofNat (a * 4 + b / 16), .ofNat (b % 16 * 16 + c / 4), .ofNat (c % 4 * 64 + d)]

/-- What the last group holds: the symbols' bits, then how many paddings. -/
structure LastGroup where
  bits : List Nat
  last : UInt8
  paddings : Nat

/-- Reads the last group, of at most four bytes, beginning at an offset; `done` was read of it. -/
def lastGroup (offset : Nat) (done : LastGroup) : List UInt8 → Except Fault LastGroup
  | [] => .ok done
  | b :: rest =>
    let place := done.bits.length + done.paddings
    if b = pad then
      if place < 2 then .error (.symbol b (offset + place))
      else lastGroup offset { done with paddings := done.paddings + 1 } rest
    else if done.paddings > 0 then .error (.symbol pad (offset + done.bits.length))
    else
      match bits? b with
      | none => .error (.symbol b (offset + place))
      | some n => lastGroup offset ⟨done.bits ++ [n], b, 0⟩ rest

/-- The bytes of the last group. -/
def lastBytes (offset : Nat) (group : LastGroup) : Except Fault (List UInt8) :=
  if group.bits.length < 2 then .error (.length (offset + group.bits.length))
  else if (group.bits.length + group.paddings) % 4 ≠ 0 then .error .padding
  else
    match group.bits with
    | [a, b] =>
      if b % 16 = 0 then .ok [.ofNat (a * 4 + b / 16)]
      else .error (.lastSymbol group.last (offset + 1))
    | [a, b, c] =>
      if c % 4 = 0 then .ok [.ofNat (a * 4 + b / 16), .ofNat (b % 16 * 16 + c / 4)]
      else .error (.lastSymbol group.last (offset + 2))
    | [a, b, c, d] => .ok (bytesOf a b c d)
    | _ => .error .padding

/-- Decodes symbols that begin at an offset. -/
def decodeFrom (offset : Nat) : List UInt8 → Except Fault (List UInt8)
  | [] => .ok []
  | a :: b :: c :: d :: e :: rest => do
    let a ← bitsAt offset a
    let b ← bitsAt (offset + 1) b
    let c ← bitsAt (offset + 2) c
    let d ← bitsAt (offset + 3) d
    let others ← decodeFrom (offset + 4) (e :: rest)
    return bytesOf a b c d ++ others
  | group => do
    let last ← lastGroup offset ⟨[], 0, 0⟩ group
    lastBytes offset last

/-- The offset and value of a single symbol after the last full group that cannot be one. -/
def straySymbol? (s : List UInt8) : Option Fault :=
  if s.length % 4 = 1 then
    match s.getLast? with
    | some b => if b ≠ pad ∧ bits? b = none then some (.symbol b (s.length - 1)) else none
    | none => none
  else none

/-- The bytes that symbols stand for. -/
def decode (s : List UInt8) : Except Fault (List UInt8) :=
  match straySymbol? s with
  | some fault => .error fault
  | none => decodeFrom 0 s

/-- The symbols for bytes. -/
def encode : List UInt8 → List UInt8
  | [] => []
  | [a] => [symbol (a.toNat / 4), symbol (a.toNat % 4 * 16), pad, pad]
  | [a, b] =>
    [symbol (a.toNat / 4), symbol (a.toNat % 4 * 16 + b.toNat / 16),
     symbol (b.toNat % 16 * 4), pad]
  | a :: b :: c :: rest =>
    symbol (a.toNat / 4) :: symbol (a.toNat % 4 * 16 + b.toNat / 16)
      :: symbol (b.toNat % 16 * 4 + c.toNat / 64) :: symbol (c.toNat % 64) :: encode rest

end PageScript.Base64
