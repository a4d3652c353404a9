/-!
# UTF-8

Texts as bytes. `encode` writes a text; `symbols` reads any bytes at all: a well-formed sequence
becomes its character, and every longest beginning of one that breaks off becomes one stray
symbol that remembers how many bytes it took. `decode?` accepts exactly the bytes without stray
symbols, and `decodeLossy` shows each stray symbol as the replacement character.
-/

namespace PageScript.Text

/-- One symbol of a text read from bytes. -/
inductive Symbol where
  | char (c : Char)
  /-- Bytes that begin a character and do not finish it, or that begin none. -/
  | stray (bytes : Nat)
  deriving DecidableEq, Repr

/-- How many bytes a character takes. -/
def byteCount (c : Char) : Nat :=
  let n := c.toNat
  if n < 0x80 then 1 else if n < 0x800 then 2 else if n < 0x10000 then 3 else 4

/-- How many bytes a symbol took. -/
def Symbol.width : Symbol → Nat
  | .char c => byteCount c
  | .stray bytes => bytes

/-- How many bytes a run of symbols took. -/
def width (s : List Symbol) : Nat :=
  s.foldr (fun c n => c.width + n) 0

/-- The bytes of one character. -/
def encodeChar (c : Char) : List UInt8 :=
  let n := c.toNat
  if n < 0x80 then [.ofNat n]
  else if n < 0x800 then [.ofNat (0xC0 + n / 0x40), .ofNat (0x80 + n % 0x40)]
  else if n < 0x10000 then
    [.ofNat (0xE0 + n / 0x1000), .ofNat (0x80 + n / 0x40 % 0x40), .ofNat (0x80 + n % 0x40)]
  else
    [.ofNat (0xF0 + n / 0x40000), .ofNat (0x80 + n / 0x1000 % 0x40),
     .ofNat (0x80 + n / 0x40 % 0x40), .ofNat (0x80 + n % 0x40)]

/-- The bytes of a text. -/
def encode (s : List Char) : List UInt8 :=
  s.flatMap encodeChar

/-- How many bytes a text takes. -/
def byteLength (s : List Char) : Nat :=
  s.foldr (fun c n => byteCount c + n) 0

/-- Whether a byte continues a character, the usual bounds being 0x80 and 0xBF. -/
def continues (low high : Nat) (b : UInt8) : Bool :=
  low ≤ b.toNat && b.toNat ≤ high

/-- The symbol that a byte begins, and how many of the following bytes belong to it. -/
def symbolAt (b : UInt8) (rest : List UInt8) : Symbol × Nat :=
  let n := b.toNat
  if n < 0x80 then (.char (Char.ofNat n), 0)
  else if n < 0xC2 then (.stray 1, 0)
  else if n < 0xE0 then
    match rest with
    | b₁ :: _ =>
      if continues 0x80 0xBF b₁ then
        (.char (Char.ofNat ((n - 0xC0) * 0x40 + (b₁.toNat - 0x80))), 1)
      else (.stray 1, 0)
    | [] => (.stray 1, 0)
  else if n < 0xF0 then
    let low := if n = 0xE0 then 0xA0 else 0x80
    let high := if n = 0xED then 0x9F else 0xBF
    match rest with
    | b₁ :: b₂ :: _ =>
      if continues low high b₁ then
        if continues 0x80 0xBF b₂ then
          (.char (Char.ofNat ((n - 0xE0) * 0x1000 + (b₁.toNat - 0x80) * 0x40
            + (b₂.toNat - 0x80))), 2)
        else (.stray 2, 1)
      else (.stray 1, 0)
    | [b₁] => if continues low high b₁ then (.stray 2, 1) else (.stray 1, 0)
    | [] => (.stray 1, 0)
  else if n < 0xF5 then
    let low := if n = 0xF0 then 0x90 else 0x80
    let high := if n = 0xF4 then 0x8F else 0xBF
    match rest with
    | b₁ :: b₂ :: b₃ :: _ =>
      if continues low high b₁ then
        if continues 0x80 0xBF b₂ then
          if continues 0x80 0xBF b₃ then
            (.char (Char.ofNat ((n - 0xF0) * 0x40000 + (b₁.toNat - 0x80) * 0x1000
              + (b₂.toNat - 0x80) * 0x40 + (b₃.toNat - 0x80))), 3)
          else (.stray 3, 2)
        else (.stray 2, 1)
      else (.stray 1, 0)
    | [b₁, b₂] =>
      if continues low high b₁ then
        if continues 0x80 0xBF b₂ then (.stray 3, 2) else (.stray 2, 1)
      else (.stray 1, 0)
    | [b₁] => if continues low high b₁ then (.stray 2, 1) else (.stray 1, 0)
    | [] => (.stray 1, 0)
  else (.stray 1, 0)

/-- The symbols of any bytes. -/
def symbols : List UInt8 → List Symbol
  | [] => []
  | b :: rest =>
    let (symbol, taken) := symbolAt b rest
    symbol :: symbols (rest.drop taken)
termination_by bytes => bytes.length
decreasing_by simp only [List.length_cons, List.length_drop]; omega

/-- The characters of symbols of which none is stray. -/
def charsOf? : List Symbol → Option (List Char)
  | [] => some []
  | .char c :: rest => (charsOf? rest).map (c :: ·)
  | .stray _ :: _ => none

/-- The text of well-formed bytes. -/
def decode? (bytes : List UInt8) : Option (List Char) :=
  charsOf? (symbols bytes)

/-- The text of any bytes, a replacement character standing for each stray symbol. -/
def decodeLossy (bytes : List UInt8) : List Char :=
  (symbols bytes).map fun
    | .char c => c
    | .stray _ => Char.ofNat 0xFFFD

end PageScript.Text
