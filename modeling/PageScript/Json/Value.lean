/-!
# JSON values

A document value with the number model of the job format: whole numbers of 64 bits, signed or
unsigned, are kept apart from floating-point ones (`1` and `1.0` are two values). An object holds
its fields in a list; the objects that reading produces have their names in strictly ascending
order, and `insertField` keeps that order, a repeated name keeping its last value.
-/

namespace PageScript

/-- A whole number that fits an unsigned or a signed 64-bit integer. -/
structure WholeNumber where
  val : Int
  low : -0x8000000000000000 ≤ val
  /-- One past the greatest unsigned number. -/
  high : val < 0x10000000000000000
  deriving DecidableEq, Repr

namespace WholeNumber

/-- A number that fits 64 bits, if it does. -/
def ofInt? (n : Int) : Option WholeNumber :=
  if h : -0x8000000000000000 ≤ n ∧ n < 0x10000000000000000 then some ⟨n, h.1, h.2⟩ else none

/-- An unsigned number of 64 bits. -/
def ofUInt64 (n : UInt64) : WholeNumber :=
  ⟨n.toNat, by omega, by have := n.toNat_lt; omega⟩

/-- The number as an unsigned one, unless it is negative. -/
def toNat? (n : WholeNumber) : Option Nat :=
  if n.val < 0 then none else some n.val.toNat

/-- The nearest floating-point number. -/
def toFloat (n : WholeNumber) : Float :=
  let magnitude := n.val.natAbs.toUInt64.toFloat
  if n.val < 0 then -magnitude else magnitude

end WholeNumber

/-- A number of a document. -/
inductive JsonNumber where
  /-- Written without point and exponent, and fitting 64 bits. -/
  | whole (n : WholeNumber)
  | float (x : Float)
  deriving DecidableEq, Repr

/-- The nearest floating-point number. -/
def JsonNumber.toFloat : JsonNumber → Float
  | .whole n => n.toFloat
  | .float x => x

/-- A document value. -/
inductive Json where
  | null
  | bool (b : Bool)
  | number (n : JsonNumber)
  | string (s : String)
  | array (items : List Json)
  | object (fields : List (String × Json))
  deriving Inhabited, Repr

namespace Json

/-- An unsigned number of 64 bits as a value. -/
def ofUInt64 (n : UInt64) : Json :=
  .number (.whole (.ofUInt64 n))

/-- A whole number as a value; one that does not fit 64 bits becomes a floating-point number. -/
def ofInt (n : Int) : Json :=
  match WholeNumber.ofInt? n with
  | some w => .number (.whole w)
  | none => .number (.float (Float.ofInt n))

/-- A count as a value. -/
def ofNat (n : Nat) : Json :=
  ofInt n

/-- A floating-point number as a value. -/
def ofFloat (x : Float) : Json :=
  .number (.float x)

/-- An optional value, absence being `null`. -/
def ofOption (encode : α → Json) : Option α → Json
  | some a => encode a
  | none => .null

/-- Texts as a list value. -/
def ofStrings (texts : List String) : Json :=
  .array (texts.map .string)

/-- Adds a field to fields in ascending order of their names, in place of one of that name. -/
def insertField (name : String) (value : Json) : List (String × Json) → List (String × Json)
  | [] => [(name, value)]
  | (other, old) :: rest =>
    if name < other then (name, value) :: (other, old) :: rest
    else if name = other then (name, value) :: rest
    else (other, old) :: insertField name value rest

/-- Fields in ascending order of their names, the last of equal names being kept. -/
def sortFields (fields : List (String × Json)) : List (String × Json) :=
  fields.foldl (fun sorted field => insertField field.1 field.2 sorted) []

/-- An object whose fields are brought into ascending order. -/
def ofFields (fields : List (String × Json)) : Json :=
  .object (sortFields fields)

/-- The value of a name among fields. -/
def lookup? (name : String) : List (String × Json) → Option Json
  | [] => none
  | (other, value) :: rest => if other = name then some value else lookup? name rest

/-- The value of a field, if the value is an object that has it. -/
def field? (name : String) : Json → Option Json
  | .object fields => lookup? name fields
  | _ => none

/-- The value of a field, `null` where there is none. -/
def field (name : String) (v : Json) : Json :=
  (v.field? name).getD .null

/-- The value at a place of a list, `null` where there is none. -/
def item (index : Nat) : Json → Json
  | .array items => items[index]?.getD .null
  | _ => .null

/-- The text of a text value. -/
def text? : Json → Option String
  | .string s => some s
  | _ => none

/-- The items of a list value. -/
def items? : Json → Option (List Json)
  | .array items => some items
  | _ => none

/-- The fields of an object value. -/
def fields? : Json → Option (List (String × Json))
  | .object fields => some fields
  | _ => none

/-- Whether the value is `null`. -/
def isNull : Json → Bool
  | .null => true
  | _ => false

end Json

end PageScript
