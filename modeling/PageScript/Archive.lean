import PageScript.FileTree
import PageScript.Text.Digits

/-!
# Archives as bytes

An archive on disk: a tape archive, whose members each have a header of one block and their content
padded to whole blocks, inside a gzip stream whose data is stored and not squeezed. Names too long
for a header go before it as the content of a member of their own. Everybody may read what is in
an archive, and nothing in it tells when it was made.
-/

namespace PageScript.Archive

/-- The size of a block. -/
def blockSize : Nat := 512

/-- How long a name in a header may be. -/
def longestName : Nat := 100

/-- Zeros. -/
def zeros (n : Nat) : List UInt8 :=
  List.replicate n 0

/-- Bytes filled up with zeros to a size. -/
def padTo (size : Nat) (bytes : List UInt8) : List UInt8 :=
  bytes ++ zeros (size - bytes.length)

/-- Bytes filled up with zeros to whole blocks. -/
def padBlocks (bytes : List UInt8) : List UInt8 :=
  bytes ++ zeros ((blockSize - bytes.length % blockSize) % blockSize)

/-- The octal digits of a number, so many of them. -/
def octal : Nat → Nat → List UInt8
  | 0, _ => []
  | width + 1, n => octal width (n / 8) ++ [.ofNat (48 + n % 8)]

/-- A number in a header: octal digits and a zero. -/
def numberField (size n : Nat) : List UInt8 :=
  octal (size - 1) n ++ [0]

/-- What a member is. -/
inductive Kind where
  | file
  | directory
  /-- The name of the member that follows. -/
  | longName
  deriving DecidableEq, Repr

namespace Kind

/-- The letter of a kind. -/
def letter : Kind → UInt8
  | .file => 48
  | .directory => 53
  | .longName => 76

/-- Who may do what with a member. -/
def mode : Kind → Nat
  | .file | .longName => 420
  | .directory => 493

end Kind

/-- What precedes the checksum in a header. -/
def headerStart (kind : Kind) (name : List UInt8) (size : Nat) : List UInt8 :=
  padTo longestName (name.take longestName) ++ numberField 8 kind.mode ++ numberField 8 0
    ++ numberField 8 0 ++ numberField 12 size ++ numberField 12 0

/-- What follows the checksum in a header: the kind, no link, and the mark of the format. -/
def headerEnd (kind : Kind) : List UInt8 :=
  padTo 356 (kind.letter :: zeros 100 ++ Text.encode "ustar  ".toList)

/-- The checksum of a header, its own place counting as blanks. -/
def checksum (start ending : List UInt8) : Nat :=
  (start ++ List.replicate 8 32 ++ ending).foldr (fun b n => UInt8.toNat b + n) 0

/-- A member: its header and its content. -/
def record (kind : Kind) (name content : List UInt8) : List UInt8 :=
  let start := headerStart kind name content.length
  let ending := headerEnd kind
  start ++ octal 6 (checksum start ending) ++ [0, 32] ++ ending ++ padBlocks content

/-- The member that holds a name too long for a header. -/
def longNameRecord (name : List UInt8) : List UInt8 :=
  if name.length ≤ longestName then []
  else record .longName (Text.encode "././@LongLink".toList) (name ++ [0])

/-- The name of a member; that of a directory ends in a slash. -/
def memberName : Member → List UInt8
  | (path, some _) => Text.encode ("/".intercalate path).toList
  | (path, none) => Text.encode ("/".intercalate path ++ "/").toList

/-- A member with all that belongs to it. -/
def memberRecord (m : Member) : List UInt8 :=
  let name := memberName m
  longNameRecord name ++ record (if m.2.isSome then .file else .directory) name (m.2.getD [])

/-- A tape archive: its members and two empty blocks. -/
def tape (members : List Member) : List UInt8 :=
  members.flatMap memberRecord ++ zeros (2 * blockSize)

/-- The bytes of a number, least byte first, so many of them. -/
def littleEndian : Nat → Nat → List UInt8
  | 0, _ => []
  | width + 1, n => .ofNat n :: littleEndian width (n / 256)

/-- How many bytes one stored block of a stream may hold. -/
def longestStored : Nat := 65535

/-- A stored block of a stream. -/
def storedBlock (isLast : Bool) (bytes : List UInt8) : List UInt8 :=
  (if isLast then 1 else 0) :: littleEndian 2 bytes.length
    ++ littleEndian 2 (longestStored - bytes.length) ++ bytes

/-- Bytes as stored blocks. -/
def stored (bytes : List UInt8) : List UInt8 :=
  if _h : longestStored < bytes.length then
    storedBlock false (bytes.take longestStored) ++ stored (bytes.drop longestStored)
  else storedBlock true bytes
termination_by bytes.length
decreasing_by
  have : longestStored = 65535 := rfl
  simp only [List.length_drop]
  omega

/-- One bit of a cyclic redundancy check. -/
def crcBit (c : UInt32) : UInt32 :=
  if c &&& 1 = 1 then (c >>> 1) ^^^ 0xEDB88320 else c >>> 1

/-- One byte of a cyclic redundancy check. -/
def crcByte (c : UInt32) (b : UInt8) : UInt32 :=
  Nat.repeat crcBit 8 (c ^^^ b.toUInt32)

/-- The cyclic redundancy check of bytes. -/
def crc (bytes : List UInt8) : UInt32 :=
  bytes.foldl crcByte 0xFFFFFFFF ^^^ 0xFFFFFFFF

/-- What a gzip stream begins with: its mark, the method, and nothing about its making. -/
def gzipStart : List UInt8 :=
  [0x1F, 0x8B, 8, 0, 0, 0, 0, 0, 0, 255]

/-- Bytes as a gzip stream. -/
def gzip (bytes : List UInt8) : List UInt8 :=
  gzipStart ++ stored bytes ++ littleEndian 4 (crc bytes).toNat ++ littleEndian 4 bytes.length

/-- A compressed archive. -/
def bytes (members : List Member) : List UInt8 :=
  gzip (tape members)

end PageScript.Archive
