/-!
# Blank characters

The white space of Unicode, and the cuts that depend on it: a text without its leading, trailing
or surrounding blanks, and the test that a text holds a blank at all.
-/

namespace PageScript.Text

/-- Whether a character is white space in the sense of Unicode. -/
def isBlank (c : Char) : Bool :=
  let n := c.toNat
  (9 ≤ n && n ≤ 13) || n == 0x20 || n == 0x85 || n == 0xA0 || n == 0x1680
    || (0x2000 ≤ n && n ≤ 0x200A) || n == 0x2028 || n == 0x2029 || n == 0x202F
    || n == 0x205F || n == 0x3000

/-- The text without its leading blanks. -/
def trimStart (s : List Char) : List Char :=
  s.dropWhile isBlank

/-- The text without its trailing blanks. -/
def trimEnd (s : List Char) : List Char :=
  (trimStart s.reverse).reverse

/-- The text without its surrounding blanks. -/
def trim (s : List Char) : List Char :=
  trimEnd (trimStart s)

/-- Whether every character of the text is blank. -/
def allBlank (s : List Char) : Bool :=
  s.all isBlank

/-- Whether the text holds a blank. -/
def hasBlank (s : List Char) : Bool :=
  s.any isBlank

end PageScript.Text
