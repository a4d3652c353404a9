/-!
# Character sets

A set of characters given as a table of code point ranges, both ends included. The tables of the
sibling modules (word characters, cased characters, unprintable characters) are of this form, in
ascending order.
-/

namespace PageScript.Text

/-- Whether a code point lies in one of the ranges of a table. -/
def covers (table : List (Nat × Nat)) (code : Nat) : Bool :=
  table.any fun range => range.1 ≤ code && code ≤ range.2

end PageScript.Text
