/-!
# Searching and cutting texts

The few questions about parts of a text that the other modules ask: whether a text occurs in
another, what follows a given beginning, what precedes a given end, and joining with a separator.
Comparison without regard to the case of ASCII letters is here as well.
-/

namespace PageScript.Text

/-- Whether `part` occurs in the text as a run of consecutive characters. -/
def occursIn (part : List Char) : List Char → Bool
  | [] => part.isEmpty
  | c :: rest => part.isPrefixOf (c :: rest) || occursIn part rest

/-- What follows `start` in a text that begins with it. -/
def after? (start s : List Char) : Option (List Char) :=
  start.isPrefixOf? s

/-- What precedes `ending` in a text that ends with it. -/
def before? (ending s : List Char) : Option (List Char) :=
  ending.isSuffixOf? s

/-- The text without trailing copies of a character. -/
def dropTrailing (c : Char) (s : List Char) : List Char :=
  (s.reverse.dropWhile (· == c)).reverse

/-- Whether two texts agree up to the case of ASCII letters. -/
def sameLetters (s t : List Char) : Bool :=
  s.map Char.toLower == t.map Char.toLower

/-- The texts one after the other, with a separator between neighbours. -/
def joinWith (separator : List Char) : List (List Char) → List Char
  | [] => []
  | [s] => s
  | s :: rest => s ++ separator ++ joinWith separator rest

end PageScript.Text
