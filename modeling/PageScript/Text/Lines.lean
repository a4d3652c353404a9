/-!
# Lines

A text cut at its line feeds. A carriage return just before a line feed belongs to the line end,
and a line feed at the very end opens no further line.
-/

namespace PageScript.Text

/-- The line that a line feed ends, without a carriage return just before that line feed. -/
def dropReturn (line : List Char) : List Char :=
  match line.reverse with
  | '\r' :: rest => rest.reverse
  | _ => line

/-- The lines of a text, `current` being the reversed beginning of the line being read. -/
def linesFrom (current : List Char) : List Char → List (List Char)
  | [] => if current.isEmpty then [] else [current.reverse]
  | '\n' :: rest => dropReturn current.reverse :: linesFrom [] rest
  | c :: rest => linesFrom (c :: current) rest

/-- The lines of a text. -/
def lines (s : List Char) : List (List Char) :=
  linesFrom [] s

/-- A text made of lines, with a line feed between neighbours. -/
def ofLines (ls : List String) : String :=
  "\n".intercalate ls

end PageScript.Text
