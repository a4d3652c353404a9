import PageScript.Step
import PageScript.Text.Lines

/-!
# Line scripts

A script written as plain text, one instruction a line:

    navigate[:] [to] <address>
    capture[:] <part of an address>
    extract[:] <instruction>
    evaluate[:] <expression>
    sleep[:] [for] <milliseconds>
    <anything else>                an instruction to carry out

Keywords may be in any letter case. Lines that do not begin with an ASCII letter, a digit or an
underscore are comments. The rules are tried in this order; a line that no rule accepts as a whole
is an instruction.
-/

namespace PageScript.Line

/-- What follows a keyword, an optional colon and at least one blank; it must not be empty. -/
def afterKeyword (keyword line : List Char) : Option (List Char) :=
  if Text.sameLetters (line.take keyword.length) keyword then
    let rest := line.drop keyword.length
    let rest := match rest with
      | ':' :: r => r
      | r => r
    match rest with
    | c :: _ =>
      let rest := Text.trimStart rest
      if Text.isBlank c && !rest.isEmpty then some rest else none
    | [] => none
  else none

/-- A text without blanks. -/
def token? (s : List Char) : Option (List Char) :=
  if Text.hasBlank s then none else some s

/-- A text without blanks that may follow a given word. -/
def tokenAfter? (word rest : List Char) : Option (List Char) :=
  ((afterKeyword word rest).bind token?).or (token? rest)

/-- The step of a line that opens a page. -/
def navigate? (line : List Char) : Option Step := do
  let rest ← afterKeyword "navigate".toList line
  let url ← tokenAfter? "to".toList rest
  return .navigate
    { url := some (.string (String.ofList url)), timeout := none, waitUntil := none }

/-- The step of a line that captures responses. -/
def capture? (line : List Char) : Option Step := do
  let rest ← afterKeyword "capture".toList line
  let url ← token? rest
  return .capture { url := some (.string (String.ofList url)), download := false, pretty := false }

/-- The step of a line that reads data off the page; the whole line is the instruction. -/
def extract? (line : List Char) : Option Step := do
  let _ ← afterKeyword "extract".toList line
  return .extract { prompt := some (String.ofList line), timeout := none }

/-- The step of a line that evaluates an expression. -/
def evaluate? (line : List Char) : Option Step := do
  let code ← afterKeyword "evaluate".toList line
  return .evaluate { script := some (String.ofList code) }

/-- The number of milliseconds that a run of digits denotes, below 2 ^ 64. -/
def milliseconds? (digits : List Char) : Option Nat :=
  let n := Text.decimalValue digits
  if digits.isEmpty || !digits.all Char.isDigit || n ≥ 0x10000000000000000 then none else some n

/-- The step of a line that does nothing for a while. -/
def sleep? (line : List Char) : Option Step := do
  let rest ← afterKeyword "sleep".toList line
  let digits ← tokenAfter? "for".toList rest
  let duration ← milliseconds? digits
  return .sleep { duration := some duration }

/-- The step of an instruction line. -/
def action (line : List Char) : Step :=
  .action { prompt := some (String.ofList line), timeout := none }

/-- The step of a line. -/
def step (line : List Char) : Step :=
  ((navigate? line).or <| (capture? line).or <| (extract? line).or <|
    (evaluate? line).or <| sleep? line).getD (action line)

/-- Whether a line begins with an ASCII letter, a digit or an underscore. -/
def isInstruction (line : List Char) : Bool :=
  match line with
  | c :: _ => c.isAlphanum || c == '_'
  | [] => false

/-- The instruction lines of a text, without surrounding blanks. -/
def instructions (text : List Char) : List (List Char) :=
  ((Text.lines text).map Text.trim).filter isInstruction

/-- The steps of a text. -/
def steps (text : String) : List Step :=
  (instructions text.toList).map step

end PageScript.Line
