import PageScript.Json.Value
import PageScript.Text.Blank
import PageScript.Text.Search

/-!
# Locators

A recorded script names an element by raw selector texts in several spellings: `aria/Email`,
`text/Sign in`, `xpath///*[@id="x"]`, `pierce/#host >>> .item`, plain CSS. `Locator.classify`
decides how such a text finds its element, or that it cannot identify any.
-/

namespace PageScript

/-- One way to find an element. -/
inductive Locator where
  | label (value : String)
  /-- By a part of its visible text. -/
  | text (value : String)
  | xpath (value : String)
  /-- By CSS selectors, `>>` descending into what was found so far and its shadow root. -/
  | css (value : String)
  deriving DecidableEq, Repr

namespace Locator

/-- The name of the way in which a locator finds its element. -/
def way : Locator → String
  | .label _ => "label"
  | .text _ => "text"
  | .xpath _ => "xpath"
  | .css _ => "css"

/-- What a locator looks for. -/
def value : Locator → String
  | .label v | .text v | .xpath v | .css v => v

/-- The locator in messages. -/
def display (l : Locator) : String :=
  l.way ++ "=" ++ l.value

/-- The locator as a value. -/
def toJson (l : Locator) : Json :=
  .object [("by", .string l.way), ("value", .string l.value)]

/-- The selector text with every deep combinator `>>>` written `>>`. -/
def joinCombinators : List Char → List Char
  | '>' :: '>' :: '>' :: rest => '>' :: '>' :: joinCombinators rest
  | c :: rest => c :: joinCombinators rest
  | [] => []

/-- The raw text without the mark of a pierced shadow root, which is not kept. -/
def unpierced (raw : List Char) : List Char :=
  (Text.after? "pierce/".toList raw).getD raw

/-- The locator for a label, unless it is blank or a wildcard. -/
def ofLabel? (rest : List Char) : Option Locator :=
  let label := Text.trim rest
  if label.isEmpty || label == ['*'] then none else some (.label (String.ofList label))

/-- The locator for a visible text, unless it is empty or a wildcard. -/
def ofText? (rest : List Char) : Option Locator :=
  if rest.isEmpty || rest == ['*'] then none else some (.text (String.ofList rest))

/-- The locator for an expression written with any number of slashes before it. -/
def ofExpression? (rest : List Char) : Option Locator :=
  let expression := rest.dropWhile (· == '/')
  if Text.allBlank expression then none
  else some (.xpath (String.ofList ('/' :: '/' :: expression)))

/-- The locator of a text that carries no mark of its spelling. -/
def ofPlain (raw : List Char) : Locator :=
  if "//".toList.isPrefixOf raw || "(//".toList.isPrefixOf raw then
    .xpath (String.ofList raw)
  else .css (String.ofList (joinCombinators raw))

/-- How a raw selector text finds its element; `none` if it cannot identify any. -/
def classifyChars (raw : List Char) : Option Locator :=
  let raw := unpierced raw
  if Text.allBlank raw then none
  else
    match Text.after? "aria/".toList raw with
    | some rest => ofLabel? rest
    | none =>
      match Text.after? "text/".toList raw with
      | some rest => ofText? rest
      | none =>
        match Text.after? "xpath/".toList raw with
        | some rest => ofExpression? rest
        | none => some (ofPlain raw)

/-- How a raw selector finds its element; `none` if it cannot identify any. -/
def classify (raw : String) : Option Locator :=
  classifyChars raw.toList

end Locator

end PageScript
