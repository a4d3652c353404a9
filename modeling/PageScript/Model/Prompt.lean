import PageScript.Json.Printer
import PageScript.Text.Blank
import PageScript.Text.Lines

/-!
# What the language model is told

The messages of the two kinds of request: choose one action on a page, given the list of its
elements, and extract data from its text. Of variables only the names are told.
-/

namespace PageScript.Model

/-- A message of a conversation. -/
structure Message where
  role : String
  content : String
  deriving DecidableEq, Repr

/-- A message as a value. -/
def Message.toJson (m : Message) : Json :=
  .object [("content", .string m.content), ("role", .string m.role)]

/-- How to choose an action. -/
def actInstructions : String :=
  Text.ofLines
    ["You operate a web page on behalf of a script. You receive one instruction and a list of the page's interactive elements. Choose exactly ONE action that carries out the instruction.",
     "",
     "Respond with a single JSON object, no markdown:",
     "",
     "\x7b\"action\": \"click\", \"element\": \"e3\", \"description\": \"click the Sign in button\"\x7d",
     "\x7b\"action\": \"fill\", \"element\": \"e5\", \"value\": \"jane@example.com\", \"description\": \"...\"\x7d",
     "\x7b\"action\": \"type\", \"element\": \"e5\", \"value\": \"hello\", \"description\": \"...\"\x7d",
     "\x7b\"action\": \"press\", \"key\": \"Enter\", \"description\": \"...\"\x7d",
     "\x7b\"action\": \"scroll\", \"direction\": \"down\", \"description\": \"...\"\x7d",
     "\x7b\"action\": \"none\", \"description\": \"...\", \"reason\": \"why the instruction cannot be carried out\"\x7d",
     "",
     "Rules:",
     "1. \"element\" must be an id from the element list.",
     "2. \"fill\" replaces a field's value; \"type\" clicks the element and types at the cursor.",
     "3. Placeholders written as %NAME% stand for secret values. Copy them into \"value\" verbatim; never invent their contents."]

/-- How to extract data. -/
def extractInstructions : String :=
  Text.ofLines
    ["You extract data from a web page. You receive an instruction and the visible text of the page.",
     "",
     "Respond with a single JSON object, no markdown: \x7b\"result\": <the extracted data>\x7d",
     "",
     "Use whatever JSON shape fits the instruction best (string, number, list or object). If the requested data is not on the page, respond with \x7b\"result\": null\x7d."]

/-- The opening message: the job's own instructions, unless blank, before those given. -/
def systemMessage (instructions : String) (custom : Option String) : Message :=
  let own := Text.trim (custom.getD "").toList
  if own.isEmpty then ⟨"system", instructions⟩
  else ⟨"system", String.ofList own ++ "\n\n" ++ instructions⟩

/-- The text in a field of a page description, empty if there is none. -/
def textField (page : Json) (name : String) : String :=
  ((page.field? name).bind Json.text?).getD ""

/-- The beginning of the user's message. -/
def heading (instruction : String) (page : Json) : String :=
  "INSTRUCTION: " ++ instruction ++ "\n\nPAGE: " ++ textField page "title" ++ " ("
    ++ textField page "url" ++ ")\n\n"

/-- The line about placeholders, if there are any. -/
def placeholderNote (names : List String) : String :=
  if names.isEmpty then ""
  else
    "\n\nAVAILABLE PLACEHOLDERS: "
      ++ ", ".intercalate (names.map fun n => "%" ++ n ++ "%")

/-- The messages that ask for one action on the listed elements of a page. -/
def actMessages (instruction : String) (snapshot : Json) (names : List String)
    (custom : Option String) : List Message :=
  [systemMessage actInstructions custom,
   ⟨"user", heading instruction snapshot ++ "ELEMENTS:\n" ++ (snapshot.field "elements").print
     ++ placeholderNote names⟩]

/-- How many characters of a page's text are told. -/
def longestPageText : Nat := 60000

/-- The messages that ask for data from the text of a page. -/
def extractMessages (instruction : String) (page : Json) (custom : Option String) :
    List Message :=
  [systemMessage extractInstructions custom,
   ⟨"user", heading instruction page ++ "TEXT:\n"
     ++ String.ofList ((textField page "text").toList.take longestPageText)⟩]

end PageScript.Model
