import PageScript.Text.Blank
import PageScript.Text.Search

/-!
# Unwrapping a model's reply

Models are told to answer with bare JSON and often wrap it in a code fence all the same.
`unfence` takes off surrounding blanks and one fence; a fence that does not close stays.
-/

namespace PageScript.Model

/-- The inside of a text that begins with an opening and ends with a closing fence. -/
def inside? (opening s : List Char) : Option (List Char) :=
  ((Text.after? opening s).bind (Text.before? "```".toList)).map Text.trim

/-- The reply without surrounding blanks and without the fence around it, if there is one. -/
def unfenceChars (reply : List Char) : List Char :=
  let s := Text.trim reply
  if "```json".toList.isPrefixOf s then (inside? "```json".toList s).getD s
  else if "```".toList.isPrefixOf s then (inside? "```".toList s).getD s
  else s

/-- The reply without surrounding blanks and without the fence around it, if there is one. -/
def unfence (reply : String) : String :=
  String.ofList (unfenceChars reply.toList)

end PageScript.Model
