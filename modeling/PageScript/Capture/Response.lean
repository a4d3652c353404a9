import PageScript.Failure
import PageScript.Json.Parser
import PageScript.Json.Printer
import PageScript.Base64
import PageScript.Text.Search

/-!
# Captured responses

A rule says which responses to capture and where their bodies go. Of a response its address, its
status and its headers are known first (`ResponseMeta`), header names in lower case; the body
follows and is JSON, text or mere bytes (`ResponseBody.decode`). A `Capture` is what the output
document tells of one response.
-/

namespace PageScript

/-- Which responses to capture, and what to do with their bodies. -/
structure CaptureRule where
  /-- A part of the addresses to capture. -/
  url : String
  download : Bool
  /-- Whether JSON files are laid out for reading. -/
  pretty : Bool
  deriving DecidableEq, Repr

/-- Whether a rule is meant for an address. -/
def CaptureRule.applies (rule : CaptureRule) (url : String) : Bool :=
  Text.occursIn rule.url.toList url.toList

/-- What is known of a response before its body. -/
structure ResponseMeta where
  url : String
  status : Int
  /-- The headers, their names in lower case and ascending. -/
  headers : List (String × Json)

namespace ResponseMeta

/-- Headers with lower-case names; where several names become one, the last counts. -/
def lowerHeaders (headers : List (String × Json)) : List (String × Json) :=
  Json.sortFields (headers.map fun h => (h.1.toLower, h.2))

/-- What is known of a response with the given headers; anything but an object has none. -/
def ofHeaders (url : String) (status : Int) (headers : Json) : ResponseMeta :=
  ⟨url, status, lowerHeaders (headers.fields?.getD [])⟩

/-- The type of the body, empty if it is not told. -/
def contentType (m : ResponseMeta) : String :=
  ((Json.lookup? "content-type" m.headers).bind Json.text?).getD ""

end ResponseMeta

/-- The body of a response. -/
inductive ResponseBody where
  | json (v : Json)
  | text (s : String)
  | binary (bytes : List UInt8)

namespace ResponseBody

/-- The bytes of a body as the browser hands it out, encoded or as a text. -/
def rawBytes (body : String) (encoded : Bool) : Except Failure (List UInt8) :=
  let bytes := Text.encode body.toList
  if encoded then
    match Base64.decode bytes with
    | .ok decoded => .ok decoded
    | .error e => .error (.other ("invalid base64 body: " ++ e.message))
  else .ok bytes

/-- The body that bytes of a content type are. -/
def ofBytes (bytes : List UInt8) (contentType : String) : Except Failure ResponseBody :=
  if Text.occursIn "application/json".toList contentType.toList then
    match Json.parseBytes bytes with
    | .ok v => .ok (.json v)
    | .error e => .error (.unreadable e.message)
  else
    match Text.decode? bytes with
    | some s => .ok (.text (String.ofList s))
    | none => .ok (.binary bytes)

/-- Reads a body as the browser hands it out. -/
def decode (body : String) (encoded : Bool) (contentType : String) :
    Except Failure ResponseBody := do
  let bytes ← rawBytes body encoded
  ofBytes bytes contentType

/-- The body inside the output document. -/
def inline : ResponseBody → Json
  | .json v => v
  | .text s => .string s
  | .binary bytes => .string (String.ofList (Text.decodeLossy bytes))

/-- The bytes of a text in a file. -/
def textBytes (s : String) : List UInt8 :=
  Text.encode s.toList

/-- The bytes of the body in a file. Lists, objects and `null` end with a line feed; texts and
other single values are written bare. -/
def fileBytes (pretty : Bool) : ResponseBody → List UInt8
  | .json (.string s) => textBytes s
  | .json (.number n) => textBytes (Json.print (.number n))
  | .json (.bool b) => textBytes (Json.print (.bool b))
  | .json v => textBytes (if pretty then v.printTabbed else v.print) ++ [10]
  | .text s => textBytes s
  | .binary bytes => bytes

end ResponseBody

/-- Where the body of a captured response is. -/
inductive Payload where
  /-- In the output document; `null` if it could not be read. -/
  | inline (response : Json)
  /-- In a file of the downloads directory. -/
  | file (name : String)

/-- A captured response. -/
structure Capture where
  url : String
  status : Int
  /-- The headers, their names in lower case and ascending. -/
  headers : List (String × Json)
  payload : Payload

namespace Capture

/-- The field of the body. -/
def payloadField : Payload → String × Json
  | .inline response => ("response", response)
  | .file name => ("filename", .string name)

/-- The capture in the output document. -/
def toJson (c : Capture) : Json :=
  .object
    [("url", .string c.url), ("status", .ofInt c.status), ("headers", .object c.headers),
     payloadField c.payload]

end Capture

end PageScript
