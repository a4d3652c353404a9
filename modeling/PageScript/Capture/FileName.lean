import PageScript.Text.Lowercase
import PageScript.Text.Search
import PageScript.Text.WordChar

/-!
# File names of downloads

The name under which a captured body is kept, made from the address: scheme, host and a slash at
the end are left out, every run of characters other than word characters, hyphens and points
becomes one underscore, and letters become lower-case. A name without an ending gets one from the
content type.
-/

namespace PageScript.FileName

/-- Whether a character may stand in a name. -/
def isSafe (c : Char) : Bool :=
  Text.isWordChar c || c == '-' || c == '.'

/-- The part of an address after scheme and host and the slash that follows them; the whole address
if it does not begin so. -/
def pathOf (url : List Char) : List Char :=
  let scheme := url.takeWhile Text.isWordChar
  match url.dropWhile Text.isWordChar with
  | ':' :: '/' :: '/' :: rest =>
    match rest.takeWhile (· != '/'), rest.dropWhile (· != '/') with
    | _ :: _, '/' :: path => if scheme.isEmpty then url else path
    | _, _ => url
  | _ => url

/-- The text without a slash at its end. -/
def dropSlash (s : List Char) : List Char :=
  (Text.before? ['/'] s).getD s

/-- Every run of unsafe characters as one underscore; `inRun` says that the character before was
unsafe. -/
def squeezeFrom (inRun : Bool) : List Char → List Char
  | [] => []
  | c :: rest =>
    if isSafe c then c :: squeezeFrom false rest
    else if inRun then squeezeFrom true rest
    else '_' :: squeezeFrom true rest

/-- Every run of unsafe characters as one underscore. -/
def squeeze (s : List Char) : List Char :=
  squeezeFrom false s

/-- The name made from an address alone. -/
def stem (url : String) : List Char :=
  Text.lowercase (squeeze (dropSlash (pathOf url.toList)))

/-- Whether a name ends in a point and word characters. -/
def hasEnding (name : List Char) : Bool :=
  let reversed := name.reverse
  !(reversed.takeWhile Text.isWordChar).isEmpty
    && (reversed.dropWhile Text.isWordChar).head? == some '.'

/-- The word after the slash of a content type. -/
def subtype? (contentType : String) : Option (List Char) :=
  let type := contentType.toList.takeWhile Text.isWordChar
  match contentType.toList.dropWhile Text.isWordChar with
  | '/' :: rest =>
    let word := rest.takeWhile Text.isWordChar
    if type.isEmpty || word.isEmpty then none else some word
  | _ => none

/-- The name under which the body of a response is kept. -/
def derive (url contentType : String) : String :=
  let name := stem url
  if hasEnding name then String.ofList name
  else
    match subtype? contentType with
    | some word => String.ofList (name ++ '.' :: word)
    | none => String.ofList name

end PageScript.FileName
