import PageScript.Text.Search

/-!
# The command line

The options of the program in their long and short spellings, values following an option or
attached to it. Words are taken from the left and the first that cannot be used ends the reading,
as does a request for help. An option takes no second value, and an empty value is none.
-/

namespace PageScript

/-- What the program is told to do. -/
structure Options where
  /-- The file that holds the job; standard input without it. -/
  input : Option String
  workDir : String
  chromePath : Option String
  /-- Whether the browser shows a window. -/
  headed : Bool
  deriving DecidableEq, Repr

/-- What a command line asks for. -/
inductive Command where
  | run (options : Options)
  | help
  | version
  deriving DecidableEq, Repr

namespace CommandLine

/-- Why a command line cannot be used. -/
inductive Fault where
  /-- A word that is no option and no value of one. -/
  | unexpected (word : String)
  | missingValue (option : String)
  /-- A value for an option that takes none. -/
  | needlessValue (option : String)
  /-- An option that is there twice. -/
  | twice (option : String)
  deriving DecidableEq, Repr

/-- The fault in words. -/
def Fault.message : Fault → String
  | .unexpected word => "error: unexpected argument '" ++ word ++ "' found"
  | .missingValue option =>
    "error: a value is required for '" ++ option ++ "' but none was supplied"
  | .needlessValue option => "error: unexpected value for '" ++ option ++ "' found"
  | .twice option => "error: the argument '" ++ option ++ "' cannot be used multiple times"

/-- The options that take a value. -/
inductive Valued where
  /-- The file that holds the job. -/
  | input
  | workDir
  | chromePath
  deriving DecidableEq, Repr

namespace Valued

/-- The long spelling. -/
def name : Valued → String
  | .input => "--input"
  | .workDir => "--work-dir"
  | .chromePath => "--chrome-path"

/-- The option of a long spelling. -/
def ofName? (name : String) : Option Valued :=
  [input, workDir, chromePath].find? (·.name == name)

/-- The option of a letter. -/
def ofLetter? : Char → Option Valued
  | 'i' => some .input
  | 'w' => some .workDir
  | _ => none

end Valued

/-- What was read so far. -/
structure Given where
  values : List (Valued × String)
  /-- Whether a window was asked for. -/
  headed : Bool

namespace Given

/-- The value of an option. -/
def value? (g : Given) (o : Valued) : Option String :=
  (g.values.find? (·.1 == o)).map (·.2)

/-- Gives an option its value. -/
def take (g : Given) (o : Valued) (value : String) : Except Fault Given :=
  if value.isEmpty then .error (.missingValue o.name)
  else if (g.value? o).isSome then .error (.twice o.name)
  else .ok { g with values := (o, value) :: g.values }

/-- The command, the executable being taken from a variable where no option names it. -/
def command (g : Given) (preset : Option String) : Except Fault Command :=
  match g.value? .chromePath, preset with
  | none, some "" => .error (.missingValue Valued.chromePath.name)
  | path, other =>
    .ok (.run
      { input := g.value? .input
        workDir := (g.value? .workDir).getD "."
        chromePath := path.or other
        headed := g.headed })

end Given

/-- Whether a word is an option and not the value of one. -/
def isOption (word : String) : Bool :=
  match word.toList with
  | '-' :: _ :: _ => true
  | _ => false

/-- What a word asks for. -/
inductive Word where
  /-- An option, with a value attached to it. -/
  | valued (option : Valued) (value : String)
  /-- An option whose value is the next word. -/
  | awaiting (option : Valued)
  | headed
  | help
  | version

/-- What an option in its long spelling asks for. -/
def ofLong (word : String) : Except Fault Word :=
  let name := String.ofList (word.toList.takeWhile (· != '='))
  let value? := match word.toList.dropWhile (· != '=') with
    | _ :: value => some (String.ofList value)
    | [] => none
  match Valued.ofName? name, value? with
  | some o, some value => .ok (.valued o value)
  | some o, none => .ok (.awaiting o)
  | none, some _ =>
    if ["--headed", "--help", "--version"].contains name then .error (.needlessValue name)
    else .error (.unexpected word)
  | none, none =>
    match name with
    | "--headed" => .ok .headed
    | "--help" => .ok .help
    | "--version" => .ok .version
    | _ => .error (.unexpected word)

/-- What letters after a single dash ask for. -/
def ofLetters (word : String) : List Char → Except Fault Word
  | 'h' :: _ => .ok .help
  | 'V' :: _ => .ok .version
  | c :: rest =>
    match Valued.ofLetter? c with
    | none => .error (.unexpected word)
    | some o =>
      match rest with
      | [] => .ok (.awaiting o)
      | '=' :: value => .ok (.valued o (String.ofList value))
      | value => .ok (.valued o (String.ofList value))
  | [] => .error (.unexpected word)

/-- What a word asks for. -/
def ofWord (word : String) : Except Fault Word :=
  match word.toList with
  | '-' :: '-' :: _ => ofLong word
  | '-' :: c :: rest => ofLetters word (c :: rest)
  | _ => .error (.unexpected word)

/-- Reads the words that are left. -/
def readFrom (preset : Option String) (g : Given) : List String → Except Fault Command
  | [] => g.command preset
  | ["--"] => g.command preset
  | "--" :: word :: _ => .error (.unexpected word)
  | word :: rest => do
    match ← ofWord word with
    | .help => return .help
    | .version => return .version
    | .headed =>
      if g.headed then .error (.twice "--headed")
      else readFrom preset { g with headed := true } rest
    | .valued o value => do
      let g ← g.take o value
      readFrom preset g rest
    | .awaiting o =>
      match rest with
      | value :: rest =>
        if isOption value then .error (.missingValue o.name)
        else do
          let g ← g.take o value
          readFrom preset g rest
      | [] => .error (.missingValue o.name)

/-- Reads a command line; `preset` is what the environment says about the executable. -/
def read (preset : Option String) (words : List String) : Except Fault Command :=
  readFrom preset ⟨[], false⟩ words

/-- The variable that may name the browser's executable. -/
def chromeVariable : String := "CHROME_PATH"

/-- The name of the program. -/
def programName : String := "browser-steps"

/-- The version of the program. -/
def versionText : String :=
  programName ++ " 0.1.0\n"

/-- The explanation of the options. -/
def helpText (preset : Option String) : String :=
  "Runs a recorded or hand-written script of browser steps against a headless Chrome page and "
    ++ "reports a JSON result\n\nUsage: " ++ programName ++ " [OPTIONS]\n\nOptions:\n"
    ++ "  -i, --input <INPUT>              Read the job document from this file instead of stdin\n"
    ++ "  -w, --work-dir <WORK_DIR>        Directory holding downloads/, profile/ and "
    ++ "inference_summary/ [default: .]\n"
    ++ "      --chrome-path <CHROME_PATH>  Chrome executable (defaults to the Playwright cache, "
    ++ "then auto-detection) [env: " ++ chromeVariable ++ "=" ++ preset.getD "" ++ "]\n"
    ++ "      --headed                     Run Chrome with a visible window\n"
    ++ "  -h, --help                       Print help\n"
    ++ "  -V, --version                    Print version\n"

end CommandLine

end PageScript
