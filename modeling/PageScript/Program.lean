import PageScript.Chrome.Launch
import PageScript.CommandLine
import PageScript.Lifecycle

/-!
# The program

From a command line, an environment and a job text to an exit code and the lines on standard
output. A job text that cannot be used still gets its result line, if it is an object that asks
for lines.
-/

namespace PageScript

namespace Browser

/-- A page that answers nothing. -/
def blankPage : Page :=
  ⟨fun _ _ => ⟨0, .ok .null⟩⟩

/-- A browser that does not start. -/
def unstartable (failure : Failure) : Browser :=
  { launch := .error failure
    warnings := []
    openPage := .ok ()
    observe := .ok ()
    recording := ⟨"", .ok (), .ok (), fun _ => []⟩
    page := blankPage
    observation := fun _ => ⟨[], []⟩
    close := fun _ => .ok () }

end Browser

namespace Executable

/-- The failure of a browser that was not found. -/
def notFound : Failure :=
  .launchFailed "Could not auto detect a chrome executable"

/-- The failure of a browser whose executable cannot be started. -/
def unstarted (trouble : String) : Failure :=
  .launchFailed (trouble ++ ". Set --chrome-path (or CHROME_PATH) to a Chrome or Chromium binary.")

/-- The browser of an executable among files that are data only. -/
def browser (files : FileTree) (options : Chrome.LaunchOptions) : Browser :=
  match options.executable with
  | none => .unstartable notFound
  | some path => .unstartable (unstarted (files.execute path).message)

end Executable

/-- What the program is started with. -/
structure Invocation where
  /-- The words of the command line. -/
  arguments : List String
  environment : Variables
  input : List UInt8
  files : FileTree
  /-- The directory where the program was started. -/
  directory : List String

/-- What the program uses of the machine it runs on. -/
structure Machine where
  /-- The browser, by what it is started with. -/
  browser : FileTree → Chrome.LaunchOptions → Browser
  /-- Whether the client of the language model can be made. -/
  client : Except Failure Unit
  /-- Who answers for the language model. -/
  server : Model.Server
  timestamp : Nat → String

/-- How the program ended. -/
structure Ending where
  code : Nat
  output : String
  log : List LogLine
  files : FileTree

namespace Program

/-- Lines, each with its end. -/
def linesText (lines : List String) : String :=
  String.join (lines.map (· ++ "\n"))

/-- The text of the job, unless it cannot be read. -/
def jobText (inv : Invocation) (options : Options) : Option String :=
  let bytes? := match options.input with
    | none => some inv.input
    | some path =>
      match inv.files.read ⟨inv.directory, path⟩ with
      | .ok (.file bytes) => some bytes
      | _ => none
  (bytes?.bind Text.decode?).map String.ofList

/-- The result line of a job text that cannot be used; none unless it asks for lines. -/
def refusal (text : String) (failure : Failure) : List String :=
  if Job.peekReporting text then [(Report.failure failure.message .empty).line] else []

/-- What a job starts the browser with. -/
def launchOptions (inv : Invocation) (options : Options) (job : Job) : Chrome.LaunchOptions :=
  .ofSettings job.settings (options.chromePath.map fun p => ⟨inv.directory, p⟩)
    ⟨inv.directory, options.workDir⟩ (!options.headed)

/-- What a job runs with. -/
def setting (machine : Machine) (inv : Invocation) (options : Options) (job : Job) : Setting :=
  { work := ⟨inv.directory, options.workDir⟩
    vars := inv.environment
    browser := machine.browser inv.files (launchOptions inv options job)
    client := machine.client
    server := machine.server
    timestamp := machine.timestamp }

/-- The directory all of which a run looks at. -/
def inferenceDirectory (inv : Invocation) (options : Options) : Path :=
  (⟨inv.directory, options.workDir⟩ : Path).join Model.InferenceLog.directoryName

/-- The paths that a run looks at. -/
def paths (inv : Invocation) (options : Options) : List Path :=
  let work : Path := ⟨inv.directory, options.workDir⟩
  let downloads := work.join "downloads"
  let named := [options.input, options.chromePath].filterMap fun text? =>
    text?.map fun text => (⟨inv.directory, text⟩ : Path)
  named
    ++ [work.join "profile", downloads.join "job.json", downloads.join "env.json",
        downloads.join Model.InferenceLog.archiveName, inferenceDirectory inv options]

/-- Runs a job and tells how it ended. -/
def runJob (setting : Setting) (job : Job) (files : FileTree) : Ending :=
  let start := { RunState.initial ⟨job.reporting, .reliable⟩ with files := files }
  match Lifecycle.run setting job start with
  | .ok code s => ⟨code, linesText s.reporter.writer.written, s.log, s.files⟩
  | .error e s => ⟨1, linesText s.reporter.writer.written, s.log ++ [.failure e.message], s.files⟩

/-- Runs the job that options name. -/
def runOptions (machine : Machine) (inv : Invocation) (options : Options) : Ending :=
  match jobText inv options with
  | none => ⟨1, "", [], inv.files⟩
  | some text =>
    match Job.parse text with
    | .ok job => runJob (setting machine inv options job) job inv.files
    | .error failure =>
      ⟨1, linesText (refusal text failure), [.failure failure.message], inv.files⟩

/-- What the environment says about the executable. -/
def preset (inv : Invocation) : Option String :=
  inv.environment.get? CommandLine.chromeVariable

/-- What the command line asks for. -/
def command (inv : Invocation) : Except CommandLine.Fault Command :=
  CommandLine.read (preset inv) inv.arguments

/-- Runs the program. -/
def run (machine : Machine) (inv : Invocation) : Ending :=
  match command inv with
  | .error fault => ⟨2, "", [.failure fault.message], inv.files⟩
  | .ok .help => ⟨0, CommandLine.helpText (preset inv), [], inv.files⟩
  | .ok .version => ⟨0, CommandLine.versionText, [], inv.files⟩
  | .ok (.run options) => runOptions machine inv options

end Program

end PageScript
