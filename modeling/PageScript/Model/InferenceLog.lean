import PageScript.Failure
import PageScript.FileTree
import PageScript.Json.Printer
import PageScript.Log

/-!
# The inference log

Every exchange with the language model can be kept as a file of its own, numbered in the order of
the exchanges; a number is used up even if its file cannot be written. At the end of a run the
directory is packed into one archive among the downloads.
-/

namespace PageScript.Model

/-- A directory of exchanges. -/
structure InferenceLog where
  directory : Path
  /-- The number of the next exchange. -/
  next : Nat
  deriving DecidableEq, Repr

namespace InferenceLog

/-- The name of the directory in a work directory. -/
def directoryName : String := "inference_summary"

/-- The name of the archive among the downloads. -/
def archiveName : String := "inference_summary.tar.gz"

/-- A log whose first exchange is still to come. -/
def ofDirectory (directory : Path) : InferenceLog := ⟨directory, 1⟩

/-- The name of the file of an exchange. -/
def fileName (number : Nat) (purpose : String) : String :=
  String.ofList (Text.paddedDecimal 3 number) ++ "-" ++ purpose ++ ".json"

/-- The content of the file of an exchange. -/
def entry (purpose timestamp : String) (request response : Json) : Json :=
  .object
    [("kind", .string purpose), ("request", request), ("response", response),
     ("timestamp", .string timestamp)]

/-- Keeps an exchange. Gives the log and the files afterwards, and what there is to tell: the run
goes on if the exchange cannot be kept. -/
def record (log : InferenceLog) (files : FileTree) (purpose timestamp : String)
    (request response : Json) : InferenceLog × FileTree × List LogLine :=
  let file := log.directory.join (fileName log.next purpose)
  let log' := { log with next := log.next + 1 }
  let content := entry purpose timestamp request response
  match files.makeDirectory log.directory with
  | .error trouble =>
    (log', files,
      [.warning ("failed to write inference log " ++ file.text ++ ": " ++ trouble.message)])
  | .ok files =>
    match files.write file (Text.encode content.printIndented.toList) with
    | .ok files => (log', files, [])
    | .error trouble =>
      (log', files,
        [.warning ("failed to write inference log " ++ file.text ++ ": " ++ trouble.message)])

/-- An entry as a member of an archive, if archives hold entries of its sort. -/
def member? : List String × Entry → Option Member
  | (path, .file bytes) => some (directoryName :: path, some bytes)
  | (path, .directory) => some (directoryName :: path, none)
  | (_, .archive _) => none

/-- What the archive of a directory holds. -/
def members (files : FileTree) (directory : List String) : List Member :=
  ([directoryName], none) :: (files.below directory).filterMap member?

/-- Packs the directory into an archive in another directory. Gives the files afterwards and where
the archive is; there is none if the directory is not there. -/
def archive (files : FileTree) (directory downloads : Path) :
    Except Failure (FileTree × Option Path) :=
  match files.directory? directory with
  | none => .ok (files, none)
  | some names =>
    let target := downloads.join archiveName
    match files.store target (.archive (members files names)) with
    | .ok files => .ok (files, some target)
    | .error trouble => .error (.storage trouble.message)

end InferenceLog

end PageScript.Model
