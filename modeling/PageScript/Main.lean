import PageScript.Archive
import PageScript.Program

/-!
# The program on a machine

The outer layer of the program: it gathers what the run depends on — words, environment, standard
input and the files the run looks at —, lets `Program.run` decide, and then writes what has
changed. Programs are not started from here and no connections are made, so a job gets as far as
starting its browser.
-/

namespace PageScript.Host

/-- The names that a path goes through, a step up being taken back. -/
def plainNames (p : Path) : List String :=
  p.names.foldl
    (fun names name =>
      if name.isEmpty || name == "." then names
      else if name == ".." then names.dropLast
      else names ++ [name])
    p.start

/-- The text of names from the root. -/
def textOf (names : List String) : String :=
  "/" ++ "/".intercalate names

/-- What is at a place. -/
def look (names : List String) : IO (Option Entry) := do
  let place := (← IO.currentDir) / textOf names
  if ← place.isDir then return some .directory
  if !(← place.pathExists) then return none
  let bytes ← try IO.FS.readBinFile place catch _ => pure .empty
  return some (.file bytes.toList)

/-- Takes in what is at a place and on the way there. -/
def takeIn (tree : FileTree) (p : Path) : IO FileTree := do
  let mut tree := tree
  let mut here := []
  for name in plainNames p do
    here := here ++ [name]
    match ← look here with
    | some entry => tree := tree.put here entry
    | none => return tree
  return tree

/-- Takes in all that is below a directory. -/
partial def takeInBelow (tree : FileTree) (names : List String) : IO FileTree := do
  let place := (← IO.currentDir) / textOf names
  if !(← place.isDir) then return tree
  let mut tree := tree
  for entry in ← place.readDir do
    let names := names ++ [entry.fileName]
    match ← look names with
    | some found => tree ← takeInBelow (tree.put names found) names
    | none => pure ()
  return tree

/-- Puts an entry on the machine. -/
def putEntry (change : List String × Entry) : IO Unit := do
  let place := (← IO.currentDir) / textOf change.1
  match change.2 with
  | .directory => IO.FS.createDirAll place
  | .file bytes => IO.FS.writeBinFile place ⟨bytes.toArray⟩
  | .archive members => IO.FS.writeBinFile place ⟨(Archive.bytes members).toArray⟩

/-- Puts on the machine what has changed, directories before what is in them. -/
def putChanges (before after : FileTree) : IO Unit := do
  for (names, _) in before.entries do
    if (after.get? names).isNone then
      IO.FS.removeFile ((← IO.currentDir) / textOf names)
  let changes := after.entries.filter fun (names, entry) => before.get? names != some entry
  for change in changes.mergeSort fun a b => a.1.length ≤ b.1.length do
    putEntry change

/-- A name and a value with an equals sign between them. -/
def setting? (bytes : List UInt8) : Option (String × String) := do
  let text ← Text.decode? bytes
  match text with
  | [] => none
  | c :: rest =>
    match rest.dropWhile (· != '=') with
    | _ :: value => some (String.ofList (c :: rest.takeWhile (· != '=')), String.ofList value)
    | [] => none

/-- The environment. -/
def environment : IO Variables := do
  let bytes ← try IO.FS.readBinFile "/proc/self/environ" catch _ => pure .empty
  return ⟨(bytes.toList.splitOnP (· == 0)).filterMap setting?⟩

/-- All that a stream holds. -/
partial def readAll (stream : IO.FS.Stream) (done : ByteArray) : IO ByteArray := do
  let bytes ← stream.read 65536
  if bytes.isEmpty then return done
  readAll stream (done ++ bytes)

/-- What the program uses of this machine. -/
def machine : Machine :=
  { browser := Executable.browser
    client := .ok ()
    server := fun _ => .unreachable
    timestamp := fun _ => "" }

/-- Adds to an invocation what a run with options depends on. -/
def gather (inv : Invocation) (options : Options) : IO Invocation := do
  let input ← if options.input.isSome then pure .empty else readAll (← IO.getStdin) .empty
  let mut tree := inv.files
  for p in Program.paths inv options do
    tree ← takeIn tree p
  tree ← takeInBelow tree (plainNames (Program.inferenceDirectory inv options))
  return { inv with input := input.toList, files := tree }

/-- Runs the program. Gives the exit code. -/
def run (words : List String) : IO UInt32 := do
  let here := (← IO.currentDir).toString
  let directory := plainNames ⟨[], here⟩
  let bare : Invocation :=
    { arguments := words, environment := ← environment, input := [], files := .empty
      directory := directory }
  let inv ← match Program.command bare with
    | .ok (.run options) => gather bare options
    | _ => pure bare
  let ending := Program.run machine inv
  putChanges inv.files ending.files
  IO.print ending.output
  for line in ending.log do
    IO.eprintln line.render
  return .ofNat ending.code

end PageScript.Host

/-- The program. -/
def main (words : List String) : IO UInt32 :=
  PageScript.Host.run words
