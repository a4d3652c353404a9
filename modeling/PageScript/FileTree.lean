import PageScript.Text.Search
import PageScript.Text.Utf8

/-!
# Files and directories

The part of the file system that a run works in, as what each path leads to, and the operations on
it that a run needs, with the troubles that a file system reports. A `Path` is a text with names
between slashes; `.`, `..` and empty names are understood when it is followed, names that are not
there stop it.
-/

namespace PageScript

/-- A path as it is written, with the directory where it begins unless it is absolute. -/
structure Path where
  /-- The names of the directory that relative paths begin in. -/
  directory : List String
  text : String
  deriving DecidableEq, Repr, Inhabited

namespace Path

/-- Whether the path begins at the root. -/
def isAbsolute (p : Path) : Bool :=
  p.text.toList.head? == some '/'

/-- The names of the directory where the path begins. -/
def start (p : Path) : List String :=
  if p.isAbsolute then [] else p.directory

/-- The names of the path. -/
def names (p : Path) : List String :=
  (p.text.toList.splitOn '/').map String.ofList

/-- The path of something in the directory that a path leads to. -/
def join (p : Path) (name : String) : Path :=
  if name.toList.head? == some '/' || p.text.isEmpty then { p with text := name }
  else if p.text.toList.getLast? == some '/' then { p with text := p.text ++ name }
  else { p with text := p.text ++ "/" ++ name }

end Path

/-- What an archive holds at a path: a file with its content, or a directory. -/
abbrev Member := List String × Option (List UInt8)

/-- What a path leads to. -/
inductive Entry where
  | file (bytes : List UInt8)
  /-- A compressed archive, by what it holds. -/
  | archive (members : List Member)
  | directory
  deriving DecidableEq, Repr

/-- Files and directories, by their paths from the root. -/
structure FileTree where
  /-- What each path leads to; the root is not listed. -/
  entries : List (List String × Entry)
  deriving DecidableEq, Repr, Inhabited

/-- Why an operation on files did not work. -/
inductive FileTrouble where
  | notFound
  | denied
  | exists
  /-- A file stands where a directory is needed. -/
  | notDirectory
  /-- A directory stands where a file is needed. -/
  | isDirectory
  | nameTooLong
  | nulInName
  deriving DecidableEq, Repr

/-- The trouble in words. -/
def FileTrouble.message : FileTrouble → String
  | .notFound => "No such file or directory (os error 2)"
  | .denied => "Permission denied (os error 13)"
  | .exists => "File exists (os error 17)"
  | .notDirectory => "Not a directory (os error 20)"
  | .isDirectory => "Is a directory (os error 21)"
  | .nameTooLong => "File name too long (os error 36)"
  | .nulInName => "file name contained an unexpected NUL byte"

namespace FileTree

/-- No files at all. -/
def empty : FileTree := ⟨[]⟩

/-- What is at a path without `.` and `..`. -/
def get? (t : FileTree) (path : List String) : Option Entry :=
  if path.isEmpty then some .directory
  else (t.entries.find? (·.1 == path)).map (·.2)

/-- Puts an entry at a path, in place of any other. -/
def put (t : FileTree) (path : List String) (entry : Entry) : FileTree :=
  ⟨(path, entry) :: t.entries.filter (·.1 != path)⟩

/-- Takes away the entry at a path. -/
def erase (t : FileTree) (path : List String) : FileTree :=
  ⟨t.entries.filter (·.1 != path)⟩

/-- How long a name may be, in bytes. -/
def longestName : Nat := 255

/-- Follows one name from a directory. -/
def enter (t : FileTree) (here : List String) (name : String) :
    Except FileTrouble (List String) :=
  if name.isEmpty || name == "." then .ok here
  else if name == ".." then .ok here.dropLast
  else if Text.byteLength name.toList > longestName then .error .nameTooLong
  else
    match t.get? (here ++ [name]) with
    | some .directory => .ok (here ++ [name])
    | some _ => .error .notDirectory
    | none => .error .notFound

/-- Follows names from a directory through directories. -/
def walk (t : FileTree) (here : List String) : List String → Except FileTrouble (List String)
  | [] => .ok here
  | name :: rest => do
    let next ← t.enter here name
    t.walk next rest

/-- Where a path leads whose last name may be new: the directory and the last name, which is absent
if the path can only mean a directory. -/
def locate (t : FileTree) (p : Path) : Except FileTrouble (List String × Option String) :=
  if p.text.toList.contains '\x00' then .error .nulInName
  else if p.text.isEmpty then .error .notFound
  else do
    let parent ← t.walk p.start p.names.dropLast
    match p.names.getLast? with
    | none => return (parent, none)
    | some name =>
      if name.isEmpty || name == "." || name == ".." then return (parent, none)
      else if Text.byteLength name.toList > longestName then .error .nameTooLong
      else return (parent, some name)

/-- Puts a file or an archive where a path leads, making it or replacing what it held. -/
def store (t : FileTree) (p : Path) (entry : Entry) : Except FileTrouble FileTree := do
  match ← t.locate p with
  | (_, none) => .error .isDirectory
  | (parent, some name) =>
    match t.get? (parent ++ [name]) with
    | some .directory => .error .isDirectory
    | _ => return t.put (parent ++ [name]) entry

/-- Writes a file, making it or replacing its content. -/
def write (t : FileTree) (p : Path) (bytes : List UInt8) : Except FileTrouble FileTree :=
  t.store p (.file bytes)

/-- Reads a file. -/
def read (t : FileTree) (p : Path) : Except FileTrouble Entry := do
  match ← t.locate p with
  | (_, none) => .error .isDirectory
  | (parent, some name) =>
    match t.get? (parent ++ [name]) with
    | some .directory => .error .isDirectory
    | some entry => return entry
    | none => .error .notFound

/-- Takes a file away. -/
def remove (t : FileTree) (p : Path) : Except FileTrouble FileTree := do
  match ← t.locate p with
  | (_, none) => .error .isDirectory
  | (parent, some name) =>
    match t.get? (parent ++ [name]) with
    | some .directory => .error .isDirectory
    | some _ => return t.erase (parent ++ [name])
    | none => .error .notFound

/-- Starts a file as a program. The files of a run are data, so this never works; what is told is
why. -/
def execute (t : FileTree) (p : Path) : FileTrouble :=
  match t.read p with
  | .ok _ => .denied
  | .error .isDirectory => .denied
  | .error trouble => trouble

/-- The directory that a path leads to. -/
def directory? (t : FileTree) (p : Path) : Option (List String) :=
  if p.text.isEmpty || p.text.toList.contains '\x00' then none
  else (t.walk p.start p.names).toOption

/-- Makes a directory of one name unless it is there. -/
def makeOne (t : FileTree) (here : List String) (name : String) :
    Except FileTrouble (FileTree × List String) :=
  match t.enter here name with
  | .ok next => .ok (t, next)
  | .error .notFound => .ok (t.put (here ++ [name]) .directory, here ++ [name])
  | .error e => .error e

/-- Makes the directories of names, from a directory on. A file at the last name is told apart from
one on the way. -/
def makeAll (t : FileTree) (here : List String) : List String → Except FileTrouble FileTree
  | [] => .ok t
  | [name] =>
    match t.makeOne here name with
    | .ok (t, _) => .ok t
    | .error .notDirectory => .error .exists
    | .error e => .error e
  | name :: rest => do
    let (t, next) ← t.makeOne here name
    t.makeAll next rest

/-- Makes the directory that a path leads to and those on the way to it, as far as they are not
there. -/
def makeDirectory (t : FileTree) (p : Path) : Except FileTrouble FileTree :=
  if p.text.toList.contains '\x00' then .error .nulInName
  else t.makeAll p.start p.names

/-- What lies below a directory, by the paths from there. -/
def below (t : FileTree) (here : List String) : List (List String × Entry) :=
  t.entries.filterMap fun (path, entry) =>
    match here.isPrefixOf? path with
    | some (name :: rest) => some (name :: rest, entry)
    | _ => none

end FileTree

end PageScript
