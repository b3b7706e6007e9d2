import SchemaForward.CommandLine.Location
import SchemaForward.Configuration
import SchemaForward.Model.Encoding
import SchemaForward.Target.Sqlite.Catalogue

/-!
# The working directory

The files that a run reads and writes, by their paths: from the directory it runs in, or from the
root. A file holds text, a database or something else. A directory is there if it is listed, or if
some file is in it; so are the directory of the run and all around it.

A path is walked step by step, and every step needs a directory to start from. That goes for a step
to the directory itself too, so a path with a separator at its end can only mean a directory.
-/

namespace SchemaForward

/-- What is in a file. -/
inductive FileContents where
  | text (value : String)
  | database (catalogue : Sqlite.Catalogue)
  | other
  deriving DecidableEq, Repr, Inhabited

/-- What is at a location. -/
inductive Entry where
  | folder
  | file (contents : FileContents)
  | nothing
  deriving DecidableEq, Repr, Inhabited

/-- Files by their paths, and the paths of directories that may be empty. -/
structure Directory where
  files : List (String × FileContents) := []
  folders : List String := []
  deriving DecidableEq, Repr, Inhabited

namespace Directory

/-- What is at a location. -/
def entry (directory : Directory) (location : Location) : Entry :=
  match directory.files.find? fun file => Location.ofPath file.1 == location with
  | some file => .file file.2
  | none =>
    let listed := directory.folders ++ directory.files.map (·.1)
    let holds (path : String) : Bool := (Location.ofPath path).isWithin location
    if location.names.isEmpty || listed.any holds then .folder else .nothing

/-- The most bytes that a name can have. -/
def longestName : Nat :=
  255

/-- The most bytes that a path can have. -/
def longestPath : Nat :=
  4095

/-- Why a path leads nowhere whatever the files are. -/
def unusable? (path : String) : Option FileFault :=
  if path.toList.contains '\x00' then some .badPath
  else if path.isEmpty then some .missing
  else if longestPath < path.utf8ByteSize then some .nameTooLong
  else none

/-- Where a step leads from a location. -/
def follow (directory : Directory) (location : Location) (name : List Char) :
    Except FileFault Location :=
  match directory.entry location with
  | .nothing => .error .missing
  | .file _ => .error .notDirectory
  | .folder =>
    if longestName < Location.nameSize name then .error .nameTooLong
    else .ok (location.step name)

/-- Where steps lead from a location. -/
def walk (directory : Directory) (location : Location) (names : List (List Char)) :
    Except FileFault Location :=
  names.foldlM directory.follow location

/-- The path ends with a separator, so that it can only mean a directory. -/
def endsOpen (path : String) : Bool :=
  path.toList.getLast? == some '/'

/-- What is where a path leads. -/
def reached (directory : Directory) (path : String) : Except FileFault Entry :=
  match unusable? path with
  | some fault => .error fault
  | none =>
    (directory.walk (Location.start path)
      (Location.steps path ++ if endsOpen path then [Location.here] else [])).map directory.entry

/-- The contents of the file that a path leads to. -/
def contents (directory : Directory) (path : String) : Except FileFault FileContents :=
  match directory.reached path with
  | .error fault => .error fault
  | .ok .folder => .error .isDirectory
  | .ok (.file contents) => .ok contents
  | .ok .nothing => .error .missing

/-- The text of the file that a path leads to. A database is no text, unless nothing is in it. -/
def text (directory : Directory) (path : String) : Except FileFault String :=
  match directory.contents path with
  | .error fault => .error fault
  | .ok (.text value) => .ok value
  | .ok (.database catalogue) => if catalogue == {} then .ok "" else .error .notText
  | .ok .other => .error .notText

/-- The directory with other contents in the file at a location. -/
def replace (directory : Directory) (location : Location) (contents : FileContents) : Directory :=
  { directory with
    files := (directory.files.filter fun file => Location.ofPath file.1 != location) ++
      [(location.path, contents)] }

/-- Where a file that a path names is written. Its directory must be there, and what it names cannot
be one. -/
def writable (directory : Directory) (path : String) : Except FileFault Location := do
  if let some fault := unusable? path then throw fault
  let steps := Location.steps path
  let container ←
    directory.walk (Location.start path) (steps.dropLast ++ [Location.here])
  match steps.getLast? with
  | none => throw .isDirectory
  | some name =>
    if endsOpen path then throw .isDirectory
    let location ← directory.follow container name
    if directory.entry location == .folder then throw .isDirectory else return location

/-- The directory with a text written to a path. -/
def write (directory : Directory) (path value : String) : Except FileFault Directory :=
  (directory.writable path).map (directory.replace · (.text value))

/-- The value that a file of the directory describes. -/
def decode {α : Type} (directory : Directory) (read : Json → Option α) (path : String) :
    Except Failure α :=
  match directory.text path with
  | .error fault => .error (.file fault)
  | .ok text => decodeText read text

/-- The dialect of a configuration: that of its file, else that of its name, else the generic
one. -/
def dialect (directory : Directory) (configuration : Configuration) :
    Except Failure Dialect :=
  match configuration.dialectFile, configuration.dialect with
  | some path, _ => directory.decode Dialect.ofJson? path
  | none, some name => Dialect.named name
  | none, none => Dialect.named "generic"

end Directory

end SchemaForward
