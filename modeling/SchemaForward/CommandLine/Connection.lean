import SchemaForward.CommandLine.Address
import SchemaForward.CommandLine.Directory
import SchemaForward.Target.Sqlite.Database

/-!
# Connections

A connection to the database of an address. The steps of its path cancel each other before any is
taken, unlike those of other paths, so that a directory that a later step leaves need not be there.
A file that holds something else can be opened all the same; it fails only when it is asked. What a
run did to the database of a file is saved in the directory it came from.
-/

namespace SchemaForward.CommandLine

/-- An open database, and where its file is if it has one. -/
structure Connection where
  location : Option Location := none
  database : Sqlite.Database := {}
  deriving DecidableEq, Repr, Inhabited

namespace Connection

/-- The fault of a file that is no database. -/
def notADatabase : DatabaseFault :=
  .rejected 26 "file is not a database"

/-- The fault of a change to a database that may only be read. -/
def notWritable : DatabaseFault :=
  .rejected 8 "attempt to write a readonly database"

/-- The fault of a file that cannot be opened. -/
def notOpened : DatabaseFault :=
  .rejected 14 "unable to open database file"

/-- The fault of a directory that is opened to be read. -/
def notRead : DatabaseFault :=
  .rejected 266 "disk I/O error"

/-- The fault of an exemplar that is not there. -/
def noExemplar : DatabaseFault :=
  .rejected 1802 "disk I/O error"

/-- The longest name of a file that can be changed. While it is, there is a journal beside it, whose
name is longer by eight bytes. -/
def longestChanged : Nat :=
  Directory.longestName - 8

/-- The location of the file that a path names, after its steps have cancelled each other. Each
location on the way may be missing, but not be one that cannot be. -/
def locationOf (directory : Directory) (path : String) : Except DatabaseFault Location :=
  (Location.steps path).foldlM
    (fun location name =>
      let next := location.step name
      match directory.walk ⟨next.base, []⟩ next.names.reverse with
      | .ok _ => .ok next
      | .error .missing => .ok next
      | .error _ => .error notOpened)
    (Location.start path)

/-- The database of a file with given contents. -/
def opened (request : Sqlite.FileRequest) (location : Location) (contents : FileContents) :
    Connection :=
  let unwritable :=
    if request.isReadOnly then some notWritable
    else if longestChanged < ((location.names.head?.map Location.nameSize).getD 0) then
      some notOpened
    else none
  let database : Sqlite.Database :=
    match contents with
    | .database catalogue => { main := catalogue }
    | .text text => if text.isEmpty then {} else { unreadable := some notADatabase }
    | .other => { unreadable := some notADatabase }
  ⟨some location, { database with unwritable }⟩

/-- The database of a file. Only a missing file may be created. -/
def ofFile (directory : Directory) (request : Sqlite.FileRequest) :
    Except DatabaseFault Connection := do
  let location ← locationOf directory request.path
  if location == ⟨.root, []⟩ then throw notOpened
  if let some path := request.exemplar then
    match directory.reached path with
    | .ok .nothing => throw noExemplar
    | .error _ => throw noExemplar
    | .ok _ => pure ()
  match directory.entry location with
  | .file contents => return opened request location contents
  | .folder => throw (if request.access.right == .read then notRead else notOpened)
  | .nothing =>
    if request.access.right == .create && directory.entry location.outer == .folder then
      return opened request location (.database {})
    else throw notOpened

/-- The database that a request asks for. -/
def ofRequest (directory : Directory) (request : Sqlite.FileRequest) :
    Except DatabaseFault Connection :=
  if request.isPassing then
    .ok ⟨none, { unwritable := if request.isReadOnly then some notWritable else none }⟩
  else ofFile directory request

/-- Opens the database of an address. -/
def ofAddress (directory : Directory) (text : String) : Except DatabaseFault Connection := do
  let address ← DatabaseAddress.ofText text
  ofRequest directory (← address.request)

/-- Saves the contents of a database in its file. -/
def save (connection : Connection) (directory : Directory) : Directory :=
  match connection.location, connection.database.unreadable with
  | some location, none => directory.replace location (.database connection.database.main)
  | _, _ => directory

/-- The connection after a call on its database. -/
def afterCall {α : Type} (connection : Connection) (call : Call Sqlite.Database α) :
    Call Connection α :=
  ⟨call.reply, call.cancels, { connection with database := call.next }⟩

/-- The calls on a connection. -/
def calls : Target Connection where
  size := fun connection => Sqlite.Database.calls.size connection.database
  find := fun subject connection =>
    connection.afterCall (Sqlite.Database.calls.find subject connection.database)
  dependents := fun object connection =>
    connection.afterCall (Sqlite.Database.calls.dependents object connection.database)
  execute := fun statement connection =>
    connection.afterCall (Sqlite.Database.calls.execute statement connection.database)

end Connection

end SchemaForward.CommandLine
