import SchemaForward.Failure
import SchemaForward.Text.Letters
import SchemaForward.Text.Percent

/-!
# File names of databases

A name that begins with `file:` is read as a resource: behind an authority, which can only be the
own machine, stands a path, and behind a question mark stand parameters that change how the file is
opened. They are taken in order, and none may ask for more than is allowed so far. A number sign
ends the name, and a zero byte ends the part that it is written in. Any other name is a path.
-/

namespace SchemaForward.Sqlite

open Text

/-- What may be done to the file of a database, the least right first. -/
inductive FileRight where
  | none
  | read
  | change
  | create
  deriving DecidableEq, Repr, Inhabited

namespace FileRight

/-- The rank of a right. -/
def rank : FileRight → Nat
  | .none => 0
  | .read => 1
  | .change => 2
  | .create => 6

end FileRight

/-- How a database is opened: with what right, and whether it is kept in memory only. -/
structure Access where
  right : FileRight
  inMemory : Bool := false
  deriving DecidableEq, Repr, Inhabited

namespace Access

/-- Modes of access by name. -/
def modes : List (String × Access) :=
  [("ro", ⟨.read, false⟩), ("rw", ⟨.change, false⟩), ("rwc", ⟨.create, false⟩),
    ("memory", ⟨.none, true⟩)]

/-- An access admits another: the other asks for no greater right, or memory is in use already. -/
def admits (access next : Access) : Bool :=
  access.inMemory || next.right.rank ≤ access.right.rank

end Access

/-- A database that is to be opened. The file system is where its path is looked up, and the
exemplar is a file whose permissions it takes. -/
structure FileRequest where
  path : String
  access : Access
  immutable : Bool := false
  fileSystem : String := "unix"
  exemplar : Option String := none
  deriving DecidableEq, Repr, Inhabited

namespace FileRequest

/-- The file systems that are known. -/
def fileSystems : List String :=
  ["unix", "unix-none", "unix-dotfile", "unix-excl", "memdb"]

/-- A part of a name, in which a zero byte hides what follows it. -/
def part (bytes : List UInt8) : String :=
  ofUtf8Lossy ((percentDecoded bytes).takeWhile (· != 0))

/-- The parameters of a name. One without a name of its own does not count. -/
def parameters (bytes : List UInt8) : List (String × String) :=
  ((bytes.splitOnP (isByte '&')).map fun parameter =>
    (part (parameter.takeWhile (!isByte '=' ·)),
      part ((parameter.dropWhile (!isByte '=' ·)).drop 1))).filter fun parameter =>
    !parameter.1.isEmpty

/-- A refusal to open a database. -/
def refused (code : Nat) (message : String) : DatabaseFault :=
  .rejected code message

/-- The access after one more parameter. -/
def accessAfter (access : Access) (parameter : String × String) :
    Except DatabaseFault Access :=
  match parameter with
  | ("cache", value) =>
    if ["shared", "private"].contains value then .ok access
    else .error (refused 1 s!"no such cache mode: {value}")
  | ("mode", value) =>
    match Access.modes.lookup value with
    | none => .error (refused 1 s!"no such access mode: {value}")
    | some next =>
      if access.admits next then .ok next
      else .error (refused 3 s!"access mode not allowed: {value}")
  | _ => .ok access

/-- The number that a text begins with, in decimal digits. Ten digits are read at most. -/
def leadingNumber (text : List Char) : Nat :=
  let digits := (text.takeWhile Char.isDigit).dropWhile (· == '0')
  let value := digits.foldl (fun number digit => number * 10 + (digit.toNat - '0'.toNat)) 0
  if digits.length ≤ 10 && value < 0x80000000 then value else 0

/-- A text says yes: by a word, or by a number that is no multiple of 256. -/
def isYes (text : String) : Bool :=
  if (text.toList.head?.map Char.isDigit).getD false then
    leadingNumber text.toList % 0x100 != 0
  else ["yes", "true", "on"].any (sameLetters text)

/-- The bytes of a resource behind its authority. -/
def afterAuthority (bytes : List UInt8) : Except DatabaseFault (List UInt8) :=
  match bytes with
  | first :: second :: rest =>
    if isByte '/' first && isByte '/' second then
      let authority := rest.takeWhile (!isByte '/' ·)
      if authority.isEmpty || authority == utf8 "localhost" then
        .ok (rest.dropWhile (!isByte '/' ·))
      else .error (refused 1 s!"invalid uri authority: {ofUtf8Lossy authority}")
    else .ok bytes
  | _ => .ok bytes

/-- The request of a resource, given without its scheme. -/
def ofResource (resource : List UInt8) (access : Access) : Except DatabaseFault FileRequest := do
  let bytes := (← afterAuthority resource).takeWhile (!isByte '#' ·)
  let given := parameters ((bytes.dropWhile (!isByte '?' ·)).drop 1)
  let finalAccess ← given.foldlM accessAfter access
  let fileSystem := (given.reverse.lookup "vfs").getD "unix"
  if fileSystems.contains fileSystem then
    return {
      path := part (bytes.takeWhile (!isByte '?' ·))
      access := finalAccess
      immutable := ((given.lookup "immutable").map isYes).getD false
      fileSystem
      exemplar := given.lookup "modeof" }
  else .error (refused 1 s!"no such vfs: {fileSystem}")

/-- The request of a name. -/
def ofName (name : String) (access : Access) : Except DatabaseFault FileRequest :=
  let scheme := utf8 "file:"
  if scheme.isPrefixOf (utf8 name) then ofResource ((utf8 name).drop scheme.length) access
  else .ok { path := name, access }

/-- The database is gone once it is closed. An empty path is that of a file without a name. -/
def isPassing (request : FileRequest) : Bool :=
  request.access.inMemory || request.path == ":memory:" || request.path.isEmpty ||
    request.fileSystem == "memdb"

/-- The database cannot be changed. That a file never changes is no matter where none is used. -/
def isReadOnly (request : FileRequest) : Bool :=
  let isFile := !(request.access.inMemory || request.path == ":memory:" || request.path.isEmpty)
  request.access.right == .read || (isFile && request.immutable)

end FileRequest

end SchemaForward.Sqlite
