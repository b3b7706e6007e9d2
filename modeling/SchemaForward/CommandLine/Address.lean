import SchemaForward.Target.Sqlite.FileName
import SchemaForward.Text.Escaped

/-!
# Addresses of databases

An address is a path, perhaps behind the name of the database system, and settings behind a question
mark. A path may have percent signs for its bytes, which must spell a text; settings are written as
in a form, and bytes in them that spell none are replaced. A setting that is given twice counts as
it was given last.
-/

namespace SchemaForward.CommandLine

open Text

/-- What an address says: where the database is, and how it may be used. -/
structure DatabaseAddress where
  path : String
  inMemory : Bool := false
  readOnly : Bool := false
  mayCreate : Bool := false
  immutable : Bool := false
  fileSystem : Option String := none
  deriving DecidableEq, Repr, Inhabited

namespace DatabaseAddress

/-- A text without the copies of a pattern that it starts with. -/
def withoutCopies (pattern text : List Char) : List Char :=
  if _someLength : pattern.length = 0 then text
  else if _longEnough : text.length < pattern.length then text
  else if pattern.isPrefixOf text then withoutCopies pattern (text.drop pattern.length) else text
termination_by text.length
decreasing_by simp only [List.length_drop]; omega

/-- The text of a part of a setting. -/
def settingText (part : List Char) : String :=
  ofUtf8Lossy (formDecoded (utf8 (String.ofList part)))

/-- The settings behind the question mark, with their names. -/
def settings (text : List Char) : List (String × String) :=
  ((text.splitOn '&').filter (!·.isEmpty)).map fun setting =>
    (settingText (setting.takeWhile (· != '=')),
      settingText ((setting.dropWhile (· != '=')).drop 1))

/-- The fault of a setting whose value means nothing. -/
def unknownValue (name value : String) : DatabaseFault :=
  .badAddress s!"unknown value {escaped value} for `{name}`"

/-- The address with one setting more. -/
def withSetting (address : DatabaseAddress) (setting : String × String) :
    Except DatabaseFault DatabaseAddress :=
  match setting with
  | ("mode", "ro") => .ok { address with readOnly := true }
  | ("mode", "rw") => .ok address
  | ("mode", "rwc") => .ok { address with mayCreate := true }
  | ("mode", "memory") => .ok { address with inMemory := true }
  | ("mode", value) => .error (unknownValue "mode" value)
  | ("cache", "private") => .ok address
  | ("cache", "shared") => .ok address
  | ("cache", value) => .error (unknownValue "cache" value)
  | ("immutable", value) =>
    if ["true", "1"].contains value then .ok { address with immutable := true }
    else if ["false", "0"].contains value then .ok { address with immutable := false }
    else .error (unknownValue "immutable" value)
  | ("vfs", value) => .ok { address with fileSystem := some value }
  | (name, _) =>
    .error (.badAddress s!"unknown query parameter `{name}` while parsing connection URL")

/-- The path that a text with percent signs spells. -/
def ofPath (text : List Char) : Except DatabaseFault DatabaseAddress :=
  match ofUtf8 (percentDecoded (utf8 (String.ofList text))) with
  | .ok path => .ok { path }
  | .error fault => .error (.badAddress fault.message)

/-- The address that a text spells. -/
def ofText (text : String) : Except DatabaseFault DatabaseAddress := do
  let plain := withoutCopies "sqlite:".toList (withoutCopies "sqlite://".toList text.toList)
  let bare ← ofPath (plain.takeWhile (· != '?'))
  (settings ((plain.dropWhile (· != '?')).drop 1)).foldlM withSetting bare

/-- The parameters that an address adds to the name of its file. -/
def parameters (address : DatabaseAddress) : List (List Char) :=
  (if address.immutable then ["immutable=true".toList] else []) ++
    address.fileSystem.toList.map fun name => "vfs=".toList ++ ofAscii (formEncoded (utf8 name))

/-- The name of the file of an address. With parameters it is a resource, in which the path is
written so that nothing in it can be taken for something else. -/
def fileName (address : DatabaseAddress) : String :=
  if address.parameters.isEmpty then address.path
  else
    String.ofList <| "file:".toList ++ ofAscii (percentEncoded (utf8 address.path)) ++ ['?'] ++
      ['&'].intercalate address.parameters

/-- How the file of an address is opened. -/
def access (address : DatabaseAddress) : Sqlite.Access where
  right :=
    if address.readOnly then .read else if address.mayCreate then .create else .change
  inMemory := address.inMemory

/-- The request for the database of an address. -/
def request (address : DatabaseAddress) : Except DatabaseFault Sqlite.FileRequest :=
  if address.fileName.toList.contains '\x00' then
    .error (.unsendable "filename passed to SQLite must not contain nul bytes")
  else Sqlite.FileRequest.ofName address.fileName address.access

end DatabaseAddress

end SchemaForward.CommandLine
