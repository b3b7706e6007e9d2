import SchemaForward.Identifier.Legal
import SchemaForward.Json.Record

/-!
# Warnings

A warning tells what was changed about an object of a model so that it fits a dialect: its name, or
the type of a column. The new value can be edited; a warning knows what it was to begin with, so
that an edited name can be asked for the next time.
-/

namespace SchemaForward

/-- An object of a model, by its names in the model. -/
inductive ModelElement where
  | table (table : String)
  | column (table column : String)
  | primaryKey (table : String)
  | index (table index : String)
  | relationship (name : String)
  deriving DecidableEq, Repr, Inhabited

namespace ModelElement

/-- The object in words. -/
def describe : ModelElement → String
  | .table name => s!"table {name}"
  | .column owner name => s!"column {owner}.{name}"
  | .primaryKey owner => s!"primary key of {owner}"
  | .index owner name => s!"index {name} on {owner}"
  | .relationship name => s!"relationship {name}"

/-- An object as a record that starts with its kind. -/
def toJson : ModelElement → Json
  | .table name => .object [("kind", .text "table"), ("table", .text name)]
  | .column owner name =>
    .object [("kind", .text "column"), ("table", .text owner), ("column", .text name)]
  | .primaryKey owner => .object [("kind", .text "primary_key"), ("table", .text owner)]
  | .index owner name =>
    .object [("kind", .text "index"), ("table", .text owner), ("index", .text name)]
  | .relationship name => .object [("kind", .text "relationship"), ("name", .text name)]

/-- The object of a given kind whose other members are in a value. -/
def ofKind? (kind : String) (json : Json) : Option ModelElement :=
  match kind with
  | "table" => do
    let record ← json.record? ["table"]
    return .table (← record.required 0 "table" Json.text?)
  | "column" => do
    let record ← json.record? ["table", "column"]
    return .column (← record.required 0 "table" Json.text?)
      (← record.required 1 "column" Json.text?)
  | "primary_key" => do
    let record ← json.record? ["table"]
    return .primaryKey (← record.required 0 "table" Json.text?)
  | "index" => do
    let record ← json.record? ["table", "index"]
    return .index (← record.required 0 "table" Json.text?)
      (← record.required 1 "index" Json.text?)
  | "relationship" => do
    let record ← json.record? ["name"]
    return .relationship (← record.required 0 "name" Json.text?)
  | _ => none

/-- The object that a record describes. In an array the kind comes first and the other members
follow. -/
def ofJson? : Json → Option ModelElement
  | .object members => do
    let record ← Json.record? ["kind"] (.object members)
    ofKind? (← record.required 0 "kind" Json.text?) (.object members)
  | .array (.text kind :: rest) => ofKind? kind (.array rest)
  | _ => none

end ModelElement

/-- Why a warning was given. -/
inductive WarningCause where
  | name (step : NameStep)
  | typeCoerced
  deriving DecidableEq, Repr, Inhabited

namespace WarningCause

/-- The reason in words. -/
def describe : WarningCause → String
  | .name .truncated => "name truncated"
  | .name .collision => "name collision"
  | .name .restricted => "name restricted"
  | .typeCoerced => "type coerced"

/-- The spelling of a reason. -/
def spelling : WarningCause → String
  | .name .truncated => "NAME_TRUNCATED"
  | .name .collision => "NAME_COLLISION"
  | .name .restricted => "NAME_RESTRICTED"
  | .typeCoerced => "TYPE_COERCED"

/-- The spellings of the reasons. -/
def spellings : List (String × WarningCause) :=
  [.name .truncated, .name .collision, .name .restricted, .typeCoerced].map fun reason =>
    (reason.spelling, reason)

/-- The warning is about a name. -/
def isName : WarningCause → Bool
  | .name _ => true
  | .typeCoerced => false

end WarningCause

/-- A change to the model. What was generated is kept beside the new value. -/
structure Warning where
  subject : ModelElement
  reason : WarningCause
  oldValue : String
  newValue : String
  generated : String
  deriving DecidableEq, Repr, Inhabited

namespace Warning

/-- A warning as it is given, with the new value that was generated. -/
def given (subject : ModelElement) (reason : WarningCause) (oldValue newValue : String) :
    Warning :=
  ⟨subject, reason, oldValue, newValue, newValue⟩

/-- The new value is not the one that was generated. -/
def isEdited (warning : Warning) : Bool :=
  warning.newValue != warning.generated

/-- The warning in words. -/
def describe (warning : Warning) : String :=
  s!"{warning.subject.describe}: {warning.reason.describe} " ++
    s!"({warning.oldValue} -> {warning.newValue})"

/-- A warning as a record, without what was generated. -/
def toJson (warning : Warning) : Json :=
  .object [
    ("subject", warning.subject.toJson),
    ("reason", .text warning.reason.spelling),
    ("old_value", .text warning.oldValue),
    ("new_value", .text warning.newValue)]

/-- The warning that a record describes. Nothing was generated for it. -/
def ofJson? (json : Json) : Option Warning := do
  let record ← json.record? ["subject", "reason", "old_value", "new_value"]
  let subject ← record.required 0 "subject" ModelElement.ofJson?
  let reason ← record.required 1 "reason" (Json.named? WarningCause.spellings)
  let oldValue ← record.required 2 "old_value" Json.text?
  let newValue ← record.required 3 "new_value" Json.text?
  return ⟨subject, reason, oldValue, newValue, ""⟩

end Warning

end SchemaForward
