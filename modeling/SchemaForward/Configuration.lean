import SchemaForward.Dialect.Known
import SchemaForward.Failure
import SchemaForward.Json.Reader

/-!
# Configuration

The settings of a run, as a file may give them: the dialect by name or by a file of its own, the
schema of the objects, the address of the database, and what to do with conflicts.
-/

namespace SchemaForward

/-- What to do with conflicts: ask, drop them, or leave them. -/
inductive ConflictPolicy where
  | ask
  | always
  | never
  deriving DecidableEq, Repr, Inhabited

namespace ConflictPolicy

/-- The spelling of a policy. -/
def name : ConflictPolicy → String
  | .ask => "ASK"
  | .always => "ALWAYS"
  | .never => "NEVER"

/-- The spellings of the policies. -/
def names : List (String × ConflictPolicy) :=
  [("ASK", .ask), ("ALWAYS", .always), ("NEVER", .never)]

end ConflictPolicy

/-- The settings of a run. -/
structure Configuration where
  dialect : Option String := none
  dialectFile : Option String := none
  targetSchema : Option String := none
  databaseAddress : Option String := none
  dropPolicy : ConflictPolicy := .ask
  deriving DecidableEq, Repr, Inhabited

namespace Configuration

/-- The members of a configuration in a record. -/
def memberNames : List String :=
  ["dialect", "dialect_file", "target_schema", "database_url", "drop_policy"]

/-- A configuration as a record. -/
def toJson (configuration : Configuration) : Json :=
  .object [
    ("dialect", .ofOption .text configuration.dialect),
    ("dialect_file", .ofOption .text configuration.dialectFile),
    ("target_schema", .ofOption .text configuration.targetSchema),
    ("database_url", .ofOption .text configuration.databaseAddress),
    ("drop_policy", .text configuration.dropPolicy.name)]

/-- The configuration that a record describes. -/
def ofJson? (json : Json) : Option Configuration := do
  let record ← json.record? memberNames
  let dialect ← record.defaulted 0 "dialect" (Json.optional? Json.text?) none
  let dialectFile ← record.defaulted 1 "dialect_file" (Json.optional? Json.text?) none
  let targetSchema ← record.defaulted 2 "target_schema" (Json.optional? Json.text?) none
  let databaseAddress ← record.defaulted 3 "database_url" (Json.optional? Json.text?) none
  let dropPolicy ← record.defaulted 4 "drop_policy" (Json.named? ConflictPolicy.names) .ask
  return ⟨dialect, dialectFile, targetSchema, databaseAddress, dropPolicy⟩

end Configuration

/-- The value that the text of a file describes. -/
def decodeText {α : Type} (read : Json → Option α) (text : String) : Except Failure α :=
  match (Json.ofText? text).bind read with
  | some value => .ok value
  | none => .error .malformed

namespace Dialect

/-- The known dialect of a name, or the error that there is none. -/
def named (name : String) : Except Failure Dialect :=
  match named? name with
  | some dialect => .ok dialect
  | none => .error (.unknownDialect name)

/-- The native type of a code in a dialect, or the error that there is none. -/
def nativeType (dialect : Dialect) (code : TypeCode) : Except Failure NativeType :=
  match dialect.types.get? code with
  | some native => .ok native
  | none => .error (.unmappedType code dialect.name)

end Dialect

end SchemaForward
