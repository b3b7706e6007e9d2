import SchemaForward.DataType.Map
import SchemaForward.Identifier.Rules
import SchemaForward.Statement.DatabaseObject

/-!
# Dialects

A dialect is data: a type map, identifier rules and the shapes of statements. One writer serves
all dialects.
-/

namespace SchemaForward

/-- How a dialect drops an index: by its own name, or by its name on its table. -/
inductive IndexDropForm where
  | plain
  | onTable
  deriving DecidableEq, Repr, Inhabited

namespace IndexDropForm

/-- The spellings of the styles. -/
def names : List (String × IndexDropForm) :=
  [("plain", .plain), ("on_table", .onTable)]

/-- The spelling of a style. -/
def name : IndexDropForm → String
  | .plain => "plain"
  | .onTable => "on_table"

end IndexDropForm

/-- The shapes of statements in a dialect. Without `ADD CONSTRAINT`, foreign keys are declared
inside their tables. -/
structure Templates where
  terminator : String := ";"
  addsConstraints : Bool := true
  hasComments : Bool := false
  hasOnUpdate : Bool := true
  dropIndex : IndexDropForm := .plain
  dropConstraintKeyword : String := "CONSTRAINT"
  deriving DecidableEq, Repr, Inhabited

namespace Templates

/-- The members of templates in a record. -/
def memberNames : List String :=
  ["terminator", "supports_add_constraint", "supports_comments", "supports_on_update",
    "drop_index", "drop_constraint_keyword"]

/-- Templates as a record. -/
def toJson (templates : Templates) : Json :=
  .object [
    ("terminator", .text templates.terminator),
    ("supports_add_constraint", .bool templates.addsConstraints),
    ("supports_comments", .bool templates.hasComments),
    ("supports_on_update", .bool templates.hasOnUpdate),
    ("drop_index", .text templates.dropIndex.name),
    ("drop_constraint_keyword", .text templates.dropConstraintKeyword)]

/-- The templates that a record describes. -/
def ofJson? (json : Json) : Option Templates := do
  let default : Templates := {}
  let record ← json.record? memberNames
  let terminator ← record.defaulted 0 "terminator" Json.text? default.terminator
  let addsConstraints ←
    record.defaulted 1 "supports_add_constraint" Json.bool? default.addsConstraints
  let hasComments ← record.defaulted 2 "supports_comments" Json.bool? default.hasComments
  let hasOnUpdate ← record.defaulted 3 "supports_on_update" Json.bool? default.hasOnUpdate
  let dropIndex ←
    record.defaulted 4 "drop_index" (Json.named? IndexDropForm.names) default.dropIndex
  let dropConstraintKeyword ←
    record.defaulted 5 "drop_constraint_keyword" Json.text? default.dropConstraintKeyword
  return ⟨terminator, addsConstraints, hasComments, hasOnUpdate, dropIndex,
    dropConstraintKeyword⟩

end Templates

/-- A dialect of SQL. -/
structure Dialect where
  name : String
  types : TypeMap
  identifiers : IdentifierRules
  templates : Templates
  deriving DecidableEq, Repr, Inhabited

namespace Dialect

/-- The program and its version, as scripts name them. -/
def makerName (dialect : Dialect) : String :=
  s!"oxide-forward {dialect.name} DDL generator 0.1.0"

/-- The comment line at the top of every script. -/
def header (dialect : Dialect) : String :=
  s!"-- Created by {dialect.makerName}"

/-- A name with the schema in front, unless there is no schema or its name is empty. -/
def qualify (schema : Option String) (name : String) : String :=
  match schema with
  | some schema => if schema.isEmpty then name else s!"{schema}.{name}"
  | none => name

/-- The statement that drops a table. -/
def dropTable (schema : Option String) (table : String) : String :=
  s!"DROP TABLE {qualify schema table}"

/-- The statement that drops a named constraint from its table. -/
def dropConstraint (dialect : Dialect) (schema : Option String) (table name : String) : String :=
  s!"ALTER TABLE {qualify schema table} DROP {dialect.templates.dropConstraintKeyword} {name}"

/-- The statement that drops an index. -/
def dropIndex (dialect : Dialect) (schema table : Option String) (name : String) : String :=
  match dialect.templates.dropIndex, table with
  | .onTable, some table => s!"DROP INDEX {name} ON {qualify schema table}"
  | _, _ => s!"DROP INDEX {qualify schema name}"

/-- The statement that drops an object. A constraint can only be dropped from a known table. -/
def drop? (dialect : Dialect) (object : DatabaseObject) : Option String :=
  match object.kind with
  | .table => some (dropTable object.schema object.name)
  | .index => some (dialect.dropIndex object.schema object.table object.name)
  | .constraint | .relationship =>
    object.table.map fun table => dialect.dropConstraint object.schema table object.name

/-- A dialect as a record. -/
def toJson (dialect : Dialect) : Json :=
  .object [
    ("name", .text dialect.name),
    ("types", dialect.types.toJson),
    ("identifiers", dialect.identifiers.toJson),
    ("templates", dialect.templates.toJson)]

/-- The dialect that a record describes. -/
def ofJson? (json : Json) : Option Dialect := do
  let record ← json.record? ["name", "types", "identifiers", "templates"]
  let name ← record.required 0 "name" Json.text?
  let types ← record.required 1 "types" TypeMap.ofJson?
  let identifiers ← record.defaulted 2 "identifiers" IdentifierRules.ofJson? {}
  let templates ← record.defaulted 3 "templates" Templates.ofJson? {}
  return ⟨name, types, identifiers, templates⟩

end Dialect

end SchemaForward
