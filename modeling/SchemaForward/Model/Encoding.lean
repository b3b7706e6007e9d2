import SchemaForward.Model.Basic
import SchemaForward.Json.Reader
import SchemaForward.Json.Record

/-!
# Models as JSON

Every part of a model is a record. All members are written; when reading, only names, types, the
columns of an index and the two sides of a relationship have to be there.
-/

namespace SchemaForward

namespace ReferentialAction

/-- The spellings of an action. -/
def names : List (String × ReferentialAction) :=
  [("no_action", .noAction), ("restrict", .restrict), ("cascade", .cascade),
    ("set_null", .setNull), ("set_default", .setDefault)]

/-- The spelling of an action. -/
def name : ReferentialAction → String
  | .noAction => "no_action"
  | .restrict => "restrict"
  | .cascade => "cascade"
  | .setNull => "set_null"
  | .setDefault => "set_default"

end ReferentialAction

namespace Column

/-- The members of a column in a record. -/
def memberNames : List String :=
  ["name", "type_code", "precision", "scale", "nullable", "primary_key_seq", "default_value",
    "remarks"]

/-- A column as a record. -/
def toJson (column : Column) : Json :=
  .object [
    ("name", .text column.name),
    ("type_code", column.typeCode.toJson),
    ("precision", .ofOption .ofUInt32 column.precision),
    ("scale", .ofOption .ofUInt32 column.scale),
    ("nullable", .bool column.nullable),
    ("primary_key_seq", .ofOption .ofUInt32 column.keyPosition),
    ("default_value", .ofOption .text column.defaultValue),
    ("remarks", .ofOption .text column.remarks)]

/-- The column that a record describes. -/
def ofJson? (json : Json) : Option Column := do
  let record ← json.record? memberNames
  let name ← record.required 0 "name" Json.text?
  let typeCode ← record.required 1 "type_code" TypeCode.ofJson?
  let precision ← record.defaulted 2 "precision" (Json.optional? Json.uint32?) none
  let scale ← record.defaulted 3 "scale" (Json.optional? Json.uint32?) none
  let nullable ← record.defaulted 4 "nullable" Json.bool? true
  let keyPosition ← record.defaulted 5 "primary_key_seq" (Json.optional? Json.uint32?) none
  let defaultValue ← record.defaulted 6 "default_value" (Json.optional? Json.text?) none
  let remarks ← record.defaulted 7 "remarks" (Json.optional? Json.text?) none
  return ⟨name, typeCode, precision, scale, nullable, keyPosition, defaultValue, remarks⟩

end Column

namespace Index

/-- The members of an index in a record. -/
def memberNames : List String :=
  ["name", "columns", "unique"]

/-- An index as a record. -/
def toJson (index : Index) : Json :=
  .object [
    ("name", .text index.name),
    ("columns", .ofList .text index.columns),
    ("unique", .bool index.unique)]

/-- The index that a record describes. -/
def ofJson? (json : Json) : Option Index := do
  let record ← json.record? memberNames
  let name ← record.required 0 "name" Json.text?
  let columns ← record.required 1 "columns" (Json.list? Json.text?)
  let unique ← record.defaulted 2 "unique" Json.bool? false
  return ⟨name, columns, unique⟩

end Index

namespace Table

/-- The members of a table in a record. -/
def memberNames : List String :=
  ["name", "columns", "primary_key_name", "indexes", "remarks"]

/-- A table as a record. -/
def toJson (table : Table) : Json :=
  .object [
    ("name", .text table.name),
    ("columns", .ofList Column.toJson table.columns),
    ("primary_key_name", .ofOption .text table.keyName),
    ("indexes", .ofList Index.toJson table.indexes),
    ("remarks", .ofOption .text table.remarks)]

/-- The table that a record describes. -/
def ofJson? (json : Json) : Option Table := do
  let record ← json.record? memberNames
  let name ← record.required 0 "name" Json.text?
  let columns ← record.defaulted 1 "columns" (Json.list? Column.ofJson?) []
  let keyName ← record.defaulted 2 "primary_key_name" (Json.optional? Json.text?) none
  let indexes ← record.defaulted 3 "indexes" (Json.list? Index.ofJson?) []
  let remarks ← record.defaulted 4 "remarks" (Json.optional? Json.text?) none
  return ⟨name, columns, keyName, indexes, remarks⟩

end Table

namespace ColumnPair

/-- A pair of columns as a record. -/
def toJson (mapping : ColumnPair) : Json :=
  .object [("pk_column", .text mapping.parentColumn), ("fk_column", .text mapping.childColumn)]

/-- The pair of columns that a record describes. -/
def ofJson? (json : Json) : Option ColumnPair := do
  let record ← json.record? ["pk_column", "fk_column"]
  let parentColumn ← record.required 0 "pk_column" Json.text?
  let childColumn ← record.required 1 "fk_column" Json.text?
  return ⟨parentColumn, childColumn⟩

end ColumnPair

namespace Relationship

/-- The members of a relationship in a record. -/
def memberNames : List String :=
  ["name", "pk_table", "fk_table", "mappings", "on_delete", "on_update"]

/-- A relationship as a record. -/
def toJson (relationship : Relationship) : Json :=
  .object [
    ("name", .text relationship.name),
    ("pk_table", .text relationship.parent),
    ("fk_table", .text relationship.child),
    ("mappings", .ofList ColumnPair.toJson relationship.mappings),
    ("on_delete", .text relationship.onDelete.name),
    ("on_update", .text relationship.onUpdate.name)]

/-- The relationship that a record describes. -/
def ofJson? (json : Json) : Option Relationship := do
  let record ← json.record? memberNames
  let name ← record.required 0 "name" Json.text?
  let parent ← record.required 1 "pk_table" Json.text?
  let child ← record.required 2 "fk_table" Json.text?
  let mappings ← record.required 3 "mappings" (Json.list? ColumnPair.ofJson?)
  let onDelete ← record.defaulted 4 "on_delete" (Json.named? ReferentialAction.names) .noAction
  let onUpdate ← record.defaulted 5 "on_update" (Json.named? ReferentialAction.names) .noAction
  return ⟨name, parent, child, mappings, onDelete, onUpdate⟩

end Relationship

namespace Model

/-- The members of a model in a record. -/
def memberNames : List String :=
  ["name", "tables", "relationships"]

/-- A model as a record. -/
def toJson (model : Model) : Json :=
  .object [
    ("name", .text model.name),
    ("tables", .ofList Table.toJson model.tables),
    ("relationships", .ofList Relationship.toJson model.relationships)]

/-- The model that a record describes. -/
def ofJson? (json : Json) : Option Model := do
  let record ← json.record? memberNames
  let name ← record.defaulted 0 "name" Json.text? ""
  let tables ← record.defaulted 1 "tables" (Json.list? Table.ofJson?) []
  let relationships ← record.defaulted 2 "relationships" (Json.list? Relationship.ofJson?) []
  return ⟨name, tables, relationships⟩

/-- The model that a text describes. -/
def ofText? (text : String) : Option Model := do
  ofJson? (← Json.ofText? text)

end Model

end SchemaForward
