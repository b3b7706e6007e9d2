import SchemaForward.DataType.Code

/-!
# Models

A model of a relational database: tables with columns and indexes, and the relationships between
tables. Names are those of the modeller and need not be legal anywhere. The order of declaration
matters, because it decides who gets a name first and what is created first; where a name occurs
twice, a reference means the first object of that name.
-/

namespace SchemaForward

/-- What happens to referencing rows when the referenced row is deleted or updated. -/
inductive ReferentialAction where
  | noAction
  | restrict
  | cascade
  | setNull
  | setDefault
  deriving DecidableEq, Repr, Inhabited

namespace ReferentialAction

/-- The words of an action. -/
def sql : ReferentialAction → String
  | .noAction => "NO ACTION"
  | .restrict => "RESTRICT"
  | .cascade => "CASCADE"
  | .setNull => "SET NULL"
  | .setDefault => "SET DEFAULT"

end ReferentialAction

/-- A column. Its place in the primary key, if it has one, is a number; columns with the same number
keep their order of declaration. -/
structure Column where
  name : String
  typeCode : TypeCode
  precision : Option UInt32 := none
  scale : Option UInt32 := none
  nullable : Bool := true
  keyPosition : Option UInt32 := none
  defaultValue : Option String := none
  remarks : Option String := none
  deriving DecidableEq, Repr, Inhabited

namespace Column

/-- The column with a precision. -/
def withPrecision (column : Column) (precision : UInt32) : Column :=
  { column with precision := some precision }

/-- The column with a precision and a scale. -/
def withScale (column : Column) (precision scale : UInt32) : Column :=
  { column with precision := some precision, scale := some scale }

/-- The column without null values. -/
def notNull (column : Column) : Column :=
  { column with nullable := false }

/-- The column at a place in the primary key, where null values have no place. -/
def inKeyAt (column : Column) (position : UInt32) : Column :=
  { column with keyPosition := some position, nullable := false }

/-- The column with a default value. -/
def withDefault (column : Column) (value : String) : Column :=
  { column with defaultValue := some value }

/-- The column with remarks. -/
def withRemarks (column : Column) (remarks : String) : Column :=
  { column with remarks := some remarks }

/-- The column belongs to the primary key. -/
def inKey (column : Column) : Bool :=
  column.keyPosition.isSome

/-- One column stands no later in the key than another. -/
def keyNotAfter (first second : Column) : Bool :=
  Nat.ble ((first.keyPosition.map UInt32.toNat).getD 0)
    ((second.keyPosition.map UInt32.toNat).getD 0)

end Column

/-- An index over columns of its table. -/
structure Index where
  name : String
  columns : List String
  unique : Bool := false
  deriving DecidableEq, Repr, Inhabited

/-- A table. -/
structure Table where
  name : String
  columns : List Column := []
  keyName : Option String := none
  indexes : List Index := []
  remarks : Option String := none
  deriving DecidableEq, Repr, Inhabited

namespace Table

/-- The table with one column more. -/
def addColumn (table : Table) (column : Column) : Table :=
  { table with columns := table.columns ++ [column] }

/-- The table with one index more. -/
def addIndex (table : Table) (index : Index) : Table :=
  { table with indexes := table.indexes ++ [index] }

/-- The table with a name for its primary key. -/
def withKeyName (table : Table) (name : String) : Table :=
  { table with keyName := some name }

/-- The table with remarks. -/
def withRemarks (table : Table) (remarks : String) : Table :=
  { table with remarks := some remarks }

/-- The first column with a name. -/
def column? (table : Table) (name : String) : Option Column :=
  table.columns.find? (·.name == name)

/-- The columns of the primary key, in the order of their places in it. -/
def primaryKey (table : Table) : List Column :=
  (table.columns.filter Column.inKey).mergeSort Column.keyNotAfter

end Table

/-- A column of the parent table and the column of the child table that refers to it. -/
structure ColumnPair where
  parentColumn : String
  childColumn : String
  deriving DecidableEq, Repr, Inhabited

/-- A foreign key of a child table to a parent table. -/
structure Relationship where
  name : String
  parent : String
  child : String
  mappings : List ColumnPair := []
  onDelete : ReferentialAction := .noAction
  onUpdate : ReferentialAction := .noAction
  deriving DecidableEq, Repr, Inhabited

namespace Relationship

/-- The relationship with one pair of columns more. -/
def addMapping (relationship : Relationship) (parentColumn childColumn : String) : Relationship :=
  { relationship with mappings := relationship.mappings ++ [⟨parentColumn, childColumn⟩] }

/-- The relationship with an action on deletion. -/
def withOnDelete (relationship : Relationship) (action : ReferentialAction) : Relationship :=
  { relationship with onDelete := action }

/-- The relationship with an action on update. -/
def withOnUpdate (relationship : Relationship) (action : ReferentialAction) : Relationship :=
  { relationship with onUpdate := action }

end Relationship

/-- A model: tables and the relationships between them. -/
structure Model where
  name : String := ""
  tables : List Table := []
  relationships : List Relationship := []
  deriving DecidableEq, Repr, Inhabited

namespace Model

/-- The model with one table more. -/
def addTable (model : Model) (table : Table) : Model :=
  { model with tables := model.tables ++ [table] }

/-- The model with one relationship more. -/
def addRelationship (model : Model) (relationship : Relationship) : Model :=
  { model with relationships := model.relationships ++ [relationship] }

/-- The first table with a name. -/
def table? (model : Model) (name : String) : Option Table :=
  model.tables.find? (·.name == name)

end Model

end SchemaForward
