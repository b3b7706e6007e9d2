import SchemaForward.Dialect.Basic
import SchemaForward.Model.Basic
import SchemaForward.Statement.Basic
import SchemaForward.Text.Quoted

/-!
# Definitions

What a script defines, by legal names: tables with their columns, keys and foreign keys, indexes,
constraints and comments. A definition says all that its statement says, and the statement is
written from it in one step, so that a property of a script can be read off its definitions.
-/

namespace SchemaForward

/-- A column as it is written: its default already is a literal. -/
structure ColumnDefinition where
  name : String
  typeText : String
  default : Option String
  notNull : Bool
  deriving DecidableEq, Repr, Inhabited

/-- A primary key, with its columns in order. -/
structure KeyDefinition where
  name : String
  columns : List String
  deriving DecidableEq, Repr, Inhabited

/-- A foreign key of a child table to a parent table. -/
structure ForeignKey where
  name : String
  child : String
  childColumns : List String
  parent : String
  parentColumns : List String
  onDelete : ReferentialAction
  onUpdate : ReferentialAction
  deriving DecidableEq, Repr, Inhabited

/-- A table. A key without columns is not written. -/
structure TableDefinition where
  name : String
  columns : List ColumnDefinition
  key : Option KeyDefinition
  foreignKeys : List ForeignKey
  deriving DecidableEq, Repr, Inhabited

/-- An index on columns of a table. -/
structure IndexDefinition where
  name : String
  table : String
  columns : List String
  unique : Bool
  deriving DecidableEq, Repr, Inhabited

/-- One definition of a script. -/
inductive Definition where
  | header
  | table (definition : TableDefinition)
  | index (definition : IndexDefinition)
  | foreignKey (definition : ForeignKey)
  | tableComment (table text : String)
  | columnComment (table column text : String)
  deriving DecidableEq, Repr, Inhabited

namespace ColumnDefinition

/-- The clause of a column. -/
def sql (column : ColumnDefinition) : String :=
  let default := match column.default with
    | some literal => s!" DEFAULT {literal}"
    | none => ""
  let constraint := if column.notNull then " NOT NULL" else ""
  s!"{column.name} {column.typeText}{default}{constraint}"

end ColumnDefinition

namespace TableDefinition

/-- The primary key, if it has columns. -/
def writtenKey (definition : TableDefinition) : Option KeyDefinition :=
  definition.key.filter fun key => !key.columns.isEmpty

end TableDefinition

namespace Dialect

/-- A list of names, separated by commas. -/
def nameList (names : List String) : String :=
  Text.join ", " names

/-- The actions of a foreign key, so far as they differ from doing nothing and the dialect has
them. -/
def actions (dialect : Dialect) (key : ForeignKey) : String :=
  (if key.onDelete == .noAction then "" else s!" ON DELETE {key.onDelete.sql}") ++
  (if key.onUpdate != .noAction && dialect.templates.hasOnUpdate then
    s!" ON UPDATE {key.onUpdate.sql}" else "")

/-- A foreign key as a constraint. -/
def foreignKeyConstraint (dialect : Dialect) (schema : Option String) (key : ForeignKey) :
    String :=
  s!"CONSTRAINT {key.name} FOREIGN KEY ({nameList key.childColumns}) " ++
    s!"REFERENCES {qualify schema key.parent} ({nameList key.parentColumns})" ++
    dialect.actions key

/-- A primary key as a constraint. -/
def keyConstraint (key : KeyDefinition) : String :=
  s!"CONSTRAINT {key.name} PRIMARY KEY ({nameList key.columns})"

/-- The statement that creates a table: one clause a line. -/
def createTable (dialect : Dialect) (schema : Option String) (definition : TableDefinition) :
    String :=
  let clauses := definition.columns.map ColumnDefinition.sql ++
    definition.writtenKey.toList.map keyConstraint ++
    definition.foreignKeys.map (dialect.foreignKeyConstraint schema)
  s!"CREATE TABLE {qualify schema definition.name} (\n  " ++ Text.join ",\n  " clauses ++ "\n)"

/-- The statement that creates an index. -/
def createIndex (schema : Option String) (definition : IndexDefinition) : String :=
  let command := if definition.unique then "CREATE UNIQUE INDEX" else "CREATE INDEX"
  s!"{command} {definition.name} ON {qualify schema definition.table} " ++
    s!"({nameList definition.columns})"

/-- The statement that adds a foreign key to its table. -/
def addForeignKey (dialect : Dialect) (schema : Option String) (key : ForeignKey) : String :=
  s!"ALTER TABLE {qualify schema key.child} ADD {dialect.foreignKeyConstraint schema key}"

/-- The statement that comments on a table. -/
def commentOnTable (schema : Option String) (table remarks : String) : String :=
  s!"COMMENT ON TABLE {qualify schema table} IS {Text.quoted remarks}"

/-- The statement that comments on a column. -/
def commentOnColumn (schema : Option String) (table column remarks : String) : String :=
  s!"COMMENT ON COLUMN {qualify schema table}.{column} IS {Text.quoted remarks}"

end Dialect

namespace Definition

/-- A table as a database object. -/
def tableObject (schema : Option String) (table : String) : DatabaseObject :=
  { kind := .table, name := table, schema }

/-- A constraint on a table as a database object. -/
def ownedObject (kind : ObjectKind) (schema : Option String) (table name : String) :
    DatabaseObject :=
  { kind, name, table := some table, schema }

/-- What a table brings with it: its written primary key and its foreign keys. -/
def ownedConstraints (schema : Option String) (definition : TableDefinition) :
    List DatabaseObject :=
  definition.writtenKey.toList.map
    (fun key => ownedObject .constraint schema definition.name key.name) ++
  definition.foreignKeys.map
    fun key => ownedObject .relationship schema definition.name key.name

/-- The statement of a definition. -/
def statement (dialect : Dialect) (schema : Option String) : Definition → Statement
  | .header => { kind := .comment, subject := none, text := dialect.header }
  | .table definition =>
    { kind := .create
      subject := some (tableObject schema definition.name)
      text := dialect.createTable schema definition
      alsoCreates := ownedConstraints schema definition }
  | .index definition =>
    { kind := .create
      subject := some (ownedObject .index schema definition.table definition.name)
      text := Dialect.createIndex schema definition }
  | .foreignKey key =>
    { kind := .alterAddConstraint
      subject := some (ownedObject .relationship schema key.child key.name)
      text := dialect.addForeignKey schema key }
  | .tableComment owner remarks =>
    { kind := .comment
      subject := some (tableObject schema owner)
      text := Dialect.commentOnTable schema owner remarks }
  | .columnComment owner column remarks =>
    { kind := .comment
      subject := some (tableObject schema owner)
      text := Dialect.commentOnColumn schema owner column remarks }

end Definition

end SchemaForward
