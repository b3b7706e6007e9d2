import SchemaForward.Dialect.Definition
import SchemaForward.Script.Naming

/-!
# Contents of a script

What the script for a named model defines, in order: the header, then for each table the table
itself, its indexes and its comments, and after all tables the foreign keys. In a dialect that
cannot add constraints, every foreign key stands in its child table instead.
-/

namespace SchemaForward

namespace Column

/-- The native type of a column. -/
def resolvedType (dialect : Dialect) (column : Column) : ResolvedType :=
  dialect.types.resolve column.typeCode column.precision column.scale

/-- The definition of a column with a given identifier. A column is never null if the model says so,
if it belongs to the primary key or if its native type has no null values. -/
def definition (dialect : Dialect) (column : Column) (identifier : String) : ColumnDefinition :=
  let resolved := column.resolvedType dialect
  { name := identifier
    typeText := resolved.text
    default := column.defaultValue.map resolved.native.defaultText
    notNull := !column.nullable || column.inKey ||
      resolved.native.nullability == .notNullOnly }

end Column

namespace Naming

/-- The table and the columns that one side of a relationship means. -/
def side (naming : Naming) (table : String) (columns : List String) : String × List String :=
  match naming.table? table with
  | some (found, named) => (named.table.name, columns.filterMap (named.column? found))
  | none => ("", [])

/-- The foreign key of a relationship with a given identifier. -/
def foreignKey (naming : Naming) (relationship : Relationship) (identifier : String) :
    ForeignKey :=
  let child := naming.side relationship.child (relationship.mappings.map (·.childColumn))
  let parent := naming.side relationship.parent (relationship.mappings.map (·.parentColumn))
  { name := identifier
    child := child.1
    childColumns := child.2
    parent := parent.1
    parentColumns := parent.2
    onDelete := relationship.onDelete
    onUpdate := relationship.onUpdate }

/-- The foreign keys of all named relationships, in order. -/
def foreignKeys (naming : Naming) : List ForeignKey :=
  naming.related.map fun entry => naming.foreignKey entry.1 entry.2.name

/-- The foreign keys that stand in a table of the given name. -/
def inlineForeignKeys (naming : Naming) (table : String) : List ForeignKey :=
  (naming.related.filter (·.1.child == table)).map fun entry =>
    naming.foreignKey entry.1 entry.2.name

end Naming

namespace NamedTable

/-- The columns of a table. -/
def columnDefinitions (dialect : Dialect) (table : Table) (named : NamedTable) :
    List ColumnDefinition :=
  (table.columns.zip named.columns).map fun entry => entry.1.definition dialect entry.2.name

/-- The primary key of a table. -/
def keyDefinition (table : Table) (named : NamedTable) : KeyDefinition where
  name := named.key.name
  columns := table.primaryKey.filterMap fun column => named.column? table column.name

/-- The definition of a table. -/
def tableDefinition (dialect : Dialect) (naming : Naming) (table : Table) (named : NamedTable) :
    TableDefinition where
  name := named.table.name
  columns := named.columnDefinitions dialect table
  key := some (named.keyDefinition table)
  foreignKeys :=
    if dialect.templates.addsConstraints then [] else naming.inlineForeignKeys table.name

/-- The indexes of a table. -/
def indexDefinitions (table : Table) (named : NamedTable) : List IndexDefinition :=
  (table.indexes.zip named.indexes).map fun entry =>
    { name := entry.2.name
      table := named.table.name
      columns := entry.1.columns.filterMap (named.column? table)
      unique := entry.1.unique }

/-- Remarks that say something. -/
def spoken (remarks : Option String) : Option String :=
  remarks.filter fun text => !text.isEmpty

/-- The comments on a table and its columns. -/
def comments (table : Table) (named : NamedTable) : List Definition :=
  (spoken table.remarks).toList.map (.tableComment named.table.name ·) ++
  (table.columns.zip named.columns).filterMap fun entry =>
    (spoken entry.1.remarks).map (.columnComment named.table.name entry.2.name ·)

/-- All that a script defines for a table. -/
def definitions (dialect : Dialect) (naming : Naming) (table : Table) (named : NamedTable) :
    List Definition :=
  .table (named.tableDefinition dialect naming table) ::
    (named.indexDefinitions table).map .index ++
    if dialect.templates.hasComments then named.comments table else []

/-- The warnings about the column types of a table. -/
def typeWarnings (dialect : Dialect) (table : Table) : List Warning :=
  table.columns.filterMap fun column =>
    (column.resolvedType dialect).coercion.map fun coercion =>
      .given (.column table.name column.name) .typeCoerced coercion.old coercion.new

end NamedTable

namespace Naming

/-- All that a script defines. -/
def definitions (dialect : Dialect) (naming : Naming) : List Definition :=
  .header ::
    naming.generated.flatMap
      (fun entry => entry.2.definitions dialect naming entry.1) ++
    if dialect.templates.addsConstraints then naming.foreignKeys.map .foreignKey else []

/-- The warnings about names, then those about types. -/
def warnings (dialect : Dialect) (naming : Naming) : List Warning :=
  naming.entries.flatMap GivenIdentifier.warnings ++
    naming.generated.flatMap fun entry => NamedTable.typeWarnings dialect entry.1

end Naming

end SchemaForward
