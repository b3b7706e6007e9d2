import SchemaForward.Json.Record
import SchemaForward.Statement.DatabaseObject
import SchemaForward.Target.Sqlite.Command

/-!
# SQLite catalogues

What one schema of an SQLite database holds, by name: tables with the tables they refer to, indexes
and views. Names are the same up to the case of their ASCII letters, and are kept as they were first
written. An index that comes with a key is known by the number that it has in its table, and cannot
be dropped by itself.
-/

namespace SchemaForward.Sqlite

/-- A table: the tables its foreign keys name, the numbers of the indexes that come with its keys,
and its columns if they are known. -/
structure StoredTable where
  name : String
  references : List String := []
  keyIndexes : List Nat := []
  columns : Option (List String) := none
  deriving DecidableEq, Repr, Inhabited

/-- An index on a table. -/
structure StoredIndex where
  name : String
  table : String
  deriving DecidableEq, Repr, Inhabited

namespace StoredTable

/-- The indexes that come with the keys of a table. -/
def automatic (table : StoredTable) : List StoredIndex :=
  table.keyIndexes.map fun number => ⟨s!"sqlite_autoindex_{table.name}_{number}", table.name⟩

end StoredTable

/-- The contents of a schema. -/
structure Catalogue where
  tables : List StoredTable := []
  indexes : List StoredIndex := []
  views : List String := []
  deriving DecidableEq, Repr, Inhabited

namespace Catalogue

/-- The table of a name. -/
def table? (catalogue : Catalogue) (name : String) : Option StoredTable :=
  catalogue.tables.find? fun table => Text.sameLetters table.name name

/-- The index of a name, one that comes with a key included. -/
def index? (catalogue : Catalogue) (name : String) : Option StoredIndex :=
  (catalogue.indexes ++ catalogue.tables.flatMap (·.automatic)).find? fun index =>
    Text.sameLetters index.name name

/-- The view of a name. -/
def view? (catalogue : Catalogue) (name : String) : Option String :=
  catalogue.views.find? (Text.sameLetters · name)

/-- A table or a view has a name. -/
def hasRows (catalogue : Catalogue) (name : String) : Bool :=
  (catalogue.table? name).isSome || (catalogue.view? name).isSome

/-- The spelling of a table's name in the catalogue. -/
def stored (catalogue : Catalogue) (table : String) : String :=
  ((catalogue.table? table).map (·.name)).getD table

/-- The catalogue with one table more. -/
def addTable (catalogue : Catalogue) (table : StoredTable) : Catalogue :=
  { catalogue with tables := catalogue.tables ++ [table] }

/-- The catalogue with the table in which the last numbers of other tables are kept. -/
def withNumbers (catalogue : Catalogue) : Catalogue :=
  if (catalogue.table? "sqlite_sequence").isSome then catalogue
  else catalogue.addTable { name := "sqlite_sequence", columns := some ["name", "seq"] }

/-- The catalogue without a table and its indexes. -/
def withoutTable (catalogue : Catalogue) (name : String) : Catalogue :=
  { catalogue with
    tables := catalogue.tables.filter fun table => !Text.sameLetters table.name name
    indexes := catalogue.indexes.filter fun index => !Text.sameLetters index.table name }

/-- The catalogue with one index more. -/
def addIndex (catalogue : Catalogue) (index : StoredIndex) : Catalogue :=
  { catalogue with indexes := catalogue.indexes ++ [index] }

/-- The catalogue without an index. -/
def withoutIndex (catalogue : Catalogue) (name : String) : Catalogue :=
  { catalogue with
    indexes := catalogue.indexes.filter fun index => !Text.sameLetters index.name name }

/-- The number of objects that can depend on one another. -/
def size (catalogue : Catalogue) : Nat :=
  catalogue.tables.length + catalogue.indexes.length

/-- The contents of a catalogue in order of kind and name, each with the table it belongs to. -/
def listing (catalogue : Catalogue) : List (String × String × String) :=
  let byName (entries : List (String × String)) : List (String × String) :=
    entries.mergeSort fun first second => Text.notAfter first.1.toList second.1.toList
  (byName (catalogue.indexes.map fun index => (index.name, index.table))).map ("index", ·) ++
    (Text.inOrder (catalogue.tables.map (·.name))).map (fun name => ("table", name, name)) ++
    (Text.inOrder catalogue.views).map fun name => ("view", name, name)

/-- A table of a catalogue as a record describes it. A key with an index of its own is the only one
unless the numbers of the indexes are given. -/
def tableOfJson? (json : Json) : Option StoredTable := do
  let record ← json.record? ["name", "references", "unique", "key_indexes", "columns"]
  let name ← record.required 0 "name" Json.text?
  let references ← record.defaulted 1 "references" (Json.optional? (Json.list? Json.text?)) none
  let hasKeyIndex ← record.defaulted 2 "unique" (Json.optional? Json.bool?) none
  let keyIndexes ←
    record.defaulted 3 "key_indexes" (Json.optional? (Json.list? Json.natural?)) none
  let columns ← record.defaulted 4 "columns" (Json.optional? (Json.list? Json.text?)) none
  return { name
           references := references.getD []
           keyIndexes := keyIndexes.getD (if hasKeyIndex.getD false then [1] else [])
           columns }

/-- An index of a catalogue as a record describes it. -/
def indexOfJson? (json : Json) : Option StoredIndex := do
  let record ← json.record? ["name", "table"]
  let name ← record.required 0 "name" Json.text?
  let table ← record.required 1 "table" Json.text?
  return ⟨name, table⟩

/-- The catalogue that a record describes. The table of an index may be spelled in another case. -/
def ofJson? (json : Json) : Option Catalogue := do
  let record ← json.record? ["tables", "indexes", "views"]
  let tables ← record.required 0 "tables" (Json.list? tableOfJson?)
  let indexes ← record.defaulted 1 "indexes" (Json.optional? (Json.list? indexOfJson?)) none
  let views ← record.defaulted 2 "views" (Json.optional? (Json.list? Json.text?)) none
  let catalogue : Catalogue := { tables, views := views.getD [] }
  return { catalogue with
    indexes := (indexes.getD []).map fun index =>
      { index with table := catalogue.stored index.table } }

/-- A catalogue as a record. -/
def toJson (catalogue : Catalogue) : Json :=
  .object [
    ("tables", .ofList (fun table => .object [
      ("name", .text table.name),
      ("references", .ofList .text table.references),
      ("key_indexes", .ofList .natural table.keyIndexes),
      ("columns", .ofOption (.ofList .text) table.columns)]) catalogue.tables),
    ("indexes", .ofList (fun index => .object [
      ("name", .text index.name),
      ("table", .text index.table)]) catalogue.indexes),
    ("views", .ofList .text catalogue.views)]

end Catalogue

end SchemaForward.Sqlite
