import SchemaForward.Target.Basic
import SchemaForward.Target.Sqlite.Catalogue

/-!
# SQLite databases

A database as a connection sees it: the main schema, which is that of the file, and a temporary one,
which is gone with the connection. A name without a schema means the temporary object first. Only
the main schema is searched for objects in the way. Constraints live inside tables, so looking for
one finds nothing, and a foreign key shows only in that its table depends on the one it names.
Tables are taken to be empty, so no foreign key stands in the way of a drop.

A file may turn out to be no database, or one that cannot be changed. Either shows when it matters,
not before.
-/

namespace SchemaForward.Sqlite

/-- The schemas of a database. -/
inductive Schema where
  | main
  | temporary
  deriving DecidableEq, Repr, Inhabited

namespace Schema

/-- The name of a schema. -/
def name : Schema → String
  | .main => "main"
  | .temporary => "temp"

/-- The schema of a name. -/
def ofName? (text : String) : Option Schema :=
  [Schema.main, Schema.temporary].find? fun schema => Text.sameLetters schema.name text

end Schema

/-- A database with its schemas, and why its file cannot be read or changed if that is so. -/
structure Database where
  main : Catalogue := {}
  temporary : Catalogue := {}
  unreadable : Option DatabaseFault := none
  unwritable : Option DatabaseFault := none
  deriving DecidableEq, Repr, Inhabited

namespace Database

/-- The contents of a schema. -/
def catalogue (database : Database) : Schema → Catalogue
  | .main => database.main
  | .temporary => database.temporary

/-- The database with other contents in a schema. -/
def change (database : Database) (schema : Schema) (catalogue : Catalogue) :
    Except DatabaseFault Database :=
  match schema with
  | .temporary => .ok { database with temporary := catalogue }
  | .main =>
    match database.unwritable with
    | some fault => .error fault
    | none => .ok { database with main := catalogue }

/-- The tables that the foreign keys of a table name. A temporary table of that name is asked before
one of the main schema. -/
def referencesOf (database : Database) (name : String) : List String :=
  match database.temporary.table? name, database.main.table? name with
  | some table, _ => table.references
  | none, some table => table.references
  | none, none => []

/-- The existing object that stands in the way of a subject, in the schema of the subject. -/
def find? (database : Database) (subject : DatabaseObject) : Option DatabaseObject :=
  match subject.kind with
  | .table => (database.main.table? subject.name).map fun table =>
    { kind := .table, name := table.name, schema := subject.schema }
  | .index => (database.main.index? subject.name).map fun index =>
    { kind := .index, name := index.name, table := some index.table, schema := subject.schema }
  | .constraint | .relationship => none

/-- What must be dropped before an object: for a table the tables that refer to it, then its
indexes, each in the order of their names. -/
def dependents (database : Database) (object : DatabaseObject) : List DatabaseObject :=
  if object.kind == .table then
    let names := database.main.tables.map (·.name)
    let children := names.filter fun name =>
      (database.referencesOf name).any (Text.sameLetters · object.name) &&
        !Text.sameLetters name object.name
    let indexes := (database.main.indexes.filter fun index =>
      Text.sameLetters index.table object.name).map (·.name)
    (Text.inOrder children).map
      (fun name => { kind := .table, name, schema := object.schema }) ++
    (Text.inOrder indexes).map
      fun name => { kind := .index, name, table := some object.name, schema := object.schema }
  else []

/-- The schema that a name is given with, which must be known to create something. -/
def schemaOf (object : ObjectName) : Except DatabaseFault Schema :=
  match object.schema with
  | none => .ok .main
  | some token =>
    match Schema.ofName? token.name with
    | some schema => .ok schema
    | none => .error (refusal s!"unknown database {token.written}")

/-- The schemas in which an existing object may be, in the order of a search. -/
def schemasOf (object : ObjectName) : List Schema :=
  match object.schema with
  | none => [.temporary, .main]
  | some token => (Schema.ofName? token.name).toList

/-- A name that is kept for the database itself. -/
def isReserved (name : String) : Bool :=
  "SQLITE_".toList.isPrefixOf (Text.upper name).toList

/-- Refuses to create something under a reserved name. -/
def checkName (name : String) : Except DatabaseFault Unit :=
  if isReserved name then .error (refusal s!"object name reserved for internal use: {name}")
  else .ok ()

/-- Creates a table. -/
def createTable (database : Database) (table : NewTable) : Except DatabaseFault Database := do
  let named ← schemaOf table.name
  if table.isTemporary && table.name.schema.isSome && named != .temporary then
    throw (refusal "temporary table name must be unqualified")
  let schema := if table.isTemporary then .temporary else named
  let name := table.name.name.name
  let catalogue := database.catalogue schema
  checkName name
  if catalogue.hasRows name then
    if table.mayExist then return database
    let kind := if (catalogue.table? name).isSome then "table" else "view"
    throw (refusal s!"{kind} {table.name.name.written} already exists")
  if (catalogue.index? name).isSome then
    throw (refusal s!"there is already an index named {name}")
  let body ← table.body
  body.check name
  let numbered := if body.countsUp then catalogue.withNumbers else catalogue
  database.change schema <| numbered.addTable
    ⟨name, body.references, body.automaticIndexes, some body.columnNames⟩

/-- Why a table that is not in a schema cannot have an index there. -/
def noOwner (database : Database) (object : ObjectName) (schema : Schema) (table : String) :
    DatabaseFault :=
  if object.schema.isSome && schema == .temporary then
    match database.main.table? table with
    | some found => refusal s!"cannot create a TEMP index on non-TEMP table \"{found.name}\""
    | none => refusal s!"no such table: {table}"
  else refusal s!"no such table: {schema.name}.{table}"

/-- The table that an index is created on, with its schema. -/
def ownerOf (database : Database) (object : ObjectName) (table : String) :
    Except DatabaseFault (Schema × StoredTable) := do
  let named ← schemaOf object
  let schema :=
    if object.schema.isNone && database.temporary.hasRows table then .temporary else named
  let catalogue := database.catalogue schema
  match catalogue.table? table with
  | some owner => return (schema, owner)
  | none =>
    if (catalogue.view? table).isSome then throw (refusal "views may not be indexed")
    else throw (database.noOwner object schema table)

/-- Refuses an index that mentions what its table does not have, as far as that is known. -/
def checkTerms (owner : StoredTable) (index : NewIndex) : Except DatabaseFault Unit := do
  if let some columns := owner.columns then
    if let some condition := index.condition then
      Scope.check ⟨owner.name, columns, true, "partial index WHERE clauses"⟩ condition
    for term in index.terms do
      let column? ← Scope.column? ⟨owner.name, columns, false, "index expressions"⟩ term
      if column?.isSome then term.collation.forM Clause.checkCollation

/-- Creates an index on a table. -/
def createIndex (database : Database) (index : NewIndex) : Except DatabaseFault Database := do
  let (schema, owner) ← database.ownerOf index.name index.table.name
  let name := index.name.name.name
  let catalogue := database.catalogue schema
  if isReserved owner.name then throw (refusal s!"table {owner.name} may not be indexed")
  checkName name
  if catalogue.hasRows name then throw (refusal s!"there is already a table named {name}")
  if (catalogue.index? name).isSome then
    if index.mayExist then return database else throw (refusal s!"index {name} already exists")
  checkTerms owner index
  database.change schema (catalogue.addIndex ⟨name, owner.name⟩)

/-- Drops a table with its indexes. -/
def dropTable (database : Database) (object : ObjectName) (mayMiss : Bool) :
    Except DatabaseFault Database := do
  let name := object.name.name
  match (schemasOf object).find? fun schema => (database.catalogue schema).hasRows name with
  | none =>
    if mayMiss then return database else throw (refusal s!"no such table: {object.describe}")
  | some schema =>
    let catalogue := database.catalogue schema
    if let some view := catalogue.view? name then
      throw (refusal s!"use DROP VIEW to delete view {view}")
    if isReserved name then throw (refusal s!"table {catalogue.stored name} may not be dropped")
    database.change schema (catalogue.withoutTable name)

/-- Drops an index. One that comes with a key stays. -/
def dropIndex (database : Database) (object : ObjectName) (mayMiss : Bool) :
    Except DatabaseFault Database := do
  let name := object.name.name
  match (schemasOf object).find? fun schema => ((database.catalogue schema).index? name).isSome with
  | none =>
    if mayMiss then return database else throw (refusal s!"no such index: {object.describe}")
  | some schema =>
    let catalogue := database.catalogue schema
    if catalogue.indexes.any fun index => Text.sameLetters index.name name then
      database.change schema (catalogue.withoutIndex name)
    else
      throw <| refusal
        "index associated with UNIQUE or PRIMARY KEY constraint cannot be dropped"

/-- Refuses an addition to a table. What is wrong with it matters only if the table is there. -/
def addToTable (database : Database) (object : ObjectName) (fault : DatabaseFault) :
    DatabaseFault :=
  let name := object.name.name
  match (schemasOf object).find? fun schema => (database.catalogue schema).hasRows name with
  | none => refusal s!"no such table: {object.describe}"
  | some schema =>
    if ((database.catalogue schema).view? name).isSome then
      refusal "Cannot add a column to a view"
    else if isReserved name then
      refusal s!"table {(database.catalogue schema).stored name} may not be altered"
    else fault

/-- Runs a command. -/
def perform (database : Database) : Command → Except DatabaseFault Database
  | .createTable table => database.createTable table
  | .createIndex index => database.createIndex index
  | .dropTable name mayMiss => database.dropTable name mayMiss
  | .dropIndex name mayMiss => database.dropIndex name mayMiss
  | .addToTable name fault => .error (database.addToTable name fault)

/-- Runs a statement, as far as it could be read. -/
def runOne (database : Database) (statement : Except DatabaseFault Command) :
    Except DatabaseFault Database :=
  match statement, database.unreadable with
  | .error fault, _ => .error fault
  | .ok _, some fault => .error fault
  | .ok command, none => database.perform command

/-- Runs statements in order up to the first that is refused. What was done before it stays. -/
def runAll (database : Database) :
    List (Except DatabaseFault Command) → Except DatabaseFault Unit × Database
  | [] => (.ok (), database)
  | statement :: rest =>
    match database.runOne statement with
    | .ok next => runAll next rest
    | .error fault => (.error fault, database)

/-- Runs the statements of a text. -/
def run (database : Database) (text : String) : Except DatabaseFault Unit × Database :=
  database.runAll (Command.ofText text)

/-- The number of objects that can depend on one another. -/
def size (database : Database) : Nat :=
  database.main.size

/-- The reply to a question for which the file must be read. -/
def replyIf {α : Type} (database : Database) (asked : Bool) (answer : α) : Reply α :=
  match asked, database.unreadable with
  | true, some fault => .failure (.database fault)
  | _, _ => .answer answer

/-- The calls on a database. A constraint is not looked for in the file, and only a table has
dependents there. -/
def calls : Target Database where
  size := size
  find := fun subject database =>
    ⟨database.replyIf (!subject.kind.isConstraint) (database.find? subject), false, database⟩
  dependents := fun object database =>
    ⟨database.replyIf (object.kind == .table) (database.dependents object), false, database⟩
  execute := fun statement database =>
    match database.run statement with
    | (.ok (), next) => ⟨.answer (), false, next⟩
    | (.error fault, next) => ⟨.failure (.database fault), false, next⟩

end Database

end SchemaForward.Sqlite
