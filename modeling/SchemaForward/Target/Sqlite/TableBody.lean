import SchemaForward.Target.Sqlite.Clause

/-!
# Bodies of tables

What the items between the parentheses of a table say about the catalogue: its columns, the tables
that its foreign keys name, and its keys. Each key has an index of its own, unless an earlier one
has the same columns, or it is the number of the row: a primary key that is a single column of type
`INTEGER`. The items are gone through in order, and the first fault counts; only conditions are
looked at when all columns are known.
-/

namespace SchemaForward.Sqlite

open Text

/-- A column with its type, which is known only if it is one word. -/
structure ColumnClause where
  name : String
  type : Option String
  clauses : List Clause
  deriving DecidableEq, Repr, Inhabited

/-- A key of a table, with the order of texts in each column. The columns do not matter for one that
is the number of the row, since it has no index. -/
structure Key where
  columns : List (String × String)
  isPrimary : Bool
  isRowNumber : Bool
  deriving DecidableEq, Repr, Inhabited

/-- What is between the parentheses of a table. As long as there are no constraints behind the
columns, a column can follow. An option behind them may do without row numbers. -/
structure TableBody where
  columns : List ColumnClause := []
  references : List String := []
  keys : List Key := []
  conditions : List Expression := []
  countsUp : Bool := false
  isOpen : Bool := true
  hasRowNumbers : Bool := true
  deriving DecidableEq, Repr, Inhabited

namespace ColumnClause

/-- The type that names spell, if they are one. The words for a computed column are no type. -/
def typeOf? (names : List Token) : Option String :=
  let plain :=
    match names.reverse with
    | last :: before :: earlier =>
      if last.isWord "ALWAYS" && before.isWord "GENERATED" then earlier else names
    | _ => names
  match plain with
  | [single] => some single.name
  | _ => none

/-- The column that an item describes. -/
def read : PartReader ColumnClause := do
  let name ← PartReader.name
  let (words, hasSizes) ← Expression.typeName
  let type := if hasSizes then none else typeOf? words
  return ⟨name.name, type, ← Clause.all (Clause.columnConstraint name)⟩

/-- The order of texts in a column. -/
def collation (column : ColumnClause) : String :=
  (column.clauses.findSome? fun clause =>
    match clause with
    | .collation name => some name
    | _ => none).getD "BINARY"

end ColumnClause

namespace TableBody

/-- The words that begin a constraint of a table. -/
def constraintWords : List String :=
  ["CONSTRAINT", "PRIMARY", "UNIQUE", "CHECK", "FOREIGN"]

/-- The column of a name. -/
def column? (body : TableBody) (name : String) : Option ColumnClause :=
  body.columns.find? fun column => sameLetters column.name name

/-- The names of the columns. -/
def columnNames (body : TableBody) : List String :=
  body.columns.map (·.name)

/-- A term of a key as keys are compared: the name of its column and the order of its texts in upper
case. -/
def compared (body : TableBody) (table : String) (term : Expression) :
    Except DatabaseFault (String × String) := do
  let scope : Scope := ⟨table, body.columnNames, false, "index expressions"⟩
  match (← scope.column? term).bind body.column? with
  | none => throw (refusal "expressions prohibited in PRIMARY KEY and UNIQUE constraints")
  | some column =>
    let collation := term.collation.getD column.collation
    Clause.checkCollation collation
    return (upper column.name, upper collation)

/-- Terms of a key that are the number of the row. -/
def isRowNumber (body : TableBody) (terms : List Expression) : Bool :=
  match terms with
  | [term] =>
    ((term.single.bind fun token => body.column? token.name).bind (·.type)).any fun type =>
      sameLetters type "INTEGER"
  | _ => false

/-- The body of a table with what a clause says. A table has one primary key at most, and only row
numbers count up. -/
def addClause (table : String) (body : TableBody) : Clause → Except DatabaseFault TableBody
  | .references parent columns =>
    match columns.find? fun column => (body.column? column).isNone with
    | some column => .error (refusal s!"unknown column \"{column}\" in foreign key definition")
    | none => .ok { body with references := body.references ++ [parent] }
  | .unique terms => do
    let columns ← terms.mapM (body.compared table)
    return { body with keys := body.keys ++ [⟨columns, false, false⟩] }
  | .primaryKey terms descending countsUp => do
    let isRowNumber := body.isRowNumber terms && !descending
    if body.keys.any (·.isPrimary) then
      throw (refusal s!"table \"{table}\" has more than one primary key")
    if countsUp && !isRowNumber then
      throw (refusal "AUTOINCREMENT is only allowed on an INTEGER PRIMARY KEY")
    let columns ← if isRowNumber then pure [] else terms.mapM (body.compared table)
    return { body with keys := body.keys ++ [⟨columns, true, isRowNumber⟩], countsUp }
  | .collation _ => .ok body
  | .condition value => .ok { body with conditions := body.conditions ++ [value] }

/-- The body of a table with one column more. -/
def addColumn (table : String) (body : TableBody) (column : ColumnClause) :
    Except DatabaseFault TableBody :=
  if (body.column? column.name).isSome then
    .error (refusal s!"duplicate column name: {column.name}")
  else column.clauses.foldlM (addClause table) { body with columns := body.columns ++ [column] }

/-- The body of a table with one item more. The first item is a column, and there are no columns
behind a constraint. -/
def add (table : String) (body : TableBody) (item : List Part) :
    Except DatabaseFault TableBody := do
  let isConstraint := item.head?.any (·.isAnyWord constraintWords)
  if body.columns.isEmpty || (body.isOpen && !isConstraint) then
    body.addColumn table (← ColumnClause.read.run' item)
  else if item.isEmpty then throw Part.incomplete
  else
    let clauses ← (Clause.all Clause.tableConstraint).run' item
    clauses.foldlM (addClause table) { body with isOpen := false }

/-- The body behind a parenthesis, which a mark closes if it does not stay open. -/
def ofTokens (table : String) (inside : List Token) (closing : Option String) :
    Except DatabaseFault TableBody :=
  (Part.items (Part.ofTokens inside) closing).foldlM
    (fun body (item, mark) => Part.followedBy mark (body.add table item))
    {}

/-- Refuses a table that has no row numbers and no primary key, or conditions that mention what they
cannot. -/
def check (table : String) (body : TableBody) : Except DatabaseFault Unit := do
  if !body.hasRowNumbers && body.countsUp then
    throw (refusal "AUTOINCREMENT not allowed on WITHOUT ROWID tables")
  if !body.hasRowNumbers && !body.keys.any (·.isPrimary) then
    throw (refusal s!"PRIMARY KEY missing on table {table}")
  body.conditions.forM (Scope.check ⟨table, body.columnNames, body.hasRowNumbers,
    "CHECK constraints"⟩)

/-- The keys that have an index, in order: the first of those with the same columns, which serves
the primary key if one of them does. -/
def indexed (keys : List Key) : List Key :=
  (keys.filter (!·.isRowNumber)).foldl
    (fun found key =>
      if found.any (·.columns == key.columns) then
        found.map fun earlier =>
          if earlier.columns == key.columns then
            { earlier with isPrimary := earlier.isPrimary || key.isPrimary }
          else earlier
      else found ++ [key])
    []

/-- The numbers of the indexes that come with keys. Without row numbers the table is itself the
index of its primary key. -/
def automaticIndexes (body : TableBody) : List Nat :=
  ((indexed body.keys).zipIdx 1).filterMap fun (key, number) =>
    if key.isPrimary && !body.hasRowNumbers then none else some number

end TableBody

end SchemaForward.Sqlite
