import SchemaForward.Target.Sqlite.Expression

/-!
# Clauses of tables

What the constraints of columns and tables say, as far as it matters for a catalogue: the tables
that foreign keys name, the keys, the conditions and the order of texts. Everything is read in full,
since what cannot be read is refused.
-/

namespace SchemaForward.Sqlite

/-- What a constraint says. A foreign key comes with the columns that it is written for, and a
primary key may be in descending order or count up. -/
inductive Clause where
  | references (table : String) (columns : List String)
  | unique (terms : List Expression)
  | primaryKey (terms : List Expression) (descending : Bool) (countsUp : Bool)
  | collation (name : String)
  | condition (value : Expression)
  deriving DecidableEq, Repr, Inhabited

namespace Clause

open PartReader

/-- What is done about a row that breaks a constraint. -/
def conflictClause : PartReader Unit := do
  if ← accept "ON" then
    expect "CONFLICT"
    expectAny ["IGNORE", "REPLACE", "ROLLBACK", "ABORT", "FAIL"]

/-- What is done about rows that refer to a row. -/
def referenceAction : PartReader Unit := do
  expectAny ["INSERT", "DELETE", "UPDATE"]
  if ← accept "SET" then expectAny ["NULL", "DEFAULT"]
  else if ← accept "NO" then expect "ACTION"
  else expectAny ["CASCADE", "RESTRICT"]

/-- When a foreign key is checked, after the word that says whether it can wait. -/
def checkTime : PartReader Unit := do
  if ← accept "INITIALLY" then expectAny ["DEFERRED", "IMMEDIATE"]

/-- The rules of a foreign key, as many as a number at most. -/
def referenceRules : Nat → PartReader Unit
  | 0 => return ()
  | further + 1 => do
    if ← accept "ON" then
      referenceAction
      referenceRules further
    else if ← accept "MATCH" then
      let _manner ← name
      referenceRules further

/-- A column of a foreign key. It has no order. -/
def plainColumn : PartReader String := do
  let column ← name
  let hasCollation ← accept "COLLATE"
  if hasCollation then discard name
  let hasDirection ← acceptAny ["ASC", "DESC"]
  if hasCollation || hasDirection then
    throw (refusal s!"syntax error after column name \"{column.written}\"")
  return column.name

/-- The columns of a foreign key between parentheses. -/
def plainColumns : PartReader (List String) :=
  within (separated plainColumn)

/-- The table that a foreign key names, and how many of its columns if it names them. -/
def reference : PartReader (Token × Option Nat) := do
  let table ← name
  let columns ← if ← isGroupNext then some <$> plainColumns else pure none
  referenceRules (← get).length
  return (table, columns.map List.length)

/-- The value that a column has where none is given. It does not depend on the row. -/
def defaultValue (column : Token) : PartReader Unit := do
  let hasSign ← acceptMark '+' <||> acceptMark '-'
  match ← get with
  | .single token :: rest =>
    if token.isLiteral || (!hasSign && token.isIdentifier) then set rest else refuse
  | [] => refuse
  | _ =>
    if hasSign then refuse
    let value ← within Expression.read
    unless value.mentions.isEmpty do
      throw (refusal s!"default value of column [{column.name}] is not constant")

/-- The orders of texts that are known. -/
def collations : List String :=
  ["BINARY", "NOCASE", "RTRIM"]

/-- Refuses an order of texts that is not known. -/
def checkCollation (name : String) : Except DatabaseFault Unit :=
  if collations.contains (Text.upper name) then .ok ()
  else .error (.rejected 257 s!"no such collation sequence: {name}")

/-- Takes a direction if one is given, and tells whether it is the descending one. -/
def acceptDescending : PartReader Bool := do
  if ← accept "ASC" then return false else accept "DESC"

/-- A term of a key or an index. Where rows without a value go cannot be chosen. -/
def term : PartReader Expression := do
  let value ← Expression.read
  let _isDescending ← acceptDescending
  if ← accept "NULLS" then
    if ← accept "FIRST" then throw (refusal "unsupported use of NULLS FIRST")
    expect "LAST"
    throw (refusal "unsupported use of NULLS LAST")
  return value

/-- The terms of a key or an index between parentheses. -/
def terms : PartReader (List Expression) :=
  within (separated term)

/-- The terms of a primary key between parentheses, and whether its numbers are counted up. -/
def primaryTerms : PartReader (List Expression × Bool) :=
  within do
    let all ← separated term
    return (all, ← accept "AUTOINCREMENT")

/-- A constraint of a column. -/
def columnConstraint (column : Token) : PartReader (List Clause) := do
  let own : Expression := { mentions := [.column column], single := some column }
  if ← accept "CONSTRAINT" then
    let _name ← name
    return []
  else if ← accept "DEFAULT" then
    defaultValue column
    return []
  else if ← accept "NULL" then
    conflictClause
    return []
  else if ← accept "NOT" then
    if ← accept "DEFERRABLE" then checkTime
    else
      expect "NULL"
      conflictClause
    return []
  else if ← accept "DEFERRABLE" then
    checkTime
    return []
  else if ← accept "PRIMARY" then
    expect "KEY"
    let descending ← acceptDescending
    conflictClause
    return [.primaryKey [own] descending (← accept "AUTOINCREMENT")]
  else if ← accept "UNIQUE" then
    conflictClause
    return [.unique [own]]
  else if ← accept "CHECK" then return [.condition (← within Expression.read)]
  else if ← accept "REFERENCES" then
    let (table, count) ← reference
    if count.any (1 < ·) then
      throw <| refusal <| s!"foreign key on {column.name} should reference only one column of " ++
        s!"table {table.written}"
    return [.references table.name []]
  else if ← accept "COLLATE" then
    let collation ← name
    checkCollation collation.name
    return [.collation collation.name]
  else
    if ← accept "GENERATED" then expect "ALWAYS"
    expect "AS"
    let _value ← within Expression.read
    unless ← accept "STORED" do discard (accept "VIRTUAL")
    return []

/-- A constraint of a table. -/
def tableConstraint : PartReader (List Clause) := do
  if ← accept "CONSTRAINT" then
    let _name ← name
    return []
  else if ← accept "PRIMARY" then
    expect "KEY"
    let (keyTerms, countsUp) ← primaryTerms
    conflictClause
    return [.primaryKey keyTerms false countsUp]
  else if ← accept "UNIQUE" then
    let keyTerms ← terms
    conflictClause
    return [.unique keyTerms]
  else if ← accept "CHECK" then
    let value ← within Expression.read
    conflictClause
    return [.condition value]
  else if ← accept "FOREIGN" then
    expect "KEY"
    let columns ← plainColumns
    expect "REFERENCES"
    let (table, count) ← reference
    if ← accept "NOT" then
      expect "DEFERRABLE"
      checkTime
    else if ← accept "DEFERRABLE" then checkTime
    if count.any (· != columns.length) then
      throw <| refusal <| "number of columns in foreign key does not match the number of " ++
        "columns in the referenced table"
    return [.references table.name columns]
  else refuse

/-- The clauses of constraints one after another, as many as a number at most. -/
def many (constraint : PartReader (List Clause)) : Nat → PartReader (List Clause)
  | 0 => return []
  | further + 1 => do
    if (← get).isEmpty then return []
    else
      let here ← constraint
      let rest ← many constraint further
      return here ++ rest

/-- The clauses of all constraints that are left. Each takes a part or more. -/
def all (constraint : PartReader (List Clause)) : PartReader (List Clause) := do
  many constraint (← get).length

end Clause

end SchemaForward.Sqlite
