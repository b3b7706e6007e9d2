import SchemaForward.Target.Sqlite.TableBody
import SchemaForward.Text.Blank

/-!
# Commands

The statements that create or drop tables and indexes. A text can hold several of them, with a
semicolon after each; a statement without words does nothing. Every other statement is refused where
it stops to look like one of these.
-/

namespace SchemaForward.Sqlite

/-- The name of an object, perhaps with that of its schema in front. -/
structure ObjectName where
  schema : Option Token := none
  name : Token
  deriving DecidableEq, Repr, Inhabited

namespace ObjectName

/-- The name as messages give it. -/
def describe (object : ObjectName) : String :=
  match object.schema with
  | some schema => s!"{schema.name}.{object.name.name}"
  | none => object.name.name

end ObjectName

/-- A table that is to be created. It may be temporary, and it may be there already. What is wrong
with its body matters only if it is not. -/
structure NewTable where
  name : ObjectName
  isTemporary : Bool
  mayExist : Bool
  body : Except DatabaseFault TableBody

/-- An index that is to be created. It may be there already. Some rows of the table may be left
out. -/
structure NewIndex where
  name : ObjectName
  mayExist : Bool
  table : Token
  terms : List Expression
  condition : Option Expression

/-- A statement of the database. An addition to a table is refused, but not before the table is
found. -/
inductive Command where
  | createTable (table : NewTable)
  | createIndex (index : NewIndex)
  | dropTable (name : ObjectName) (mayMiss : Bool)
  | dropIndex (name : ObjectName) (mayMiss : Bool)
  | addToTable (name : ObjectName) (fault : DatabaseFault)

namespace Command

open PartReader

/-- A name with an optional schema. -/
def objectName : PartReader ObjectName := do
  let first ← name
  if ← acceptMark '.' then return ⟨some first, ← name⟩
  else return ⟨none, first⟩

/-- An option behind the body of a table, which says whether the table has row numbers. -/
def tableOption : PartReader Bool := do
  let isWithout ← accept "WITHOUT"
  let option ← name
  unless (← get).head?.all (·.isMark ',') do refuse
  if option.isWord (if isWithout then "ROWID" else "STRICT") then return !isWithout
  else throw (refusal s!"unknown table option: {option.written}")

/-- A body with the options behind it, which may begin with a comma. -/
def withOptions (body : TableBody) (parts : List Part) : Except DatabaseFault TableBody :=
  if parts.isEmpty then .ok body
  else do
    let options ← (do
      let _begins ← acceptMark ','
      let options ← separated tableOption
      finish
      return options : PartReader (List Bool)).run' parts
    return { body with hasRowNumbers := options.all id }

/-- The body of a table with all that stands behind it. -/
def tableBody (table : String) : PartReader (Except DatabaseFault TableBody) := do
  match ← get with
  | .group inside :: rest =>
    return do withOptions (← TableBody.ofTokens table inside (some ")")) rest
  | .unclosed inside :: _ =>
    return do
      let _body ← TableBody.ofTokens table inside none
      throw Part.incomplete
  | _ => refuse

/-- The words for an object that may be there already. -/
def ifNotExists : PartReader Bool := do
  let asked ← accept "IF"
  if asked then
    expect "NOT"
    expect "EXISTS"
  return asked

/-- The words for an object that may be missing. -/
def ifExists : PartReader Bool := do
  let asked ← accept "IF"
  if asked then expect "EXISTS"
  return asked

/-- The rest of a statement that creates a table. -/
def createTableRest (isTemporary : Bool) : PartReader Command := do
  let mayExist ← ifNotExists
  let name ← objectName
  return .createTable ⟨name, isTemporary, mayExist, ← tableBody name.name.name⟩

/-- The rest of a statement that creates an index. -/
def createIndexRest : PartReader Command := do
  let mayExist ← ifNotExists
  let object ← objectName
  expect "ON"
  let table ← name
  let terms ← Clause.terms
  let condition ← if ← accept "WHERE" then some <$> Expression.read else pure none
  finish
  return .createIndex ⟨object, mayExist, table, terms, condition⟩

/-- A statement that creates something. -/
def create : PartReader Command := do
  let isTemporary ← accept "TEMP" <||> accept "TEMPORARY"
  if ← accept "TABLE" then createTableRest isTemporary
  else if isTemporary then refuse
  else
    let _isUnique ← accept "UNIQUE"
    expect "INDEX"
    createIndexRest

/-- A statement that drops something. -/
def drop : PartReader Command := do
  let isTable ← accept "TABLE"
  unless isTable do expect "INDEX"
  let mayMiss ← ifExists
  let name ← objectName
  finish
  return if isTable then .dropTable name mayMiss else .dropIndex name mayMiss

/-- A statement that changes a table. It is refused where it tells the change, since no change is
made other than by dropping a table and creating it again. -/
def alter : PartReader Command := do
  expect "TABLE"
  let table ← objectName
  if ← accept "ADD" then return .addToTable table (Part.unexpected (← get))
  else
    let _isDrop ← accept "DROP"
    refuse

/-- A statement. -/
def statement : PartReader Command := do
  if ← accept "CREATE" then create
  else if ← accept "DROP" then drop
  else if ← accept "ALTER" then alter
  else refuse

/-- The command of a statement. -/
def ofTokens (tokens : List Token) : Except DatabaseFault Command :=
  statement.run' (Part.ofTokens tokens)

/-- The command of a statement with a semicolon behind it. -/
def ofClosed (tokens : List Token) : Except DatabaseFault Command :=
  match Part.followedBy (some ";") (ofTokens tokens) with
  | .ok (.createTable table) =>
    .ok (.createTable { table with body := Part.followedBy (some ";") table.body })
  | .ok (.addToTable name fault) =>
    .ok (.addToTable name (if fault == Part.incomplete then Part.unexpectedMark ";" else fault))
  | result => result

/-- The statements of a text that say something, in order. Blanks of any kind around the text do not
count. -/
def ofText (text : String) : List (Except DatabaseFault Command) :=
  let pieces := (Token.ofText (Text.trimmed text.toList)).splitOnP (·.isMark ';')
  let closed := (pieces.dropLast.filter (!·.isEmpty)).map ofClosed
  let final := (pieces.getLast?.toList.filter (!·.isEmpty)).map ofTokens
  closed ++ final

end Command

end SchemaForward.Sqlite
