import SchemaForward.Target.Sqlite.Part

/-!
# Expressions

Values that are computed, in defaults, conditions and the terms of keys and indexes. An expression
is read in full, since what cannot be read is refused. Kept are what it mentions and, if it is a
single name or text, that one with the order of texts behind it. An expression without a mention has
the same value in every row.
-/

namespace SchemaForward.Sqlite

/-- What the value of an expression can depend on. -/
inductive Mention where
  | column (name : Token)
  | path (names : List Token)
  | parameter
  | query
  deriving DecidableEq, Repr, Inhabited

/-- An expression as far as it matters for a table. -/
structure Expression where
  mentions : List Mention := []
  single : Option Token := none
  collation : Option String := none
  deriving DecidableEq, Repr, Inhabited

namespace Expression

open PartReader

/-- The value that two expressions have together. -/
def combined (first second : Expression) : Expression :=
  { mentions := first.mentions ++ second.mentions }

/-- The value that several expressions have together. -/
def ofList (expressions : List Expression) : Expression :=
  { mentions := expressions.flatMap (·.mentions) }

/-- Marks between two values. -/
def operatorMarks : List String :=
  ["||", "*", "/", "%", "+", "-", "<<", ">>", "&", "|", "<", "<=", ">", ">=", "=", "==", "<>", "!=",
    "->", "->>"]

/-- A mark or a word in front of a value. -/
def isSign (token : Token) : Bool :=
  token.isAnyMark ["+", "-", "~"] || token.isWord "NOT"

/-- One of the sizes of a type: a number, perhaps with a sign. -/
def typeSize : PartReader Unit := do
  let _hasSign ← acceptMark '+' <||> acceptMark '-'
  unless ← acceptPart fun part => part.token?.any fun token =>
    token.kind == .value && token.text.head?.any fun first => first.isDigit || first == '.' do
      refuse

/-- The name of a type, with its sizes in parentheses. -/
def typeName : PartReader (List Token × Bool) := do
  let words := ((← get).takeWhile (·.isIdentifier)).filterMap Part.name?
  set ((← get).drop words.length)
  let hasSizes ← isGroupNext
  if hasSizes && !words.isEmpty then
    within do
      typeSize
      if ← acceptMark ',' then typeSize
  return (words, hasSizes)

/-- What can stand in parentheses instead of a value: a query, which is passed over. -/
def query? : PartReader (Option Expression) := do
  if ← isNext ["SELECT", "VALUES", "WITH"] then
    set ([] : List Part)
    return some { mentions := [.query] }
  else return none

/-- A name by itself or as the end of a path. Two names stand for truth values. -/
def named (first : Token) : PartReader Expression := do
  if ← acceptMark '.' then
    let second ← name
    if ← acceptMark '.' then return { mentions := [.path [first, second, ← name]] }
    else return { mentions := [.path [first, second]] }
  else if first.isAnyWord ["TRUE", "FALSE"] then return {}
  else if first.kind == .quotedText then return { single := some first }
  else return { mentions := [.column first], single := some first }

mutual

/-- An expression, as deep as a number at most. Where it is the lower end of a range, the word `AND`
ends it. -/
def nested (isLowerEnd : Bool) : Nat → PartReader Expression
  | 0 => refuse
  | depth + 1 => do
    let first ← operand depth
    continued isLowerEnd first depth

/-- A value with the signs in front of it. -/
def operand : Nat → PartReader Expression
  | 0 => refuse
  | depth + 1 => do
    if ← acceptPart fun part => part.token?.any isSign then
      return { mentions := (← operand depth).mentions }
    else if ← accept "CASE" then
      let subject ← if ← isNext ["WHEN"] then pure {} else nested false depth
      let branches ← choices depth
      let otherwise ← if ← accept "ELSE" then nested false depth else pure {}
      expect "END"
      return ofList [subject, branches, otherwise]
    else if ← accept "CAST" then
      within do
        let value ← nested false depth
        expect "AS"
        let _type ← typeName
        return { mentions := value.mentions }
    else if ← accept "EXISTS" then
      let _query ← group
      return { mentions := [.query] }
    else if ← isGroupNext then within (grouped depth)
    else match ← get with
      | .single token :: rest =>
        if token.kind == .parameter then
          set rest
          return { mentions := [.parameter] }
        else if token.isLiteral && token.kind != .quotedText then
          set rest
          return {}
        else if token.isName then
          set rest
          if token.kind != .quotedText && (← isGroupNext) then within (arguments depth)
          else named token
        else refuse
      | _ => refuse

/-- The branches of a choice. -/
def choices : Nat → PartReader Expression
  | 0 => refuse
  | depth + 1 => do
    expect "WHEN"
    let condition ← nested false depth
    expect "THEN"
    let value ← nested false depth
    if ← isNext ["WHEN"] then return ofList [condition, value, ← choices depth]
    else return combined condition value

/-- What stands between parentheses: a query, a value or several of them. -/
def grouped : Nat → PartReader Expression
  | 0 => refuse
  | depth + 1 => do
    if let some query ← query? then return query
    else
      let values ← separated (nested false depth)
      match values with
      | [single] => return single
      | _ => return ofList values

/-- The arguments of a function. -/
def arguments : Nat → PartReader Expression
  | 0 => refuse
  | depth + 1 => do
    if (← get).isEmpty || (← acceptMark '*') then return {}
    else
      let _manner ← acceptAny ["DISTINCT", "ALL"]
      if (← get).isEmpty then return {}
      else return ofList (← separated (nested false depth))

/-- The members of a set. -/
def members : Nat → PartReader Expression
  | 0 => refuse
  | depth + 1 => do
    if ← isGroupNext then
      within do
        if let some query ← query? then return query
        else if (← get).isEmpty then return {}
        else return ofList (← separated (nested false depth))
    else
      let _first ← name
      if ← acceptMark '.' then discard name
      return { mentions := [.query] }

/-- What follows a value in an expression. -/
def continued (isLowerEnd : Bool) (first : Expression) : Nat → PartReader Expression
  | 0 => refuse
  | depth + 1 => do
    if ← acceptPart fun part => part.token?.any (·.isAnyMark operatorMarks) then
      let second ← operand depth
      continued isLowerEnd (combined first second) depth
    else if ← accept "OR" then
      let second ← operand depth
      continued false (combined first second) depth
    else if !isLowerEnd && (← isNext ["AND"]) then
      expect "AND"
      let second ← operand depth
      continued isLowerEnd (combined first second) depth
    else if ← accept "IS" then
      let _isNegated ← accept "NOT"
      if ← accept "DISTINCT" then expect "FROM"
      let second ← operand depth
      continued isLowerEnd (combined first second) depth
    else if ← acceptAny ["ISNULL", "NOTNULL"] then
      continued isLowerEnd { mentions := first.mentions } depth
    else if ← accept "COLLATE" then
      let collation ← name
      continued isLowerEnd { first with collation := some collation.name } depth
    else
      let isNegated ← accept "NOT"
      let isTest ← if isNegated then accept "NULL" else pure false
      if isTest then continued isLowerEnd { mentions := first.mentions } depth
      else if ← acceptAny ["LIKE", "GLOB", "REGEXP", "MATCH"] then
        let pattern ← operand depth
        let escape ← if ← accept "ESCAPE" then operand depth else pure {}
        continued isLowerEnd (ofList [first, pattern, escape]) depth
      else if ← accept "BETWEEN" then
        let lower ← nested true depth
        expect "AND"
        let upper ← operand depth
        continued isLowerEnd (ofList [first, lower, upper]) depth
      else if ← accept "IN" then
        let set ← members depth
        continued isLowerEnd (combined first set) depth
      else if isNegated then refuse
      else return first

end

/-- An expression. Each step into it takes a token at least after every three. -/
def read : PartReader Expression := do
  nested false (3 * (← get).foldr (fun part length => part.length + length) 0 + 3)

end Expression

/-- Where an expression stands: the table whose columns it can mention, whether it can mention the
numbers of the rows too, and the name of the place. -/
structure Scope where
  table : String
  columns : List String
  hasRowNumbers : Bool := true
  place : String
  deriving DecidableEq, Repr, Inhabited

namespace Scope

/-- The names of the number of a row. -/
def rowNumberNames : List String :=
  ["ROWID", "_ROWID_", "OID"]

/-- A name is that of a column, or of the number of a row. -/
def knows (scope : Scope) (name : String) : Bool :=
  scope.columns.any (Text.sameLetters · name) ||
    (scope.hasRowNumbers && rowNumberNames.any (Text.sameLetters · name))

/-- What is wrong with a mention. A name between double quotes that is not known is a text. -/
def fault? (scope : Scope) : Mention → Option DatabaseFault
  | .column name =>
    if scope.knows name.name || name.text.head? == some '"' then none
    else some (refusal s!"no such column: {name.name}")
  | .path names =>
    match names.reverse.map Token.name with
    | column :: table :: _ =>
      let written := String.intercalate "." (names.map Token.name)
      if !(Text.sameLetters table scope.table && scope.knows column) then
        some (refusal s!"no such column: {written}")
      else if scope.hasRowNumbers then none
      else some (refusal s!"the \".\" operator prohibited in {scope.place}")
    | _ => none
  | .parameter => some (refusal s!"parameters prohibited in {scope.place}")
  | .query => some (refusal s!"subqueries prohibited in {scope.place}")

/-- Refuses an expression that mentions what it cannot. -/
def check (scope : Scope) (expression : Expression) : Except DatabaseFault Unit :=
  match expression.mentions.findSome? scope.fault? with
  | some fault => .error fault
  | none => .ok ()

/-- The column that a term of a key or an index is. A text by itself is the name of one here. A
name between double quotes that is not known is a text. -/
def column? (scope : Scope) (term : Expression) : Except DatabaseFault (Option String) := do
  match term.single with
  | none =>
    scope.check term
    return none
  | some token =>
    match scope.columns.find? (Text.sameLetters · token.name) with
    | some column => return some column
    | none =>
      if let some fault := scope.fault? (.column token) then throw fault
      return none

end Scope

end SchemaForward.Sqlite
