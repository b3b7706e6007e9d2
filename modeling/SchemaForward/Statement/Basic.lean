import SchemaForward.Statement.DatabaseObject
import SchemaForward.Text.Blank

/-!
# Statements

A statement of a script: its text without a terminator, the object it is about, and what else it
creates. Comment lines are part of a script but are never run.
-/

namespace SchemaForward

/-- What a statement does. -/
inductive StatementKind where
  | create
  | alterAddConstraint
  | drop
  | comment
  deriving DecidableEq, Repr, Inhabited

namespace StatementKind

/-- The spelling of a statement kind. -/
def name : StatementKind → String
  | .create => "CREATE"
  | .alterAddConstraint => "ALTER_ADD_CONSTRAINT"
  | .drop => "DROP"
  | .comment => "COMMENT"

/-- The spellings of the statement kinds. -/
def names : List (String × StatementKind) :=
  [("CREATE", .create), ("ALTER_ADD_CONSTRAINT", .alterAddConstraint), ("DROP", .drop),
    ("COMMENT", .comment)]

end StatementKind

/-- A statement. A comment that stands by itself has no subject. -/
structure Statement where
  kind : StatementKind
  subject : Option DatabaseObject
  text : String
  alsoCreates : List DatabaseObject := []
  deriving DecidableEq, Repr, Inhabited

namespace Statement

/-- The statement is a comment line. -/
def isCommentOnly (statement : Statement) : Bool :=
  ['-', '-'].isPrefixOf (Text.withoutLeadingBlanks statement.text.toList)

/-- The statement creates an object that a database could already hold. -/
def isCreation (statement : Statement) : Bool :=
  (statement.kind == .create || statement.kind == .alterAddConstraint) &&
    statement.subject.isSome

/-- Everything the statement creates, its subject first. -/
def createdObjects (statement : Statement) : List DatabaseObject :=
  if statement.isCreation then statement.subject.toList ++ statement.alsoCreates else []

/-- The members of a statement in a record. -/
def memberNames : List String :=
  ["kind", "subject", "text", "also_creates"]

/-- A statement as a record. Further objects are written only if there are some. -/
def toJson (statement : Statement) : Json :=
  .object <| [
    ("kind", .text statement.kind.name),
    ("subject", .ofOption DatabaseObject.toJson statement.subject),
    ("text", .text statement.text)] ++
    if statement.alsoCreates.isEmpty then []
    else [("also_creates", .ofList DatabaseObject.toJson statement.alsoCreates)]

/-- The statement that a record describes. -/
def ofJson? (json : Json) : Option Statement := do
  let record ← json.record? memberNames
  let kind ← record.required 0 "kind" (Json.named? StatementKind.names)
  let subject ← record.nullable 1 "subject" DatabaseObject.ofJson?
  let text ← record.required 2 "text" Json.text?
  let alsoCreates ← record.defaulted 3 "also_creates" (Json.list? DatabaseObject.ofJson?) []
  return ⟨kind, subject, text, alsoCreates⟩

/-- A list of statements as a script: each with the terminator behind it unless it is a comment
line, and a blank line between neighbours. -/
def scriptText (terminator : String) (statements : List Statement) : String :=
  Text.join "\n" <| statements.map fun statement =>
    statement.text ++ (if statement.isCommentOnly then "" else terminator) ++ "\n"

end Statement

end SchemaForward
