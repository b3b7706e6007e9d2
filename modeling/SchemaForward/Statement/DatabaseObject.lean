import SchemaForward.Json.Record
import SchemaForward.Text.Letters

/-!
# Database objects

Tables, constraints, indexes and the foreign keys of relationships, by name. The same description
serves for an object that a script creates and for one that a target database holds. Objects are
the same when their keys are: kind, schema and name, the latter two up to case.
-/

namespace SchemaForward

/-- The kind of a database object. A relationship is a foreign key that a model asks for; what a
database holds is a constraint. -/
inductive ObjectKind where
  | table
  | constraint
  | index
  | relationship
  deriving DecidableEq, Repr, Inhabited

namespace ObjectKind

/-- The spelling of a kind. -/
def name : ObjectKind → String
  | .table => "TABLE"
  | .constraint => "CONSTRAINT"
  | .index => "INDEX"
  | .relationship => "RELATIONSHIP"

/-- The spellings of the kinds. -/
def names : List (String × ObjectKind) :=
  [("TABLE", .table), ("CONSTRAINT", .constraint), ("INDEX", .index),
    ("RELATIONSHIP", .relationship)]

/-- The place of a kind among objects that cannot be dropped in order: constraints go first, then
indexes, then tables. -/
def dropRank : ObjectKind → Nat
  | .constraint => 0
  | .relationship => 0
  | .index => 1
  | .table => 2

/-- Both kinds are constraints in a database. -/
def isConstraint : ObjectKind → Bool
  | .constraint => true
  | .relationship => true
  | _ => false

end ObjectKind

/-- An object of a database: its kind and name, the table that owns it, and its schema. -/
structure DatabaseObject where
  kind : ObjectKind
  name : String
  table : Option String := none
  schema : Option String := none
  deriving DecidableEq, Repr, Inhabited

/-- What tells one object from another. -/
structure ObjectKey where
  kind : ObjectKind
  schema : Option String
  name : String
  deriving DecidableEq, Repr, Inhabited

namespace DatabaseObject

/-- The name, with the schema in front if there is one. -/
def fullName (object : DatabaseObject) : String :=
  match object.schema with
  | some schema => s!"{schema}.{object.name}"
  | none => object.name

/-- The object in words. -/
def describe (object : DatabaseObject) : String :=
  match object.table with
  | some table => s!"{object.kind.name} {object.fullName} on {table}"
  | none => s!"{object.kind.name} {object.fullName}"

/-- The key of an object. -/
def key (object : DatabaseObject) : ObjectKey where
  kind := object.kind
  schema := object.schema.map Text.upper
  name := Text.upper object.name

/-- Two schemas are the same: both absent, or equal up to case. -/
def schemasAgree : Option String → Option String → Bool
  | some first, some second => Text.sameLetters first second
  | none, none => true
  | _, _ => false

/-- The existing object stands where a script would create the subject. A relationship collides
with any constraint of its name. -/
def collidesWith (existing subject : DatabaseObject) : Bool :=
  (if subject.kind.isConstraint then existing.kind.isConstraint
    else existing.kind == subject.kind) &&
  Text.sameLetters existing.name subject.name &&
  schemasAgree existing.schema subject.schema

/-- The members of an object in a record. -/
def memberNames : List String :=
  ["kind", "name", "table", "schema"]

/-- An object as a record. -/
def toJson (object : DatabaseObject) : Json :=
  .object [
    ("kind", .text object.kind.name),
    ("name", .text object.name),
    ("table", .ofOption .text object.table),
    ("schema", .ofOption .text object.schema)]

/-- The object that a record describes. -/
def ofJson? (json : Json) : Option DatabaseObject := do
  let record ← json.record? memberNames
  let kind ← record.required 0 "kind" (Json.named? ObjectKind.names)
  let name ← record.required 1 "name" Json.text?
  let table ← record.nullable 2 "table" Json.text?
  let schema ← record.nullable 3 "schema" Json.text?
  return ⟨kind, name, table, schema⟩

end DatabaseObject

end SchemaForward
