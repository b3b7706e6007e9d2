import SchemaForward.Identifier.Legal
import SchemaForward.Model.Basic
import SchemaForward.Warning.Basic

/-!
# Naming a model

Every table, column, primary key, index and relationship of a model is given an identifier, in the
order of declaration: a table first, then its columns, its key and its indexes, and relationships
after all tables. A table with a name that cannot be made legal is skipped as a whole, though the
keys it took until then stay taken. A relationship of a table that was skipped is left out; it is no
failure of its own.
-/

namespace SchemaForward

/-- The names that are asked for in place of those of the model. -/
structure Overrides where
  entries : List (ModelElement × String)
  deriving DecidableEq, Repr, Inhabited

namespace Overrides

/-- No name is overridden. -/
def empty : Overrides where
  entries := []

/-- The name that is asked for an object. -/
def get? (overrides : Overrides) (object : ModelElement) : Option String :=
  overrides.entries.lookup object

/-- The overrides with another name for an object. -/
def insert (overrides : Overrides) (object : ModelElement) (name : String) : Overrides where
  entries := (object, name) :: overrides.entries.filter (·.1 != object)

end Overrides

/-- A name to be given: for an object, within a namespace, after a name of the model. -/
structure NameRequest where
  object : ModelElement
  scope : Namespace
  name : String
  deriving DecidableEq, Repr, Inhabited

/-- An identifier given to an object: what was asked for, what was given, and the changes that led
from the one to the other. -/
structure GivenIdentifier where
  object : ModelElement
  scope : Namespace
  requested : String
  name : String
  changes : List SpellingChange
  deriving DecidableEq, Repr, Inhabited

namespace GivenIdentifier

/-- The warnings about the changes of a name. -/
def warnings (assigned : GivenIdentifier) : List Warning :=
  assigned.changes.map fun change =>
    .given assigned.object (.name change.step) change.old change.new

end GivenIdentifier

/-- The identifiers of a table and of all that belongs to it. -/
structure NamedTable where
  table : GivenIdentifier
  columns : List GivenIdentifier
  key : GivenIdentifier
  indexes : List GivenIdentifier
  deriving DecidableEq, Repr, Inhabited

namespace NamedTable

/-- The identifiers of a table in the order in which they were given. -/
def entries (named : NamedTable) : List GivenIdentifier :=
  named.table :: named.columns ++ named.key :: named.indexes

/-- The identifier of the first column with a name. -/
def column? (named : NamedTable) (table : Table) (name : String) : Option String :=
  ((table.columns.zip named.columns).find? (·.1.name == name)).map (·.2.name)

end NamedTable

/-- What became of the name of a relationship. -/
inductive RelationshipName where
  | assigned (name : GivenIdentifier)
  | failed (failure : NamingFailure)
  | unreachable
  deriving DecidableEq, Repr, Inhabited

/-- An object that could not be named. -/
structure SkippedObject where
  object : ModelElement
  failure : NamingFailure
  deriving DecidableEq, Repr, Inhabited

/-- The names of a model: for each table and each relationship, in order, what became of it. -/
structure Naming where
  tables : List (Table × Except NamingFailure NamedTable)
  relationships : List (Relationship × RelationshipName)

namespace Naming

/-- The request for a table. -/
def tableRequest (table : Table) : NameRequest :=
  ⟨.table table.name, .table, table.name⟩

/-- The requests for the columns of a table with a given identifier. -/
def columnRequests (table : Table) (identifier : String) : List NameRequest :=
  table.columns.map fun column =>
    ⟨.column table.name column.name, .column identifier, column.name⟩

/-- The request for the primary key of a table with a given identifier. A key without a name is
called after its table. -/
def keyRequest (rules : IdentifierRules) (table : Table) (identifier : String) : NameRequest :=
  ⟨.primaryKey table.name, .constraint,
    table.keyName.getD (rules.fold (identifier ++ "_PK"))⟩

/-- The namespace of indexes. -/
def indexScope (rules : IdentifierRules) : Namespace :=
  if rules.indexesShareTables then .table else .index

/-- The requests for the indexes of a table. -/
def indexRequests (rules : IdentifierRules) (table : Table) : List NameRequest :=
  table.indexes.map fun index =>
    ⟨.index table.name index.name, indexScope rules, index.name⟩

/-- The request for a relationship. -/
def relationshipRequest (relationship : Relationship) : NameRequest :=
  ⟨.relationship relationship.name, .constraint, relationship.name⟩

/-- The identifier for one request. -/
def give (rules : IdentifierRules) (overrides : Overrides) (used : TakenNames)
    (request : NameRequest) : Except NamingFailure (GivenIdentifier × TakenNames) :=
  let requested := (overrides.get? request.object).getD request.name
  match rules.identifierFor request.scope used requested with
  | .error failure => .error failure
  | .ok (legal, next) =>
    .ok (⟨request.object, request.scope, requested, legal.name, legal.changes⟩, next)

/-- The identifiers for requests in order, up to the first failure. What was taken before a failure
stays taken. -/
def giveAll (rules : IdentifierRules) (overrides : Overrides) :
    TakenNames → List NameRequest → Except NamingFailure (List GivenIdentifier) × TakenNames
  | used, [] => (.ok [], used)
  | used, request :: rest =>
    match give rules overrides used request with
    | .error failure => (.error failure, used)
    | .ok (assigned, next) =>
      match giveAll rules overrides next rest with
      | (.error failure, last) => (.error failure, last)
      | (.ok others, last) => (.ok (assigned :: others), last)

/-- The identifiers of a table whose own identifier is given already. -/
def nameContents (rules : IdentifierRules) (overrides : Overrides) (used : TakenNames)
    (table : Table) (identifier : GivenIdentifier) :
    Except NamingFailure NamedTable × TakenNames :=
  match giveAll rules overrides used (columnRequests table identifier.name) with
  | (.error failure, afterColumns) => (.error failure, afterColumns)
  | (.ok columns, afterColumns) =>
    match give rules overrides afterColumns (keyRequest rules table identifier.name) with
    | .error failure => (.error failure, afterColumns)
    | .ok (key, afterKey) =>
      match giveAll rules overrides afterKey (indexRequests rules table) with
      | (.error failure, last) => (.error failure, last)
      | (.ok indexes, last) => (.ok ⟨identifier, columns, key, indexes⟩, last)

/-- The identifiers of a table. -/
def nameTable (rules : IdentifierRules) (overrides : Overrides) (used : TakenNames)
    (table : Table) : Except NamingFailure NamedTable × TakenNames :=
  match give rules overrides used (tableRequest table) with
  | .error failure => (.error failure, used)
  | .ok (identifier, next) => nameContents rules overrides next table identifier

/-- The identifiers of tables in order. -/
def nameTables (rules : IdentifierRules) (overrides : Overrides) :
    TakenNames → List Table → List (Table × Except NamingFailure NamedTable) × TakenNames
  | used, [] => ([], used)
  | used, table :: rest =>
    let (outcome, next) := nameTable rules overrides used table
    let (others, last) := nameTables rules overrides next rest
    ((table, outcome) :: others, last)

/-- The first table of a name that was not skipped, with its identifiers. -/
def findTable? (tables : List (Table × Except NamingFailure NamedTable)) (name : String) :
    Option (Table × NamedTable) :=
  tables.findSome? fun entry =>
    match entry.2 with
    | .ok named => if entry.1.name == name then some (entry.1, named) else none
    | .error _ => none

/-- Both tables of a relationship were named. -/
def isReachable (tables : List (Table × Except NamingFailure NamedTable))
    (relationship : Relationship) : Bool :=
  (findTable? tables relationship.parent).isSome && (findTable? tables relationship.child).isSome

/-- The identifiers of relationships in order, once those of the tables are given. -/
def nameRelationships (rules : IdentifierRules) (overrides : Overrides)
    (tables : List (Table × Except NamingFailure NamedTable)) :
    TakenNames → List Relationship → List (Relationship × RelationshipName)
  | _, [] => []
  | used, relationship :: rest =>
    if isReachable tables relationship then
      match give rules overrides used (relationshipRequest relationship) with
      | .error failure =>
        (relationship, .failed failure) :: nameRelationships rules overrides tables used rest
      | .ok (name, next) =>
        (relationship, .assigned name) :: nameRelationships rules overrides tables next rest
    else (relationship, .unreachable) :: nameRelationships rules overrides tables used rest

/-- The names of a model. -/
def ofModel (rules : IdentifierRules) (overrides : Overrides) (model : Model) : Naming :=
  let (tables, used) := nameTables rules overrides .empty model.tables
  { tables, relationships := nameRelationships rules overrides tables used model.relationships }

/-- The tables that were named, with their identifiers. -/
def generated (naming : Naming) : List (Table × NamedTable) :=
  naming.tables.filterMap fun entry =>
    match entry.2 with
    | .ok named => some (entry.1, named)
    | .error _ => none

/-- The relationships that were named, with their identifiers. -/
def related (naming : Naming) : List (Relationship × GivenIdentifier) :=
  naming.relationships.filterMap fun entry =>
    match entry.2 with
    | .assigned name => some (entry.1, name)
    | _ => none

/-- All identifiers, in the order in which they were given. -/
def entries (naming : Naming) : List GivenIdentifier :=
  naming.generated.flatMap (·.2.entries) ++ naming.related.map (·.2)

/-- The tables and relationships that could not be named. -/
def skipped (naming : Naming) : List SkippedObject :=
  (naming.tables.filterMap fun entry =>
    match entry.2 with
    | .ok _ => none
    | .error failure => some ⟨.table entry.1.name, failure⟩) ++
  naming.relationships.filterMap fun entry =>
    match entry.2 with
    | .failed failure => some ⟨.relationship entry.1.name, failure⟩
    | _ => none

/-- The first named table of a name. -/
def table? (naming : Naming) (name : String) : Option (Table × NamedTable) :=
  findTable? naming.tables name

end Naming

end SchemaForward
