import SchemaForward.Proofs.Identifier.Changes
import SchemaForward.Proofs.Script.Objects
import SchemaForward.Proofs.Script.Warnings

/-!
# Settled names

An identifier that is asked for by its own name, at the same stage of the taken names, is given
again, without a change, and takes the same place. So a model that is named again, with overrides
that ask for the identifiers of its first naming, comes through the same stages. A table that had to
be skipped fails again at the same point: what was asked for it has not been touched, since no
object of it was given an identifier, and the stages in which it was asked for are the same.

This takes objects with different names. Two tables of one name share their overrides, and what was
given to the one would be asked for the other.
-/

namespace SchemaForward

namespace GivenIdentifier

/-- The identifier as it is given to one who asks for it by its own name. -/
def settled (given : GivenIdentifier) : GivenIdentifier :=
  { given with requested := given.name, changes := [] }

/-- Asking for an identifier by its own name leaves the identifier what it is. -/
@[simp]
theorem settled_name (given : GivenIdentifier) : given.settled.name = given.name :=
  rfl

end GivenIdentifier

namespace NamedTable

/-- The identifiers of a table, each asked for by its own name. -/
def settled (named : NamedTable) : NamedTable where
  table := named.table.settled
  columns := named.columns.map (·.settled)
  key := named.key.settled
  indexes := named.indexes.map (·.settled)

/-- A settled table has a settled identifier of its own. -/
@[simp]
theorem settled_table (named : NamedTable) : named.settled.table = named.table.settled :=
  rfl

/-- A settled table has a settled key. -/
@[simp]
theorem settled_key (named : NamedTable) : named.settled.key = named.key.settled :=
  rfl

/-- All identifiers of a settled table are settled, in the same order. -/
@[simp]
theorem entries_settled (named : NamedTable) :
    named.settled.entries = named.entries.map (·.settled) := by
  simp [entries, settled]

end NamedTable

/-- The identifier of a relationship, asked for by its own name. -/
def RelationshipName.settled : RelationshipName → RelationshipName
  | .assigned name => .assigned name.settled
  | .failed failure => .failed failure
  | .unreachable => .unreachable

namespace Naming

/-- What became of a table, its identifiers asked for by their own names. -/
def settledTable (entry : Table × Except NamingFailure NamedTable) :
    Table × Except NamingFailure NamedTable :=
  (entry.1, entry.2.map (·.settled))

/-- The same names for the same model, each asked for by itself. -/
def settled (naming : Naming) : Naming where
  tables := naming.tables.map settledTable
  relationships := naming.relationships.map fun entry => (entry.1, entry.2.settled)

section Again

variable {rules : IdentifierRules} {overrides others : Overrides}

/-- An identifier that is asked for by its own name is given again. The rules have to be sensible
for that: an identifier that is not legal would be changed once more. -/
theorem give_settled (sensible : rules.Sensible) {used next : TakenNames} {request : NameRequest}
    {given : GivenIdentifier} (success : give rules overrides used request = .ok (given, next))
    (asked : others.get? given.object = some given.name) :
    give rules others used request = .ok (given.settled, next) := by
  obtain ⟨legal, found, rfl⟩ := give_eq_ok_iff.mp success
  have again := IdentifierRules.identifierFor_again found (sensible.isLegal_of_identifierFor found)
  have requested : requestedName others request = legal.name := by
    rw [requestedName, show others.get? request.object = some legal.name from asked]
    rfl
  apply give_eq_ok_iff.mpr
  refine ⟨⟨legal.name, []⟩, ?_, ?_⟩
  · rw [requested, again]
  · rw [requested]
    rfl

/-- Requests for the identifiers they were given are given them again, and without changes. The
stages of what is taken are the same as before, one by one. -/
theorem giveAll_settled (sensible : rules.Sensible) {used last : TakenNames}
    {requests : List NameRequest} {entries : List GivenIdentifier}
    (success : giveAll rules overrides used requests = (.ok entries, last))
    (asked : ∀ given ∈ entries, others.get? given.object = some given.name) :
    giveAll rules others used requests = (.ok (entries.map (·.settled)), last) := by
  induction requests generalizing used entries with
  | nil =>
    obtain ⟨rfl, rfl⟩ := giveAll_nil_eq_ok_iff.mp success
    rfl
  | cons request rest inductionHypothesis =>
    obtain ⟨given, next, remaining, first, further, rfl⟩ := giveAll_cons_eq_ok_iff.mp success
    obtain ⟨askedHere, askedRest⟩ := List.forall_mem_cons.mp asked
    have again := give_settled sensible first askedHere
    have others := inductionHypothesis further askedRest
    exact giveAll_cons_eq_ok_iff.mpr ⟨_, next, _, again, others, rfl⟩

/-- The overrides ask for what a table was given, or, if it was skipped, for the same names as
before. -/
def SettlesTable (overrides others : Overrides)
    (entry : Table × Except NamingFailure NamedTable) : Prop :=
  match entry.2 with
  | .ok named => ∀ given ∈ named.entries, others.get? given.object = some given.name
  | .error _ => ∀ object, object.owner? = some entry.1.name →
      others.get? object = overrides.get? object

/-- A table comes out as it did before, and leaves the same names taken. If it could be named, each
request is made for the identifier it was given, which is legal and free at the same stage. If not,
nothing about its requests has changed. -/
theorem nameTable_settled (sensible : rules.Sensible) {used : TakenNames} {table : Table}
    (settles : SettlesTable overrides others (table, (nameTable rules overrides used table).1)) :
    nameTable rules others used table =
      ((nameTable rules overrides used table).1.map (·.settled),
        (nameTable rules overrides used table).2) := by
  rcases outcome : nameTable rules overrides used table with ⟨result, last⟩
  rw [outcome] at settles
  cases result with
  | error failure =>
    -- What was given before the failure is asked for as it was then, not by its own name.
    rw [nameTable_congr settles, outcome]
    rfl
  | ok named =>
    obtain ⟨afterTable, afterColumns, afterKey, ofTable, ofColumns, ofKey, ofIndexes⟩ :=
      nameTable_eq_ok_iff.mp outcome
    have asked : ∀ given ∈ named.entries, others.get? given.object = some given.name := settles
    simp only [NamedTable.entries, List.cons_append, List.forall_mem_cons,
      List.forall_mem_append] at asked
    obtain ⟨askedTable, askedColumns, askedKey, askedIndexes⟩ := asked
    apply nameTable_eq_ok_iff.mpr
    refine ⟨afterTable, afterColumns, afterKey, ?_, ?_, ?_, ?_⟩
    · exact give_settled sensible ofTable askedTable
    · exact giveAll_settled sensible ofColumns askedColumns
    · exact give_settled sensible ofKey askedKey
    · exact giveAll_settled sensible ofIndexes askedIndexes

/-- Tables that ask for the identifiers they were given are given them again. A table that was
skipped is skipped again, with the same keys left taken, so the tables behind it meet the same
stage. -/
theorem nameTables_settled (sensible : rules.Sensible) {used : TakenNames} {tables : List Table}
    (settles : ∀ entry ∈ (nameTables rules overrides used tables).1,
      SettlesTable overrides others entry) :
    nameTables rules others used tables =
      ((nameTables rules overrides used tables).1.map settledTable,
        (nameTables rules overrides used tables).2) := by
  induction tables generalizing used with
  | nil => rfl
  | cons table rest inductionHypothesis =>
    rw [nameTables] at settles
    obtain ⟨here, inRest⟩ := List.forall_mem_cons.mp settles
    rw [nameTables, nameTable_settled sensible here]
    dsimp only
    rw [inductionHypothesis inRest]
    rfl

/-- The same table is found by a name, with settled identifiers. The search goes by names in the
model. -/
theorem findTable?_settled (tables : List (Table × Except NamingFailure NamedTable))
    (name : String) : findTable? (tables.map settledTable) name =
      (findTable? tables name).map fun found => (found.1, found.2.settled) := by
  rw [findTable?, findTable?, List.findSome?_map, List.map_findSome?]
  congr 1
  funext entry
  obtain ⟨table, outcome⟩ := entry
  cases outcome with
  | error failure => rfl
  | ok named =>
    by_cases same : table.name = name <;> simp [settledTable, Except.map, same]

/-- The same relationships are reached, since the same tables are generated. -/
theorem isReachable_settled (tables : List (Table × Except NamingFailure NamedTable))
    (relationship : Relationship) :
    isReachable (tables.map settledTable) relationship = isReachable tables relationship := by
  rw [isReachable, isReachable, findTable?_settled, findTable?_settled, Option.isSome_map,
    Option.isSome_map]

/-- The overrides ask for what a relationship was given, or, if it could not be named, for the same
name as before. -/
def SettlesRelationship (overrides others : Overrides) (entry : Relationship × RelationshipName) :
    Prop :=
  match entry.2 with
  | .assigned name => others.get? name.object = some name.name
  | .failed _ => others.get? (.relationship entry.1.name) =
      overrides.get? (.relationship entry.1.name)
  | .unreachable => True

/-- Relationships that ask for the identifiers they were given are given them again, and those that
failed or were not reached come to the same. -/
theorem nameRelationships_settled (sensible : rules.Sensible)
    {tables : List (Table × Except NamingFailure NamedTable)} {used : TakenNames}
    {relationships : List Relationship}
    (settles : ∀ entry ∈ nameRelationships rules overrides tables used relationships,
      SettlesRelationship overrides others entry) :
    nameRelationships rules others (tables.map settledTable) used relationships =
      (nameRelationships rules overrides tables used relationships).map
        fun entry => (entry.1, entry.2.settled) := by
  induction relationships generalizing used with
  | nil => rfl
  | cons relationship rest inductionHypothesis =>
    rw [nameRelationships] at settles ⊢
    rw [nameRelationships, isReachable_settled]
    split at settles
    · rename_i reachable
      rw [if_pos reachable, if_pos reachable]
      cases given : give rules overrides used (relationshipRequest relationship) with
      | error failure =>
        rw [given] at settles
        obtain ⟨here, inRest⟩ := List.forall_mem_cons.mp settles
        have same : others.get? (relationshipRequest relationship).object =
            overrides.get? (relationshipRequest relationship).object := here
        rw [give_congr same, given]
        dsimp only
        rw [inductionHypothesis inRest]
        rfl
      | ok result =>
        obtain ⟨name, next⟩ := result
        rw [given] at settles
        obtain ⟨here, inRest⟩ := List.forall_mem_cons.mp settles
        rw [give_settled sensible given here]
        dsimp only
        rw [inductionHypothesis inRest]
        rfl
    · rename_i unreachable
      obtain ⟨-, inRest⟩ := List.forall_mem_cons.mp settles
      rw [if_neg unreachable, if_neg unreachable, inductionHypothesis inRest]
      rfl

/-- A model that is named again with overrides that ask for its names is named the same. Tables come
through the same stages of what is taken, and relationships find the same tables. -/
theorem ofModel_settled (sensible : rules.Sensible) {model : Model}
    (settlesTables : ∀ entry ∈ (ofModel rules overrides model).tables,
      SettlesTable overrides others entry)
    (settlesRelationships : ∀ entry ∈ (ofModel rules overrides model).relationships,
      SettlesRelationship overrides others entry) :
    ofModel rules others model = (ofModel rules overrides model).settled := by
  rw [ofModel, nameTables_settled sensible settlesTables]
  dsimp only
  rw [nameRelationships_settled sensible settlesRelationships]
  rfl

end Again

end Naming

/-! ## The script of settled names -/

namespace NamedTable

/-- The same identifier is found for a column. -/
@[simp]
theorem column?_settled (named : NamedTable) (table : Table) (name : String) :
    named.settled.column? table name = named.column? table name := by
  simp only [column?, settled, List.zip_map_right, List.find?_map, Option.map_map]
  rfl

/-- The columns of a settled table are defined as before. A definition holds the identifier and not
the way to it. -/
theorem columnDefinitions_settled (dialect : Dialect) (table : Table) (named : NamedTable) :
    named.settled.columnDefinitions dialect table = named.columnDefinitions dialect table := by
  simp only [columnDefinitions, settled, List.zip_map_right, List.map_map]
  rfl

/-- The indexes of a settled table are defined as before. -/
theorem indexDefinitions_settled (table : Table) (named : NamedTable) :
    named.settled.indexDefinitions table = named.indexDefinitions table := by
  have sameColumns : named.settled.column? table = named.column? table :=
    funext (column?_settled named table)
  rw [indexDefinitions, sameColumns]
  simp only [indexDefinitions, settled, List.zip_map_right, List.map_map]
  rfl

/-- The key of a settled table is defined as before. -/
theorem keyDefinition_settled (table : Table) (named : NamedTable) :
    named.settled.keyDefinition table = named.keyDefinition table := by
  simp [keyDefinition]

/-- The comments on a settled table are the same. -/
theorem comments_settled (table : Table) (named : NamedTable) :
    named.settled.comments table = named.comments table := by
  simp only [comments, settled, List.zip_map_right, List.filterMap_map]
  rfl

end NamedTable

namespace Naming

variable (naming : Naming)

/-- The same tables are generated, with settled identifiers. -/
theorem generated_settled :
    naming.settled.generated = naming.generated.map fun entry => (entry.1, entry.2.settled) := by
  rw [generated, generated, settled, List.filterMap_map, List.map_filterMap]
  congr 1
  funext entry
  obtain ⟨table, outcome⟩ := entry
  cases outcome <;> rfl

/-- The same relationships are named, with settled identifiers. -/
theorem related_settled :
    naming.settled.related = naming.related.map fun entry => (entry.1, entry.2.settled) := by
  rw [related, related, settled, List.filterMap_map, List.map_filterMap]
  congr 1
  funext entry
  obtain ⟨relationship, outcome⟩ := entry
  cases outcome <;> rfl

/-- All identifiers of a settled naming are settled, in the same order. -/
theorem entries_settled : naming.settled.entries = naming.entries.map (·.settled) := by
  simp only [entries, generated_settled, related_settled, List.flatMap_map, List.map_append,
    List.map_flatMap, List.map_map, NamedTable.entries_settled]
  rfl

/-- The same objects are skipped, for the same reasons. -/
theorem skipped_settled : naming.settled.skipped = naming.skipped := by
  rw [skipped, skipped, settled, List.filterMap_map, List.filterMap_map]
  congr 2
  · funext entry
    obtain ⟨table, outcome⟩ := entry
    cases outcome <;> rfl
  · funext entry
    obtain ⟨relationship, outcome⟩ := entry
    cases outcome <;> rfl

/-- A side of a relationship is resolved to the same table and the same columns. -/
theorem side_settled (table : String) (columns : List String) :
    naming.settled.side table columns = naming.side table columns := by
  rw [side, side, table?, table?, settled, findTable?_settled]
  cases findTable? naming.tables table with
  | none => rfl
  | some found => simp

/-- The foreign key of a relationship is the same. -/
theorem foreignKey_settled (relationship : Relationship) (identifier : String) :
    naming.settled.foreignKey relationship identifier =
      naming.foreignKey relationship identifier := by
  simp only [foreignKey, side_settled]

/-- The same foreign keys are declared. -/
theorem foreignKeys_settled : naming.settled.foreignKeys = naming.foreignKeys := by
  simp [foreignKeys, related_settled, foreignKey_settled]

/-- The same foreign keys stand in the definition of a table, wherever they are written there. -/
theorem inlineForeignKeys_settled (table : String) :
    naming.settled.inlineForeignKeys table = naming.inlineForeignKeys table := by
  simp only [inlineForeignKeys, related_settled, List.filter_map, List.map_map]
  congr 1
  funext entry
  exact naming.foreignKey_settled _ _

/-- Each table has the same definitions, those of its indexes and comments included. -/
theorem tableDefinitions_settled (dialect : Dialect) (table : Table) (named : NamedTable) :
    named.settled.definitions dialect naming.settled table =
      named.definitions dialect naming table := by
  simp only [NamedTable.definitions, NamedTable.tableDefinition, inlineForeignKeys_settled,
    NamedTable.columnDefinitions_settled, NamedTable.indexDefinitions_settled,
    NamedTable.keyDefinition_settled, NamedTable.comments_settled, NamedTable.settled_table,
    GivenIdentifier.settled_name]

/-- The script is that of the same names, whatever was asked for. -/
theorem definitions_settled (dialect : Dialect) :
    naming.settled.definitions dialect = naming.definitions dialect := by
  simp only [definitions, generated_settled, foreignKeys_settled, List.flatMap_map,
    tableDefinitions_settled]

/-- Nothing is changed on the way to a settled name. So all warnings that are left are about types.
-/
theorem isName_of_warnings_settled (dialect : Dialect) {warning : Warning}
    (given : warning ∈ naming.settled.warnings dialect) : warning.reason.isName = false := by
  rw [warnings, entries_settled, generated_settled] at given
  rcases List.mem_append.mp given with ofName | ofType
  · obtain ⟨entry, inEntries, ofEntry⟩ := List.mem_flatMap.mp ofName
    obtain ⟨identifier, -, rfl⟩ := List.mem_map.mp inEntries
    cases ofEntry
  · obtain ⟨entry, -, ofTable⟩ := List.mem_flatMap.mp ofType
    obtain ⟨column, -, ofColumn⟩ := List.mem_filterMap.mp ofTable
    obtain ⟨coercion, -, rfl⟩ := Option.map_eq_some_iff.mp ofColumn
    rfl

end Naming

/-! ## Asking for the given names -/

namespace Naming

section OfModel

variable (rules : IdentifierRules) (overrides : Overrides) {model : Model}

/-- The identifiers of a model settle its tables: what belongs to a table that was skipped was given
none. -/
theorem settlesTable_asking (distinct : model.DistinctNames) :
    ∀ entry ∈ (ofModel rules overrides model).tables, SettlesTable overrides
      (overrides.asking (ofModel rules overrides model).entries) entry := by
  rintro ⟨table, outcome⟩ inTables
  cases outcome with
  | ok named =>
    intro given member
    apply overrides.get?_asking_of_mem (nodup_objects_ofModel rules overrides distinct)
    apply List.mem_append_left
    exact List.mem_flatMap.mpr ⟨_, mem_generated.mpr inTables, member⟩
  | error failure =>
    intro object owned
    apply overrides.get?_asking_of_forall_ne
    intro given member same
    rw [← same] at owned
    rcases owner?_of_mem_entries rules overrides member with ofTable | ofRelationship
    · -- The table that the identifier belongs to has the same name and was not skipped.
      obtain ⟨⟨other, named⟩, generated, isOwner⟩ := ofTable
      have sameName : other.name = table.name := Option.some.inj (isOwner.symm.trans owned)
      cases eq_of_name_eq_of_mem_tables rules overrides distinct _ (mem_generated.mp generated) _
        inTables sameName
    · obtain ⟨entry, -, isRelationship⟩ := ofRelationship
      rw [isRelationship] at owned
      cases owned

/-- The identifiers of a model settle its relationships. One that was named is asked for by its
identifier. One that failed has no override that it did not have before, since no other object has
its name. -/
theorem settlesRelationship_asking (distinct : model.DistinctNames) :
    ∀ entry ∈ (ofModel rules overrides model).relationships, SettlesRelationship overrides
      (overrides.asking (ofModel rules overrides model).entries) entry := by
  rintro ⟨relationship, outcome⟩ inRelationships
  cases outcome with
  | assigned name =>
    apply overrides.get?_asking_of_mem (nodup_objects_ofModel rules overrides distinct)
    apply List.mem_append_right
    exact List.mem_map.mpr ⟨_, mem_related.mpr inRelationships, rfl⟩
  | failed failure =>
    apply overrides.get?_asking_of_forall_ne
    intro given member same
    rcases owner?_of_mem_entries rules overrides member with ofTable | ofRelationship
    · obtain ⟨entry, -, isOwner⟩ := ofTable
      rw [same] at isOwner
      cases isOwner
    · obtain ⟨⟨other, name⟩, related, isRelationship⟩ := ofRelationship
      have sameName : other.name = relationship.name :=
        ModelElement.relationship.inj (isRelationship.symm.trans same)
      cases eq_of_name_eq_of_mem_relationships rules overrides distinct _ (mem_related.mp related) _
        inRelationships sameName
  | unreachable => trivial

/-- A model with different names that is named again, with overrides that ask for the names it was
given, is given them again. -/
theorem ofModel_asking (sensible : rules.Sensible) (distinct : model.DistinctNames) :
    ofModel rules (overrides.asking (ofModel rules overrides model).entries) model =
      (ofModel rules overrides model).settled :=
  ofModel_settled sensible (settlesTable_asking rules overrides distinct)
    (settlesRelationship_asking rules overrides distinct)

end OfModel

end Naming

namespace ScriptWriter

/-- The writer that asks for the names of its last run. -/
def askingAgain (writer : ScriptWriter) : ScriptWriter :=
  writer.names.foldl (fun writer given => writer.withOverride given.object given.name) writer

/-- Asking for all names again changes the overrides of a writer and nothing else. -/
theorem askingAgain_eq (writer : ScriptWriter) :
    writer.askingAgain = { writer with overrides := writer.overrides.asking writer.names } := by
  have folded : ∀ (names : List GivenIdentifier) (writer : ScriptWriter),
      names.foldl (fun writer given => writer.withOverride given.object given.name) writer =
        { writer with overrides := writer.overrides.asking names } := by
    intro names
    induction names with
    | nil => exact fun _ => rfl
    | cons given rest inductionHypothesis =>
      intro writer
      rw [List.foldl_cons, inductionHypothesis]
      rfl
  exact folded writer.names writer

/-- If the objects of a model have different names and the rules are sensible, as those of the known
dialects are, a writer that asks for the names of its last run over the model gives them again,
writes the same statements, skips the same objects and changes no name. -/
theorem generate_askingAgain (writer : ScriptWriter) {model : Model}
    (valid : model.validate = .ok ()) (distinct : model.DistinctNames)
    (sensible : writer.dialect.identifiers.Sensible) :
    let first := (writer.generate model).2
    let again := first.askingAgain.generate model
    again.1 = .ok () ∧
      again.2.names = first.names.map (·.settled) ∧
      again.2.statements = first.statements ∧
      again.2.skipped = first.skipped ∧
      (∀ warning ∈ again.2.warnings, warning.reason.isName = false) ∧
      ∀ spelling dialect, Dialect.named? spelling = some dialect →
        dialect.identifiers.Sensible := by
  intro first again
  have isFirst : first = writer.completed model :=
    congrArg Prod.snd (generate_of_valid valid writer)
  have isAgain : again = (.ok (), first.askingAgain.completed model) :=
    generate_of_valid valid first.askingAgain
  have named : Naming.ofModel first.askingAgain.dialect.identifiers first.askingAgain.overrides
      model = (Naming.ofModel writer.dialect.identifiers writer.overrides model).settled := by
    rw [askingAgain_eq, isFirst]
    exact Naming.ofModel_asking _ _ sensible distinct
  have sameDialect : first.askingAgain.dialect = writer.dialect := by
    rw [askingAgain_eq, isFirst]
    rfl
  have sameSchema : first.askingAgain.targetSchema = writer.targetSchema := by
    rw [askingAgain_eq, isFirst]
    rfl
  rw [isAgain]
  refine ⟨rfl, ?_, ?_, ?_, ?_, fun _ _ => Dialect.sensible_of_named⟩
  · rw [completed, named, isFirst]
    exact Naming.entries_settled _
  · rw [completed, named, sameDialect, sameSchema, isFirst]
    dsimp only
    rw [Naming.definitions_settled]
    rfl
  · rw [completed, named, isFirst]
    exact Naming.skipped_settled _
  · rw [completed, named]
    intro warning given
    exact Naming.isName_of_warnings_settled _ _ given

/-- The lengthy tables and one with an index whose key is called after it, and relationships one of
which finds no room and one refers to the table that is left out. -/
def tangled : Model where
  tables := lengthy.tables ++ [
    { name := "d", columns := [{ name := "id", typeCode := .integer }],
      indexes := [{ name := "b", columns := ["id"] }] }]
  relationships := [
    { name := "f", parent := "B", child := "order", mappings := [⟨"ID", "PLAIN"⟩] },
    { name := "K", parent := "B", child := "d", mappings := [⟨"ID", "id"⟩] },
    { name := "g", parent := "c", child := "d", mappings := [⟨"id", "id"⟩] }]

/-- The tangled names are settled after the first run, though many of them were changed in it and a
table and a relationship were skipped. -/
theorem generate_askingAgain_tangled :
    let writer := (new terse).withOverride (.column "order" "PLAIN") "id"
    let first := (writer.generate tangled).2
    let again := first.askingAgain.generate tangled
    tangled.validate = .ok () ∧ tangled.DistinctNames ∧
      first.names.map (·.name) = ["ORDER_", "A_LONG", "A_LO_1", "ID", "K", "B", "ID", "K_1", "D",
        "ID", "D_PK", "B_1", "F"] ∧
      first.skipped.map (·.object) = [.table "c", .relationship "K"] ∧
      again.2.names = first.names.map (·.settled) ∧ again.2.statements = first.statements ∧
      again.2.skipped = first.skipped ∧
      ∀ warning ∈ again.2.warnings, warning.reason.isName = false := by
  intro writer first again
  have valid : tangled.validate = .ok () := by decide +kernel
  have distinct : tangled.DistinctNames := ⟨by decide, by decide, by decide, by decide⟩
  have sensible : terse.identifiers.Sensible :=
    ⟨by decide, .intro 'X' [] rfl (by simp), by decide⟩
  obtain ⟨-, names, statements, skipped, silent, -⟩ :=
    writer.generate_askingAgain valid distinct sensible
  exact ⟨valid, distinct, by decide +kernel, by decide +kernel, names, statements, skipped, silent⟩

end ScriptWriter

end SchemaForward
