import Mathlib.Data.List.Basic
import Mathlib.Data.List.Forall2
import SchemaForward.Proofs.Script.Naming

/-!
# Requests and their answers

Naming a model is a series of requests, and the taken names pass from each to the next. A table is
named exactly if its own request is answered, then those for its columns, the one for its key and
those for its indexes; so which identifier belongs to what can be read off a named table by
position, and a table with anything missing is no named table. A relationship makes its request only
if both its tables were named. Nothing else is asked for, and no table and no relationship is
passed over.
-/

namespace SchemaForward

/-- Lists that agree item by item in some respect agree in it. -/
theorem map_eq_map_of_forall₂ {α β γ : Type} {f : α → γ} {g : β → γ} {first : List α}
    {second : List β} (same : List.Forall₂ (fun item other => f item = g other) first second) :
    first.map f = second.map g := by
  have equal : List.Forall₂ (· = ·) (first.map f) (second.map g) :=
    List.forall₂_map_left_iff.mpr (List.forall₂_map_right_iff.mpr same)
  rwa [List.forall₂_eq_eq_eq] at equal

/-- If the lists of each item agree one by one, so do these lists put together. -/
theorem forall₂_flatMap {α β γ : Type} {related : β → γ → Prop} {items : List α}
    {first : α → List β} {second : α → List γ}
    (holds : ∀ item ∈ items, List.Forall₂ related (first item) (second item)) :
    List.Forall₂ related (items.flatMap first) (items.flatMap second) := by
  induction items with
  | nil => exact .nil
  | cons item rest inductionHypothesis =>
    obtain ⟨here, others⟩ := List.forall_mem_cons.mp holds
    exact List.rel_append here (inductionHypothesis others)

namespace Naming

variable {rules : IdentifierRules} {overrides : Overrides}

/-- The name that is asked for in the end. -/
def requestedName (overrides : Overrides) (request : NameRequest) : String :=
  (overrides.get? request.object).getD request.name

/-- A request succeeds exactly if its name can be given. What comes with the identifier is the
object, the namespace, the name that was asked for and the changes made to it. -/
theorem give_eq_ok_iff {used next : TakenNames} {request : NameRequest}
    {given : GivenIdentifier} :
    give rules overrides used request = .ok (given, next) ↔
      ∃ legal, rules.identifierFor request.scope used (requestedName overrides request) =
          .ok (legal, next) ∧
        given = ⟨request.object, request.scope, requestedName overrides request, legal.name,
          legal.changes⟩ := by
  unfold give requestedName
  dsimp only
  constructor
  · intro success
    split at success
    · cases success
    · rename_i legal last found
      obtain ⟨rfl, rfl⟩ := Prod.mk.inj (Except.ok.inj success)
      exact ⟨legal, found, rfl⟩
  · rintro ⟨legal, found, rfl⟩
    rw [found]

/-- No requests give no identifiers, and nothing is taken. -/
theorem giveAll_nil_eq_ok_iff {used last : TakenNames} {entries : List GivenIdentifier} :
    giveAll rules overrides used [] = (.ok entries, last) ↔ entries = [] ∧ used = last := by
  simp [giveAll, eq_comm]

/-- Requests succeed exactly if the first does and the others do after it. Later requests see what
the first has taken, which is why the stage between them is part of the statement. -/
theorem giveAll_cons_eq_ok_iff {used last : TakenNames} {request : NameRequest}
    {rest : List NameRequest} {entries : List GivenIdentifier} :
    giveAll rules overrides used (request :: rest) = (.ok entries, last) ↔
      ∃ given next others, give rules overrides used request = .ok (given, next) ∧
        giveAll rules overrides next rest = (.ok others, last) ∧ entries = given :: others := by
  rw [giveAll]
  constructor
  · intro success
    split at success
    · cases success
    · rename_i given next first
      split at success
      · cases success
      · rename_i others end_ remaining
        obtain ⟨same, rfl⟩ := Prod.mk.inj success
        exact ⟨given, next, others, first, remaining, (Except.ok.inj same).symm⟩
  · rintro ⟨given, next, others, first, remaining, rfl⟩
    rw [first]
    dsimp only
    rw [remaining]

/-- A table is named if all its requests are answered, one after the other. The identifier of the
table is part of what is asked for afterwards. Each stage of what is taken is named, so that the
parts can be taken up one by one. -/
theorem nameTable_eq_ok_iff {used last : TakenNames} {table : Table} {named : NamedTable} :
    nameTable rules overrides used table = (.ok named, last) ↔
      ∃ afterTable afterColumns afterKey,
        give rules overrides used (tableRequest table) = .ok (named.table, afterTable) ∧
        giveAll rules overrides afterTable (columnRequests table named.table.name) =
          (.ok named.columns, afterColumns) ∧
        give rules overrides afterColumns (keyRequest rules table named.table.name) =
          .ok (named.key, afterKey) ∧
        giveAll rules overrides afterKey (indexRequests rules table) =
          (.ok named.indexes, last) := by
  rw [nameTable]
  constructor
  · intro success
    split at success
    · cases success
    · rename_i identifier afterTable ofTable
      rw [nameContents] at success
      split at success
      · cases success
      · rename_i columns afterColumns ofColumns
        split at success
        · cases success
        · rename_i key afterKey ofKey
          split at success
          · cases success
          · rename_i indexes end_ ofIndexes
            obtain ⟨same, rfl⟩ := Prod.mk.inj success
            obtain rfl := Except.ok.inj same
            exact ⟨afterTable, afterColumns, afterKey, ofTable, ofColumns, ofKey, ofIndexes⟩
  · rintro ⟨afterTable, afterColumns, afterKey, ofTable, ofColumns, ofKey, ofIndexes⟩
    rw [ofTable]
    dsimp only
    rw [nameContents, ofColumns]
    dsimp only
    rw [ofKey]
    dsimp only
    rw [ofIndexes]

/-- The identifier was given to the request, whatever was taken at that time. -/
def GivenFor (rules : IdentifierRules) (overrides : Overrides) (request : NameRequest)
    (given : GivenIdentifier) : Prop :=
  ∃ used next, give rules overrides used request = .ok (given, next)

/-- An identifier that was given to a request answers it, whenever that was. -/
theorem answers_of_givenFor {request : NameRequest} {given : GivenIdentifier}
    (isGiven : GivenFor rules overrides request given) : Answers rules request given := by
  obtain ⟨used, next, success⟩ := isGiven
  exact (of_give success).2

/-- Requests that succeed are given one identifier each, in order. -/
theorem forall₂_of_giveAll {used last : TakenNames} {requests : List NameRequest}
    {entries : List GivenIdentifier}
    (success : giveAll rules overrides used requests = (.ok entries, last)) :
    List.Forall₂ (GivenFor rules overrides) requests entries := by
  induction requests generalizing used entries with
  | nil =>
    obtain ⟨rfl, -⟩ := giveAll_nil_eq_ok_iff.mp success
    exact .nil
  | cons request rest inductionHypothesis =>
    obtain ⟨given, next, others, first, remaining, rfl⟩ := giveAll_cons_eq_ok_iff.mp success
    exact .cons ⟨used, next, first⟩ (inductionHypothesis remaining)

/-- The identifiers of a table answer its requests, part by part. -/
structure TableAnswers (answers : NameRequest → GivenIdentifier → Prop) (rules : IdentifierRules)
    (table : Table) (named : NamedTable) : Prop where
  itself : answers (tableRequest table) named.table
  columns : List.Forall₂ answers (columnRequests table named.table.name) named.columns
  key : answers (keyRequest rules table named.table.name) named.key
  indexes : List.Forall₂ answers (indexRequests rules table) named.indexes

/-- Identifiers that answer the requests of a table in one sense do so in every weaker sense. -/
theorem TableAnswers.imp {answers others : NameRequest → GivenIdentifier → Prop} {table : Table}
    {named : NamedTable} (weaker : ∀ request given, answers request given → others request given)
    (answered : TableAnswers answers rules table named) :
    TableAnswers others rules table named where
  itself := weaker _ _ answered.itself
  columns := answered.columns.imp fun _ _ => weaker _ _
  key := weaker _ _ answered.key
  indexes := answered.indexes.imp fun _ _ => weaker _ _

/-- The identifiers of a table answer its requests one by one. The table itself comes first, since
the names of its key and columns may be made from its identifier. -/
theorem TableAnswers.entries {answers : NameRequest → GivenIdentifier → Prop} {table : Table}
    {named : NamedTable} (answered : TableAnswers answers rules table named) :
    List.Forall₂ answers (requestsFor rules table named.table.name) named.entries :=
  .cons answered.itself (List.rel_append answered.columns (.cons answered.key answered.indexes))

/-- The identifiers of a table that could be named were given to its requests. -/
theorem tableAnswers_of_nameTable {used last : TakenNames} {table : Table} {named : NamedTable}
    (success : nameTable rules overrides used table = (.ok named, last)) :
    TableAnswers (GivenFor rules overrides) rules table named := by
  obtain ⟨_, _, _, ofTable, ofColumns, ofKey, ofIndexes⟩ := nameTable_eq_ok_iff.mp success
  exact ⟨⟨_, _, ofTable⟩, forall₂_of_giveAll ofColumns, ⟨_, _, ofKey⟩,
    forall₂_of_giveAll ofIndexes⟩

/-- What became of each table, in order. Which identifiers a table gets depends on what the tables
before it have left taken; that they answer its own requests does not. -/
theorem forall₂_nameTables (used : TakenNames) (tables : List Table) :
    List.Forall₂ (fun table entry => entry.1 = table ∧ ∀ named, entry.2 = .ok named →
        TableAnswers (GivenFor rules overrides) rules table named)
      tables (nameTables rules overrides used tables).1 := by
  induction tables generalizing used with
  | nil => exact .nil
  | cons table rest inductionHypothesis =>
    rw [nameTables]
    -- The next table starts from whatever this one left taken, even if it was skipped.
    refine .cons ⟨rfl, fun named isNamed => ?_⟩ (inductionHypothesis _)
    exact tableAnswers_of_nameTable (Prod.ext isNamed rfl)

/-- What can become of a relationship, once the tables are named. -/
inductive RelationshipOutcome (rules : IdentifierRules) (overrides : Overrides)
    (tables : List (Table × Except NamingFailure NamedTable)) (relationship : Relationship) :
    RelationshipName → Prop
  | assigned (name : GivenIdentifier) (reachable : isReachable tables relationship = true)
      (given : GivenFor rules overrides (relationshipRequest relationship) name) :
      RelationshipOutcome rules overrides tables relationship (.assigned name)
  | failed (failure : NamingFailure) (reachable : isReachable tables relationship = true) :
      RelationshipOutcome rules overrides tables relationship (.failed failure)
  | unreachable (unreachable : isReachable tables relationship = false) :
      RelationshipOutcome rules overrides tables relationship .unreachable

/-- What became of each relationship, in order. A relationship that is named or fails has both of
its tables; which of the two it comes to depends on what is taken at its turn. -/
theorem forall₂_nameRelationships (tables : List (Table × Except NamingFailure NamedTable))
    (used : TakenNames) (relationships : List Relationship) :
    List.Forall₂ (fun relationship entry => entry.1 = relationship ∧
        RelationshipOutcome rules overrides tables relationship entry.2)
      relationships (nameRelationships rules overrides tables used relationships) := by
  induction relationships generalizing used with
  | nil => exact .nil
  | cons relationship rest inductionHypothesis =>
    rw [nameRelationships]
    split
    · rename_i reachable
      split
      · exact .cons ⟨rfl, .failed _ reachable⟩ (inductionHypothesis used)
      · rename_i name next given
        exact .cons ⟨rfl, .assigned name reachable ⟨used, next, given⟩⟩ (inductionHypothesis next)
    · rename_i unreachable
      exact .cons ⟨rfl, .unreachable (Bool.not_eq_true _ ▸ unreachable)⟩
        (inductionHypothesis used)

/-- The generated tables are those that were named. Those that were skipped are left out. -/
theorem mem_generated {naming : Naming} {table : Table} {named : NamedTable} :
    (table, named) ∈ naming.generated ↔ (table, .ok named) ∈ naming.tables := by
  rw [generated, List.mem_filterMap]
  constructor
  · rintro ⟨⟨_, outcome⟩, inTables, isNamed⟩
    cases outcome with
    | error failure => cases isNamed
    | ok found =>
      obtain ⟨rfl, rfl⟩ := Prod.mk.inj (Option.some.inj isNamed)
      exact inTables
  · exact fun inTables => ⟨_, inTables, rfl⟩

/-- The named relationships are those that got an identifier. Those that failed or were not reached
are left out. -/
theorem mem_related {naming : Naming} {relationship : Relationship} {name : GivenIdentifier} :
    (relationship, name) ∈ naming.related ↔
      (relationship, .assigned name) ∈ naming.relationships := by
  rw [related, List.mem_filterMap]
  constructor
  · rintro ⟨⟨_, outcome⟩, inRelationships, isNamed⟩
    cases outcome with
    | failed failure => cases isNamed
    | unreachable => cases isNamed
    | assigned found =>
      obtain ⟨rfl, rfl⟩ := Prod.mk.inj (Option.some.inj isNamed)
      exact inRelationships
  · exact fun inRelationships => ⟨_, inRelationships, rfl⟩

section OfModel

variable (rules overrides) (model : Model)

/-- The names of a model are for its tables, in order. -/
theorem map_fst_tables_ofModel :
    (ofModel rules overrides model).tables.map Prod.fst = model.tables := by
  have same : model.tables.map id = (ofModel rules overrides model).tables.map Prod.fst :=
    map_eq_map_of_forall₂
      ((forall₂_nameTables .empty model.tables).imp fun _ _ named => named.1.symm)
  rw [← same, List.map_id]

/-- The names of a model are for its relationships, in order. -/
theorem map_fst_relationships_ofModel :
    (ofModel rules overrides model).relationships.map Prod.fst = model.relationships := by
  have same : model.relationships.map id =
      (ofModel rules overrides model).relationships.map Prod.fst :=
    map_eq_map_of_forall₂
      ((forall₂_nameRelationships _ _ model.relationships).imp fun _ _ named => named.1.symm)
  rw [← same, List.map_id]

variable {rules overrides model}

/-- The identifiers of each generated table of a model were given to the requests of that table. -/
theorem tableAnswers_of_generated {entry : Table × NamedTable}
    (generated : entry ∈ (ofModel rules overrides model).generated) :
    TableAnswers (GivenFor rules overrides) rules entry.1 entry.2 := by
  obtain ⟨_, -, isTable, answered⟩ := exists_of_forall₂_of_mem_right
    (forall₂_nameTables .empty model.tables) (mem_generated.mp generated)
  rw [isTable]
  exact answered entry.2 rfl

/-- The identifier of each named relationship of a model was given to its request. -/
theorem givenFor_of_related {entry : Relationship × GivenIdentifier}
    (related : entry ∈ (ofModel rules overrides model).related) :
    GivenFor rules overrides (relationshipRequest entry.1) entry.2 := by
  obtain ⟨_, -, isRelationship, decided⟩ := exists_of_forall₂_of_mem_right
    (forall₂_nameRelationships _ _ model.relationships) (mem_related.mp related)
  rw [isRelationship]
  cases decided with
  | assigned _ _ given => exact given

/-- The requests that were answered, in order: those for the tables that were named and for all that
belongs to them, and those for the relationships that were named. -/
def requests (rules : IdentifierRules) (naming : Naming) : List NameRequest :=
  naming.generated.flatMap (fun entry => requestsFor rules entry.1 entry.2.table.name) ++
    naming.related.map fun entry => relationshipRequest entry.1

/-- Every identifier of a model is the answer to one request, and all are in order. -/
theorem forall₂_requests (rules : IdentifierRules) (overrides : Overrides) (model : Model) :
    let naming := ofModel rules overrides model
    List.Forall₂ (GivenFor rules overrides) (naming.requests rules) naming.entries := by
  intro naming
  refine List.rel_append (forall₂_flatMap fun entry generated => ?_) ?_
  · exact (tableAnswers_of_generated generated).entries
  · rw [List.forall₂_map_left_iff, List.forall₂_map_right_iff]
    exact List.forall₂_same.mpr fun entry related => givenFor_of_related related

end OfModel

end Naming

end SchemaForward
