import SchemaForward.Dialect.Known
import SchemaForward.Proofs.Identifier.Legal
import SchemaForward.Script.Writer

/-!
# Names of a model

Naming a model passes the taken names from one object to the next. What is given was not taken
before, is taken afterwards, and nothing that is taken is ever released, not even by a table that
has to be skipped in the middle. So the identifiers that remain differ from each other, whatever
the rules are, whatever names are asked for, and whatever was skipped. Whether they are legal is
another question, and one of the rules alone.
-/

namespace SchemaForward

/-- Each item of the second list has its counterpart in the first. It stands at the same place.
Nothing is said about items of the first list that have none. -/
theorem exists_of_forall₂_of_mem_right {α β : Type} {related : α → β → Prop} {first : List α}
    {second : List β} (holds : List.Forall₂ related first second) {item : β}
    (member : item ∈ second) : ∃ counterpart ∈ first, related counterpart item := by
  induction holds with
  | nil => cases member
  | cons here _ inductionHypothesis =>
    rcases List.mem_cons.mp member with rfl | inRest
    · exact ⟨_, List.mem_cons_self, here⟩
    · obtain ⟨counterpart, inFirst, isRelated⟩ := inductionHypothesis inRest
      exact ⟨counterpart, List.mem_cons_of_mem _ inFirst, isRelated⟩

namespace Naming

variable {rules : IdentifierRules} {overrides : Overrides}

/-- What an identifier has to be unique by. -/
def place (rules : IdentifierRules) (given : GivenIdentifier) : Namespace × String :=
  (given.scope, rules.key given.name)

/-- Identifiers are given between two stages of the taken names. -/
structure Gives (rules : IdentifierRules) (used : TakenNames) (entries : List GivenIdentifier)
    (next : TakenNames) : Prop where
  kept : ∀ scope key, used.contains scope key = true → next.contains scope key = true
  fresh : ∀ given ∈ entries, used.contains given.scope (rules.key given.name) = false
  taken : ∀ given ∈ entries, next.contains given.scope (rules.key given.name) = true
  distinct : (entries.map (place rules)).Nodup

/-- The identifier is for the object of a request, in its namespace, and legal if it can be. -/
structure Answers (rules : IdentifierRules) (request : NameRequest) (given : GivenIdentifier) :
    Prop where
  object : given.object = request.object
  scope : given.scope = request.scope
  legal : rules.Sensible → rules.isLegal given.name = true

namespace Gives

variable {used between next : TakenNames} {first second entries : List GivenIdentifier}

/-- Giving no identifiers takes nothing. -/
theorem nil (used : TakenNames) : Gives rules used [] used :=
  ⟨fun _ _ taken => taken, by simp, by simp, List.nodup_nil⟩

/-- Identifiers that are discarded stay taken. -/
theorem discard (gives : Gives rules used entries next) : Gives rules used [] next :=
  ⟨gives.kept, by simp, by simp, List.nodup_nil⟩

/-- What is given later differs from what was taken earlier. The first part is still taken when the
second is given, and nothing is given that is taken. -/
theorem append (earlier : Gives rules used first between)
    (later : Gives rules between second next) : Gives rules used (first ++ second) next where
  kept scope key taken := later.kept scope key (earlier.kept scope key taken)
  fresh given member := by
    rcases List.mem_append.mp member with inFirst | inSecond
    · exact earlier.fresh given inFirst
    · refine Bool.eq_false_iff.mpr fun taken => ?_
      have stillTaken := earlier.kept _ _ taken
      rw [later.fresh given inSecond] at stillTaken
      cases stillTaken
  taken given member := by
    rcases List.mem_append.mp member with inFirst | inSecond
    · exact later.kept _ _ (earlier.taken given inFirst)
    · exact later.taken given inSecond
  distinct := by
    rw [List.map_append, List.nodup_append]
    refine ⟨earlier.distinct, later.distinct, ?_⟩
    rintro _ inFirst _ inSecond same
    obtain ⟨given, isFirst, rfl⟩ := List.mem_map.mp inFirst
    obtain ⟨other, isSecond, rfl⟩ := List.mem_map.mp inSecond
    obtain ⟨sameScope, sameKey⟩ := Prod.mk.inj same
    have free := later.fresh other isSecond
    rw [← sameScope, ← sameKey, earlier.taken given isFirst] at free
    cases free

end Gives

/-- An identifier that is given answers its request and was free before. Afterwards it is taken, and
so is all that was taken before. Whether it is legal depends on the rules, and not on what was
taken. -/
theorem of_give {used next : TakenNames} {request : NameRequest} {given : GivenIdentifier}
    (success : give rules overrides used request = .ok (given, next)) :
    Gives rules used [given] next ∧ Answers rules request given := by
  rw [give] at success
  split at success
  · cases success
  · rename_i legal last found
    obtain ⟨rfl, rfl⟩ := Prod.mk.inj (Except.ok.inj success)
    obtain ⟨available, rfl, -⟩ := IdentifierRules.of_identifierFor found
    refine ⟨⟨?_, ?_, ?_, List.nodup_singleton _⟩,
      ⟨rfl, rfl, fun sensible => sensible.isLegal_of_identifierFor found⟩⟩
    · intro scope key taken
      rw [TakenNames.contains_insert, taken, Bool.true_or]
    · intro given member
      rw [List.mem_singleton.mp member]
      exact (Bool.or_eq_false_iff.mp available).1
    · intro given member
      rw [List.mem_singleton.mp member, TakenNames.contains_insert]
      simp

variable (rules overrides)

/-- Identifiers for requests answer them one by one. After a failure there are none. What was given
before the failure is then no longer spoken of, but it stays taken, which is all that is said about
it. -/
theorem giveAll_gives (used : TakenNames) (requests : List NameRequest) :
    match giveAll rules overrides used requests with
    | (.ok entries, next) =>
      Gives rules used entries next ∧ List.Forall₂ (Answers rules) requests entries
    | (.error _, next) => Gives rules used [] next := by
  induction requests generalizing used with
  | nil => exact ⟨Gives.nil used, List.Forall₂.nil⟩
  | cons request rest inductionHypothesis =>
    rw [giveAll]
    cases success : give rules overrides used request with
    | error failure => exact Gives.nil used
    | ok result =>
      obtain ⟨given, between⟩ := result
      obtain ⟨gives, answers⟩ := of_give success
      have others := inductionHypothesis between
      dsimp only
      rcases remaining : giveAll rules overrides between rest with ⟨outcome, next⟩
      rw [remaining] at others
      cases outcome with
      | error failure => exact (gives.append others).discard
      | ok entries => exact ⟨gives.append others.1, List.Forall₂.cons answers others.2⟩

/-- The requests for all that belongs to a table of a given identifier. -/
def contentRequests (rules : IdentifierRules) (table : Table) (identifier : String) :
    List NameRequest :=
  columnRequests table identifier ++ keyRequest rules table identifier :: indexRequests rules table

/-- The requests for a table of a given identifier and all that belongs to it. -/
def requestsFor (rules : IdentifierRules) (table : Table) (identifier : String) :
    List NameRequest :=
  tableRequest table :: contentRequests rules table identifier

/-- The identifiers that come out of a table: none if it is skipped. -/
def outcomeEntries : Except NamingFailure NamedTable → List GivenIdentifier
  | .ok named => named.entries
  | .error _ => []

/-- The contents of a table are named after its identifier, which they leave as it is. Columns, key
and indexes are requests of one list, made in three parts. A failure in any of them leaves nothing
given. -/
theorem nameContents_gives (used : TakenNames) (table : Table) (identifier : GivenIdentifier) :
    match nameContents rules overrides used table identifier with
    | (.ok named, next) =>
      named.table = identifier ∧
        Gives rules used (named.columns ++ named.key :: named.indexes) next ∧
        List.Forall₂ (Answers rules) (contentRequests rules table identifier.name)
          (named.columns ++ named.key :: named.indexes)
    | (.error _, next) => Gives rules used [] next := by
  have columnsGiven := giveAll_gives rules overrides used (columnRequests table identifier.name)
  rw [nameContents]
  rcases columnsNamed : giveAll rules overrides used (columnRequests table identifier.name) with
    ⟨outcome, between⟩
  rw [columnsNamed] at columnsGiven
  cases outcome with
  | error failure => exact columnsGiven
  | ok columns =>
    obtain ⟨givesColumns, columnsAnswer⟩ := columnsGiven
    dsimp only
    cases success : give rules overrides between (keyRequest rules table identifier.name) with
    | error failure => exact givesColumns.discard
    | ok result =>
      obtain ⟨key, afterKey⟩ := result
      obtain ⟨givesKey, keyAnswers⟩ := of_give success
      have indexesGiven := giveAll_gives rules overrides afterKey (indexRequests rules table)
      dsimp only
      rcases indexesNamed : giveAll rules overrides afterKey (indexRequests rules table) with
        ⟨others, next⟩
      rw [indexesNamed] at indexesGiven
      cases others with
      | error failure => exact ((givesColumns.append givesKey).append indexesGiven).discard
      | ok indexes =>
        obtain ⟨givesIndexes, indexesAnswer⟩ := indexesGiven
        refine ⟨rfl, givesColumns.append (givesKey.append givesIndexes), ?_⟩
        exact List.rel_append columnsAnswer (List.Forall₂.cons keyAnswers indexesAnswer)

/-- A table that is named has identifiers for itself and all that belongs to it. Or it has none at
all, with some keys taken that no identifier stands for. -/
theorem nameTable_gives (used : TakenNames) (table : Table) :
    let result := nameTable rules overrides used table
    Gives rules used (outcomeEntries result.1) result.2 ∧
      ∀ named, result.1 = .ok named →
        List.Forall₂ (Answers rules) (requestsFor rules table named.table.name) named.entries := by
  intro result
  rw [show result = nameTable rules overrides used table from rfl, nameTable]
  cases success : give rules overrides used (tableRequest table) with
  | error failure => exact ⟨Gives.nil used, fun named isNamed => by cases isNamed⟩
  | ok pair =>
    obtain ⟨identifier, between⟩ := pair
    obtain ⟨givesTable, tableAnswers⟩ := of_give success
    have contents := nameContents_gives rules overrides between table identifier
    dsimp only
    rcases contentsNamed : nameContents rules overrides between table identifier with
      ⟨outcome, next⟩
    rw [contentsNamed] at contents
    cases outcome with
    | error failure =>
      exact ⟨(givesTable.append contents).discard, fun named isNamed => by cases isNamed⟩
    | ok named =>
      obtain ⟨rfl, givesContents, contentsAnswer⟩ := contents
      refine ⟨givesTable.append givesContents, ?_⟩
      rintro _ ⟨⟩
      exact List.Forall₂.cons tableAnswers contentsAnswer

/-- Tables are named one after the other, and skipping one does not disturb the next. A table that
is skipped gives no identifier; what it leaves taken only makes the names behind it differ from
more. -/
theorem nameTables_gives (used : TakenNames) (tables : List Table) :
    let result := nameTables rules overrides used tables
    Gives rules used (result.1.flatMap fun entry => outcomeEntries entry.2) result.2 ∧
      ∀ entry ∈ result.1, ∀ named, entry.2 = .ok named →
        List.Forall₂ (Answers rules) (requestsFor rules entry.1 named.table.name)
          named.entries := by
  induction tables generalizing used with
  | nil => exact ⟨Gives.nil used, by simp [nameTables]⟩
  | cons table rest inductionHypothesis =>
    obtain ⟨gives, answers⟩ := nameTable_gives rules overrides used table
    obtain ⟨givesRest, answersRest⟩ :=
      inductionHypothesis (nameTable rules overrides used table).2
    refine ⟨gives.append givesRest, ?_⟩
    intro entry member
    rcases List.mem_cons.mp member with rfl | inRest
    · exact answers
    · exact answersRest entry inRest

/-- The identifier of a relationship that was named. -/
def assigned? : RelationshipName → Option GivenIdentifier
  | .assigned name => some name
  | _ => none

/-- A relationship that is left out, or that cannot be named, takes nothing. Those that can be named
take one key each. Either way each comes to something, in order. -/
theorem nameRelationships_gives (tables : List (Table × Except NamingFailure NamedTable))
    (used : TakenNames) (relationships : List Relationship) :
    let outcomes := nameRelationships rules overrides tables used relationships
    (∃ next, Gives rules used (outcomes.filterMap fun entry => assigned? entry.2) next) ∧
      ∀ entry ∈ outcomes, ∀ given, assigned? entry.2 = some given →
        Answers rules (relationshipRequest entry.1) given := by
  induction relationships generalizing used with
  | nil => exact ⟨⟨used, Gives.nil used⟩, by simp [nameRelationships]⟩
  | cons relationship rest inductionHypothesis =>
    rw [nameRelationships]
    split
    · cases success : give rules overrides used (relationshipRequest relationship) with
      | error failure =>
        obtain ⟨others, answers⟩ := inductionHypothesis used
        exact ⟨others, List.forall_mem_cons.mpr ⟨by simp [assigned?], answers⟩⟩
      | ok pair =>
        obtain ⟨given, between⟩ := pair
        obtain ⟨givesHere, answersHere⟩ := of_give success
        obtain ⟨⟨next, givesRest⟩, answers⟩ := inductionHypothesis between
        refine ⟨⟨next, givesHere.append givesRest⟩, List.forall_mem_cons.mpr ⟨?_, answers⟩⟩
        rintro _ ⟨⟩
        exact answersHere
    · obtain ⟨others, answers⟩ := inductionHypothesis used
      exact ⟨others, List.forall_mem_cons.mpr ⟨by simp [assigned?], answers⟩⟩

/-- What comes out of the named tables comes out of all tables, those that were skipped giving
nothing. -/
theorem flatMap_generated {β : Type} (naming : Naming) (out : Table × NamedTable → List β) :
    naming.generated.flatMap out = naming.tables.flatMap fun entry =>
      match entry.2 with
      | .ok named => out (entry.1, named)
      | .error _ => [] := by
  rw [generated, List.filterMap_eq_flatMap_toList, List.flatMap_assoc]
  congr 1
  funext entry
  cases entry.2 <;> simp

/-- What comes out of the relationships with an identifier comes out of all relationships, the
others giving nothing. -/
theorem flatMap_related {β : Type} (naming : Naming)
    (out : Relationship × GivenIdentifier → List β) :
    naming.related.flatMap out = naming.relationships.flatMap fun entry =>
      match entry.2 with
      | .assigned name => out (entry.1, name)
      | _ => [] := by
  rw [related, List.filterMap_eq_flatMap_toList, List.flatMap_assoc]
  congr 1
  funext entry
  cases entry.2 <;> simp

/-- The identifiers of a model are those that come out of its tables and then those of its
relationships. -/
theorem entries_eq (naming : Naming) :
    naming.entries = (naming.tables.flatMap fun entry => outcomeEntries entry.2) ++
      naming.relationships.filterMap fun entry => assigned? entry.2 := by
  rw [entries, flatMap_generated, List.map_eq_flatMap, flatMap_related,
    List.filterMap_eq_flatMap_toList]
  congr 2
  funext entry
  cases entry.2 <;> rfl

/-- The identifiers of a model are all different within their namespaces. -/
theorem nodup_place_ofModel (model : Model) :
    ((ofModel rules overrides model).entries.map (place rules)).Nodup := by
  obtain ⟨givesTables, -⟩ := nameTables_gives rules overrides TakenNames.empty model.tables
  obtain ⟨⟨next, givesRelationships⟩, -⟩ := nameRelationships_gives rules overrides
    (nameTables rules overrides .empty model.tables).1
    (nameTables rules overrides .empty model.tables).2 model.relationships
  rw [entries_eq]
  exact (givesTables.append givesRelationships).distinct

/-- An identifier is in its place: tables, constraints and indexes each have their namespace, or
indexes that of tables if the rules say so, and a column is in the namespace of its table's
identifier. -/
def InPlace (rules : IdentifierRules) (entries : List GivenIdentifier) (given : GivenIdentifier) :
    Prop :=
  match given.object with
  | .table _ => given.scope = .table
  | .column owner _ =>
    ∃ table ∈ entries, table.object = .table owner ∧ given.scope = .column table.name
  | .primaryKey _ => given.scope = .constraint
  | .index _ _ => given.scope = indexScope rules
  | .relationship _ => given.scope = .constraint

/-- What answers the requests for a table is in place as soon as the table's identifier is. Its
columns are named in the namespace of that identifier, and everything else in one that does not
depend on it. -/
theorem inPlace_of_answers {entries : List GivenIdentifier} {table : Table}
    {identifier given : GivenIdentifier} (member : identifier ∈ entries)
    (isTable : identifier.object = .table table.name) {request : NameRequest}
    (requested : request ∈ requestsFor rules table identifier.name)
    (answers : Answers rules request given) : InPlace rules entries given := by
  rw [InPlace, answers.object]
  simp only [requestsFor, contentRequests, columnRequests, indexRequests, List.mem_cons,
    List.mem_append, List.mem_map] at requested
  rcases requested with rfl | ⟨column, -, rfl⟩ | rfl | ⟨index, -, rfl⟩
  · exact answers.scope
  · exact ⟨identifier, member, isTable, answers.scope⟩
  · exact answers.scope
  · exact answers.scope

/-- Every identifier of a model answers some request and is in its place. For what belongs to a
table that place depends on the identifier of the table, which is among those of the model as well.
-/
theorem answers_and_inPlace (model : Model) :
    let entries := (ofModel rules overrides model).entries
    ∀ given ∈ entries, (∃ request, Answers rules request given) ∧ InPlace rules entries given := by
  intro entries given member
  obtain ⟨-, tablesAnswered⟩ := nameTables_gives rules overrides TakenNames.empty model.tables
  obtain ⟨-, relationshipsAnswered⟩ := nameRelationships_gives rules overrides
    (nameTables rules overrides .empty model.tables).1
    (nameTables rules overrides .empty model.tables).2 model.relationships
  have parts : entries = _ ++ _ := entries_eq (ofModel rules overrides model)
  rw [parts] at member
  rcases List.mem_append.mp member with ofTable | ofRelationship
  · obtain ⟨entry, inTables, inEntry⟩ := List.mem_flatMap.mp ofTable
    cases outcome : entry.2 with
    | error failure => simp [outcome, outcomeEntries] at inEntry
    | ok named =>
      rw [outcome] at inEntry
      have answered := tablesAnswered entry inTables named outcome
      obtain ⟨request, requested, answers⟩ := exists_of_forall₂_of_mem_right answered inEntry
      have isTable : named.table.object = .table entry.1.name := by
        cases answered with
        | cons tableAnswers _ => exact tableAnswers.object
      have isEntry : named.table ∈ entries := by
        rw [parts]
        refine List.mem_append_left _ (List.mem_flatMap.mpr ⟨entry, inTables, ?_⟩)
        rw [outcome]
        exact List.mem_cons_self
      exact ⟨⟨request, answers⟩, inPlace_of_answers rules isEntry isTable requested answers⟩
  · obtain ⟨entry, inRelationships, isGiven⟩ := List.mem_filterMap.mp ofRelationship
    have answers := relationshipsAnswered entry inRelationships given isGiven
    refine ⟨⟨_, answers⟩, ?_⟩
    rw [InPlace, answers.object]
    exact answers.scope

end Naming

namespace Dialect

/-- The rules of the known dialects are sensible. Each of them allows the underscore, puts a letter
in front and leaves room for at least one character, as is checked for one after the other. -/
theorem sensible_of_named {spelling : String} {dialect : Dialect}
    (isNamed : named? spelling = some dialect) : dialect.identifiers.Sensible := by
  obtain ⟨before, after, listed, -⟩ := List.lookup_eq_some_iff.mp isNamed
  have member : (Text.lower spelling, dialect) ∈
      known.map (fun dialect => (dialect.name, dialect)) ++ otherNames := by
    rw [listed]
    simp
  have checked : ∀ entry ∈ known.map (fun dialect => (dialect.name, dialect)) ++ otherNames,
      entry.2.identifiers.isAllowed '_' = true ∧ entry.2.identifiers.leading.toList = ['X'] ∧
        entry.2.identifiers.maxLength ≠ some 0 := by
    decide
  obtain ⟨underscore, leading, nonzero⟩ := checked _ member
  refine ⟨underscore, ?_, nonzero⟩
  rw [leading]
  exact IdentifierRules.WellFormed.intro 'X' [] rfl (by simp)

end Dialect

namespace ScriptWriter

/-- A run leaves the identifiers of a valid model, and none of any other. -/
theorem names_generate (writer : ScriptWriter) (model : Model) :
    (writer.generate model).2.names = [] ∨
      (writer.generate model).2.names =
        (Naming.ofModel writer.dialect.identifiers writer.overrides model).entries := by
  rw [generate]
  cases model.validate with
  | error fault => exact Or.inl rfl
  | ok valid => exact Or.inr rfl

/-- After a run, whatever the writer's rules and overrides, the names it keeps differ within each
namespace by what the rules tell names apart by, and each is in its own namespace. If the rules are
sensible every name is legal, and those of the known dialects are. -/
theorem names_distinct_and_legal (writer : ScriptWriter) (model : Model) :
    let rules := writer.dialect.identifiers
    let names := (writer.generate model).2.names
    (names.Pairwise fun first second =>
        first.scope ≠ second.scope ∨ rules.key first.name ≠ rules.key second.name) ∧
      (∀ given ∈ names, Naming.InPlace rules names given) ∧
      (rules.Sensible → ∀ given ∈ names, rules.isLegal given.name = true) ∧
      ∀ spelling dialect, Dialect.named? spelling = some dialect →
        dialect.identifiers.Sensible := by
  intro rules names
  have known : ∀ spelling dialect, Dialect.named? spelling = some dialect →
      dialect.identifiers.Sensible := fun _ _ => Dialect.sensible_of_named
  rcases writer.names_generate model with none | entries
  · rw [show names = [] from none]
    exact ⟨List.Pairwise.nil, by simp, by simp, known⟩
  · have distinct := Naming.nodup_place_ofModel rules writer.overrides model
    have answered := Naming.answers_and_inPlace rules writer.overrides model
    rw [← show names = _ from entries] at distinct answered
    refine ⟨?_, ?_, ?_, known⟩
    · refine (List.pairwise_map.mp distinct).imp ?_
      intro first second differ
      by_cases sameScope : first.scope = second.scope
      · exact Or.inr fun sameKey => differ (Prod.ext sameScope sameKey)
      · exact Or.inl sameScope
    · intro given member
      exact (answered given member).2
    · intro sensible given member
      obtain ⟨request, answers⟩ := (answered given member).1
      exact answers.legal sensible

/-- Two tables whose names differ only in case, which is folded away, and are a reserved word. -/
def clashing : Model where
  tables := [{ name := "order", columns := [{ name := "a b", typeCode := .integer },
    { name := "a-b", typeCode := .integer }] }, { name := "Order" }]

/-- The clashing names are told apart and made legal. -/
theorem names_of_clashing :
    let names := ((new Dialect.Known.oracle).generate clashing).2.names
    names.map GivenIdentifier.name =
        ["ORDER_", "A_B", "A_B_1", "ORDER__PK", "ORDER__1", "ORDER__1_PK"] ∧
      ∀ given ∈ names, Dialect.Known.oracle.identifiers.isLegal given.name = true := by
  intro names
  have settled := (new Dialect.Known.oracle).names_distinct_and_legal clashing
  have sensible := settled.2.2.2 "oracle" Dialect.Known.oracle (by decide +kernel)
  exact ⟨by decide +kernel, settled.2.2.1 sensible⟩

end ScriptWriter

end SchemaForward
