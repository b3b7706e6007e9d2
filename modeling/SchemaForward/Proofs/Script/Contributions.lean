import SchemaForward.Proofs.Model.Validity
import SchemaForward.Proofs.Script.Contents
import SchemaForward.Proofs.Script.Naming
import SchemaForward.Proofs.Script.Requests

/-!
# What each object contributes

The results of a run are put together from contributions: one of each table, in the order of
declaration, and then one of each relationship. A table contributes itself, all its columns, its
indexes and its comments under the identifiers it was given, or nothing but the reason why it was
skipped. A relationship contributes its identifier, or the reason why it has none, or nothing at all
because no table of a name it refers to was created.

Columns, indexes and identifiers are brought together by position and looked up by name. Neither
loses anything: a table that was named has an identifier for each of its parts, and in a valid model
every column of an index is found.
-/

namespace SchemaForward

/-- What one table or relationship of a model contributes to the results of a run. -/
structure Contribution where
  definitions : List Definition := []
  names : List GivenIdentifier := []
  typeWarnings : List Warning := []
  skipped : List SkippedObject := []

namespace Contribution

/-- The warnings about the names. -/
def nameWarnings (part : Contribution) : List Warning :=
  part.names.flatMap GivenIdentifier.warnings

end Contribution

namespace NamedTable

/-- The identifier is that of the first column of a name in the model. -/
def IsColumn (table : Table) (named : NamedTable) (name identifier : String) : Prop :=
  ∃ before column given after,
    table.columns.zip named.columns = before ++ (column, given) :: after ∧
      column.name = name ∧ given.name = identifier ∧ ∀ other ∈ before, other.1.name ≠ name

/-- A table is defined under its identifier, with one definition for each column in order, under the
identifier of that column. -/
structure Describes (dialect : Dialect) (table : Table) (named : NamedTable)
    (definition : TableDefinition) : Prop where
  name : definition.name = named.table.name
  columns : List.Forall₂ (fun column written => written = column.definition dialect written.name)
    table.columns definition.columns
  columnNames : definition.columns.map (·.name) = named.columns.map (·.name)

/-- An index is defined on its table, with one identifier for each column that it names. -/
structure DescribesIndex (table : Table) (named : NamedTable) (index : Index)
    (definition : IndexDefinition) : Prop where
  owner : definition.table = named.table.name
  unique : definition.unique = index.unique
  columns : List.Forall₂ (named.IsColumn table) index.columns definition.columns

variable {table : Table} {named : NamedTable}

/-- A column is looked up by its name in the model, and the first one of that name is found. Other
columns of the name have identifiers too, which this search does not reach. -/
theorem column?_eq_some_iff {name identifier : String} :
    named.column? table name = some identifier ↔ named.IsColumn table name identifier := by
  rw [column?, Option.map_eq_some_iff, IsColumn]
  constructor
  · rintro ⟨⟨column, given⟩, found, rfl⟩
    obtain ⟨isNamed, before, after, parts, others⟩ := List.find?_eq_some_iff_append.mp found
    exact ⟨before, column, given, after, parts, eq_of_beq isNamed, rfl, fun other member same => by
      simpa [same] using others other member⟩
  · rintro ⟨before, column, given, after, parts, isNamed, rfl, others⟩
    refine ⟨(column, given), List.find?_eq_some_iff_append.mpr ⟨beq_iff_eq.mpr isNamed, before,
      after, parts, fun other member => ?_⟩, rfl⟩
    simpa using others other member

/-- If every column has an identifier, a column that the table has is found. It need not be its own
identifier that is found, but that of the first column of its name. -/
theorem exists_isColumn (complete : named.columns.length = table.columns.length) {name : String}
    (present : table.HasColumn name) : ∃ identifier, named.IsColumn table name identifier := by
  obtain ⟨column, inTable, isNamed⟩ := present
  -- The column may not be the first of its name, so only that one is found is shown here.
  have listed : column ∈ (table.columns.zip named.columns).map Prod.fst := by
    rwa [List.map_fst_zip complete.ge]
  obtain ⟨⟨_, given⟩, inZip, rfl⟩ := List.mem_map.mp listed
  have found : ((table.columns.zip named.columns).find? (·.1.name == name)).isSome := by
    rw [List.find?_isSome]
    exact ⟨_, inZip, beq_iff_eq.mpr isNamed⟩
  obtain ⟨entry, isEntry⟩ := Option.isSome_iff_exists.mp found
  refine ⟨entry.2.name, column?_eq_some_iff.mp ?_⟩
  rw [column?, isEntry]
  rfl

end NamedTable

namespace Naming

/-- What becomes of a table: it is created with all that belongs to it, or it is skipped. -/
inductive TableFate (dialect : Dialect) (table : Table) : Contribution → Prop
  | created (named : NamedTable)
      (answered : TableAnswers (Answers dialect.identifiers) dialect.identifiers table named)
      (definition : TableDefinition) (describes : named.Describes dialect table definition)
      (indexes : List IndexDefinition)
      (describesIndexes : List.Forall₂ (named.DescribesIndex table) table.indexes indexes)
      (indexNames : indexes.map (·.name) = named.indexes.map (·.name))
      (comments : List Definition)
      (remarks : ∀ comment ∈ comments, comment.IsCommentOn named.table.name) :
      TableFate dialect table
        { definitions := .table definition :: indexes.map .index ++ comments
          names := named.entries
          typeWarnings := NamedTable.typeWarnings dialect table }
  | skipped (failure : NamingFailure) :
      TableFate dialect table { skipped := [⟨.table table.name, failure⟩] }

/-- Some table of a name was created. -/
def IsCreated (tables : List (Table × Contribution)) (name : String) : Prop :=
  ∃ entry ∈ tables, entry.1.name = name ∧ entry.2.skipped = []

/-- What becomes of a relationship, once the tables are named. Whatever it is, its name is asked for
only if both its tables were created. -/
inductive RelationshipFate (dialect : Dialect) (tables : List (Table × Contribution))
    (relationship : Relationship) : Contribution → Prop
  | named (parent : IsCreated tables relationship.parent)
      (child : IsCreated tables relationship.child) (given : GivenIdentifier)
      (answered : Answers dialect.identifiers (relationshipRequest relationship) given)
      (key : ForeignKey) (name : key.name = given.name) :
      RelationshipFate dialect tables relationship
        { definitions := if dialect.templates.addsConstraints then [.foreignKey key] else []
          names := [given] }
  | failed (parent : IsCreated tables relationship.parent)
      (child : IsCreated tables relationship.child) (failure : NamingFailure) :
      RelationshipFate dialect tables relationship
        { skipped := [⟨.relationship relationship.name, failure⟩] }
  | unreachable (missing : ¬IsCreated tables relationship.parent ∨
        ¬IsCreated tables relationship.child) :
      RelationshipFate dialect tables relationship {}

/-- What a table contributes after its naming. -/
def tableContribution (dialect : Dialect) (naming : Naming)
    (entry : Table × Except NamingFailure NamedTable) : Contribution :=
  match entry.2 with
  | .ok named =>
    { definitions := named.definitions dialect naming entry.1
      names := named.entries
      typeWarnings := NamedTable.typeWarnings dialect entry.1 }
  | .error failure => { skipped := [⟨.table entry.1.name, failure⟩] }

/-- What a relationship contributes after its naming. -/
def relationshipContribution (dialect : Dialect) (naming : Naming)
    (entry : Relationship × RelationshipName) : Contribution :=
  match entry.2 with
  | .assigned name =>
    { definitions := if dialect.templates.addsConstraints then
        [.foreignKey (naming.foreignKey entry.1 name.name)] else []
      names := [name] }
  | .failed failure => { skipped := [⟨.relationship entry.1.name, failure⟩] }
  | .unreachable => {}

/-- The contributions of all tables and relationships, in order. -/
def contributions (dialect : Dialect) (naming : Naming) : List Contribution :=
  naming.tables.map (naming.tableContribution dialect) ++
    naming.relationships.map (naming.relationshipContribution dialect)

section Totals

variable (dialect : Dialect) (naming : Naming)

/-- What comes out of the contributions comes out of those of the tables first. -/
theorem flatMap_contributions {β : Type} (out : Contribution → List β) :
    (naming.contributions dialect).flatMap out =
      (naming.tables.flatMap fun entry => out (naming.tableContribution dialect entry)) ++
        naming.relationships.flatMap fun entry =>
          out (naming.relationshipContribution dialect entry) := by
  rw [contributions, List.flatMap_append, List.flatMap_map, List.flatMap_map]

/-- Behind the header, the definitions of a run are those that its tables and relationships
contribute, in their order. -/
theorem definitions_eq_contributions : naming.definitions dialect =
    .header :: (naming.contributions dialect).flatMap (·.definitions) := by
  have ofRelationships : (if dialect.templates.addsConstraints then
      naming.foreignKeys.map Definition.foreignKey else []) =
      naming.related.flatMap fun entry => if dialect.templates.addsConstraints then
        [.foreignKey (naming.foreignKey entry.1 entry.2.name)] else [] := by
    split
    · rw [foreignKeys, List.map_map, List.map_eq_flatMap]
      rfl
    · simp
  rw [definitions, ofRelationships, flatMap_generated, flatMap_related, flatMap_contributions,
    List.cons_append]
  congr 3
  · funext entry
    obtain ⟨table, outcome⟩ := entry
    cases outcome <;> rfl
  · funext entry
    obtain ⟨relationship, outcome⟩ := entry
    cases outcome <;> rfl

/-- The identifiers of a run are those that its tables and relationships contribute, in their order.
-/
theorem entries_eq_contributions : naming.entries =
    (naming.contributions dialect).flatMap (·.names) := by
  rw [entries, flatMap_generated, List.map_eq_flatMap, flatMap_related, flatMap_contributions]
  congr 2
  · funext entry
    obtain ⟨table, outcome⟩ := entry
    cases outcome <;> rfl
  · funext entry
    obtain ⟨relationship, outcome⟩ := entry
    cases outcome <;> rfl

/-- The warnings of a run are those that its tables and relationships contribute: first all about
names, and then all about types. So the order is not simply that of the contributions. -/
theorem warnings_eq_contributions : naming.warnings dialect =
    (naming.contributions dialect).flatMap (·.nameWarnings) ++
      (naming.contributions dialect).flatMap (·.typeWarnings) := by
  have ofRelationships : naming.relationships.flatMap
      (fun entry => (naming.relationshipContribution dialect entry).typeWarnings) = [] := by
    refine List.flatMap_eq_nil_iff.mpr fun entry _ => ?_
    obtain ⟨relationship, outcome⟩ := entry
    cases outcome <;> rfl
  rw [warnings, entries_eq_contributions dialect, List.flatMap_assoc]
  congr 1
  rw [flatMap_generated, flatMap_contributions, ofRelationships, List.append_nil]
  congr 1
  funext entry
  obtain ⟨table, outcome⟩ := entry
  cases outcome <;> rfl

/-- The skipped objects of a run are those that its tables and relationships contribute. A
relationship that was not reached contributes nothing at all. -/
theorem skipped_eq_contributions : naming.skipped =
    (naming.contributions dialect).flatMap (·.skipped) := by
  rw [skipped, List.filterMap_eq_flatMap_toList, List.filterMap_eq_flatMap_toList,
    flatMap_contributions]
  congr 2
  · funext entry
    obtain ⟨table, outcome⟩ := entry
    cases outcome <;> rfl
  · funext entry
    obtain ⟨relationship, outcome⟩ := entry
    cases outcome <;> rfl

end Totals

end Naming

/-- Two lists of one length are brought together without loss. -/
theorem forall₂_map_zip {α β γ : Type} {related : α → γ → Prop} {first : List α} {second : List β}
    {joined : α × β → γ} (sameLength : first.length = second.length)
    (holds : ∀ entry ∈ first.zip second, related entry.1 (joined entry)) :
    List.Forall₂ related first ((first.zip second).map joined) := by
  have parts : first = (first.zip second).map Prod.fst := (List.map_fst_zip sameLength.le).symm
  rw [parts, List.forall₂_map_left_iff, List.forall₂_map_right_iff, ← parts]
  exact List.forall₂_same.mpr holds

/-- Identifiers that go with items are found again in what is made of both. The items do not matter
for it, only that there are as many as identifiers. -/
theorem map_name_zip {α β : Type} {items : List α} {named : List GivenIdentifier}
    {joined : α × GivenIdentifier → β} {name : β → String}
    (sameLength : items.length = named.length)
    (keepsName : ∀ entry, name (joined entry) = entry.2.name) :
    ((items.zip named).map joined).map name = named.map (·.name) := by
  calc ((items.zip named).map joined).map name
      = ((items.zip named).map Prod.snd).map (·.name) := by
        rw [List.map_map, List.map_map]
        exact List.map_congr_left fun entry _ => keepsName entry
    _ = named.map (·.name) := by rw [List.map_snd_zip sameLength.ge]

/-- A lookup that always finds something loses nothing. The results then stand at the places of
their items, as they would not if some were left out. -/
theorem forall₂_filterMap {α β : Type} {found : α → Option β} {items : List α}
    (present : ∀ item ∈ items, ∃ result, found item = some result) :
    List.Forall₂ (fun item result => found item = some result) items (items.filterMap found) := by
  induction items with
  | nil => exact .nil
  | cons item rest inductionHypothesis =>
    obtain ⟨here, others⟩ := List.forall_mem_cons.mp present
    obtain ⟨result, isResult⟩ := here
    rw [List.filterMap_cons_some isResult]
    exact .cons isResult (inductionHypothesis others)

namespace NamedTable

variable {rules : IdentifierRules} {table : Table} {named : NamedTable}
  {answers : NameRequest → GivenIdentifier → Prop}

/-- Every column of a generated table has an identifier, one for each even where two have the same
name. -/
theorem length_columns (answered : Naming.TableAnswers answers rules table named) :
    table.columns.length = named.columns.length := by
  have sameLength := answered.columns.length_eq
  rwa [Naming.columnRequests, List.length_map] at sameLength

/-- Every index of a generated table has an identifier, one for each. -/
theorem length_indexes (answered : Naming.TableAnswers answers rules table named) :
    table.indexes.length = named.indexes.length := by
  have sameLength := answered.indexes.length_eq
  rwa [Naming.indexRequests, List.length_map] at sameLength

/-- The definition of a named table has all its columns. -/
theorem describes_tableDefinition (answered : Naming.TableAnswers answers rules table named)
    (dialect : Dialect) (naming : Naming) :
    named.Describes dialect table (named.tableDefinition dialect naming table) where
  name := rfl
  columns := forall₂_map_zip (length_columns answered) fun _ _ => rfl
  columnNames := map_name_zip (length_columns answered) fun _ => rfl

/-- The definitions of the indexes of a named table are complete, if it has the columns that they
name. -/
theorem describesIndexes_indexDefinitions
    (answered : Naming.TableAnswers answers rules table named)
    (present : ∀ index ∈ table.indexes, ∀ column ∈ index.columns, table.HasColumn column) :
    List.Forall₂ (named.DescribesIndex table) table.indexes (named.indexDefinitions table) := by
  refine forall₂_map_zip (length_indexes answered) fun entry inZip => ⟨rfl, rfl, ?_⟩
  have inTable : entry.1 ∈ table.indexes := (List.of_mem_zip inZip).1
  have found : ∀ column ∈ entry.1.columns, ∃ identifier,
      named.column? table column = some identifier := by
    intro column inIndex
    obtain ⟨identifier, isColumn⟩ := exists_isColumn (length_columns answered).symm
      (present entry.1 inTable column inIndex)
    exact ⟨identifier, column?_eq_some_iff.mpr isColumn⟩
  exact (forall₂_filterMap found).imp fun _ _ => column?_eq_some_iff.mp

/-- The indexes of a generated table are defined in their order, under the identifiers they were
given. -/
theorem map_name_indexDefinitions (answered : Naming.TableAnswers answers rules table named) :
    (named.indexDefinitions table).map (·.name) = named.indexes.map (·.name) :=
  map_name_zip (length_indexes answered) fun _ => rfl

end NamedTable

namespace Naming

variable {overrides : Overrides}

/-- A table that was named is created as a whole, and one that was not is skipped as a whole. As a
whole means with every column, its key, every index and its comments, and with no trace but the
reason. That the indexes name columns of the table is needed for their lists of columns. -/
theorem tableFate (dialect : Dialect) (naming : Naming) {table : Table}
    {outcome : Except NamingFailure NamedTable}
    (present : ∀ index ∈ table.indexes, ∀ column ∈ index.columns, table.HasColumn column)
    (answered : ∀ named, outcome = .ok named →
      TableAnswers (GivenFor dialect.identifiers overrides) dialect.identifiers table named) :
    TableFate dialect table (naming.tableContribution dialect (table, outcome)) := by
  cases outcome with
  | error failure => exact .skipped failure
  | ok named =>
    have answered := answered named rfl
    have remarks : ∀ comment ∈ (if dialect.templates.hasComments then named.comments table else []),
        comment.IsCommentOn named.table.name := by
      intro comment member
      split at member
      · exact NamedTable.isCommentOn_of_mem_comments member
      · simp at member
    exact .created named (answered.imp fun _ _ => answers_of_givenFor) _
      (NamedTable.describes_tableDefinition answered dialect naming) _
      (NamedTable.describesIndexes_indexDefinitions answered present)
      (NamedTable.map_name_indexDefinitions answered) _ remarks

/-- A table of a name was created exactly if one was named. A table that was skipped is passed over
by both, whether or not another one has its name. -/
theorem isCreated_iff (dialect : Dialect) (naming : Naming) (name : String) :
    IsCreated (naming.tables.map fun entry => (entry.1, naming.tableContribution dialect entry))
      name ↔ (naming.table? name).isSome = true := by
  rw [table?, findTable?, List.findSome?_isSome_iff]
  constructor
  · rintro ⟨_, member, isNamed, notSkipped⟩
    obtain ⟨⟨table, outcome⟩, inTables, rfl⟩ := List.mem_map.mp member
    refine ⟨_, inTables, ?_⟩
    cases outcome with
    | error failure => cases notSkipped
    | ok named => simpa using isNamed
  · rintro ⟨⟨table, outcome⟩, inTables, isFound⟩
    refine ⟨_, List.mem_map.mpr ⟨_, inTables, rfl⟩, ?_⟩
    cases outcome with
    | error failure => cases isFound
    | ok named => exact ⟨by simpa using isFound, rfl⟩

/-- A relationship without a name has a reason, or lacks a table. It contributes nothing in the
latter case, not even a skipped object: the table that is missing has been reported by itself. -/
theorem relationshipFate (dialect : Dialect) (naming : Naming) {relationship : Relationship}
    {outcome : RelationshipName}
    (decided : RelationshipOutcome dialect.identifiers overrides naming.tables relationship
      outcome) :
    RelationshipFate dialect
      (naming.tables.map fun entry => (entry.1, naming.tableContribution dialect entry))
      relationship (naming.relationshipContribution dialect (relationship, outcome)) := by
  have created := naming.isCreated_iff dialect
  cases decided with
  | assigned name reachable given =>
    obtain ⟨parent, child⟩ := (Bool.and_eq_true _ _).mp reachable
    exact .named ((created _).mpr parent) ((created _).mpr child) name (answers_of_givenFor given)
      _ rfl
  | failed failure reachable =>
    obtain ⟨parent, child⟩ := (Bool.and_eq_true _ _).mp reachable
    exact .failed ((created _).mpr parent) ((created _).mpr child) failure
  | unreachable unreachable =>
    refine .unreachable ?_
    rw [created, created]
    rcases Bool.and_eq_false_iff.mp unreachable with parent | child
    · exact Or.inl (Bool.eq_false_iff.mp parent)
    · exact Or.inr (Bool.eq_false_iff.mp child)

/-- In a valid model every table has the columns that its indexes name. -/
theorem hasColumn_of_valid {model : Model} (valid : model.validate = .ok ()) {table : Table}
    (inModel : table ∈ model.tables) :
    ∀ index ∈ table.indexes, ∀ column ∈ index.columns, table.HasColumn column := by
  intro index inTable column inIndex
  by_contra missing
  exact Model.validate_eq_ok_iff.mp valid
    (.indexColumn table inModel index inTable column inIndex missing)

/-- What became of the tables and relationships of a valid model. Each has its own place in the two
lists, so several of one name may come to different ends. -/
theorem fates_ofModel (dialect : Dialect) (overrides : Overrides) {model : Model}
    (valid : model.validate = .ok ()) :
    let naming := ofModel dialect.identifiers overrides model
    let tables := naming.tables.map (naming.tableContribution dialect)
    List.Forall₂ (TableFate dialect) model.tables tables ∧
      List.Forall₂ (RelationshipFate dialect (model.tables.zip tables)) model.relationships
        (naming.relationships.map (naming.relationshipContribution dialect)) := by
  intro naming tables
  have zipped : model.tables.zip tables =
      naming.tables.map fun entry => (entry.1, naming.tableContribution dialect entry) := by
    rw [← map_fst_tables_ofModel dialect.identifiers overrides model, List.zip_map']
  rw [zipped, List.forall₂_map_right_iff, List.forall₂_map_right_iff]
  constructor
  · refine List.Forall₂.imp ?_ ((List.forall₂_and_left _ _).mpr
      ⟨fun _ => hasColumn_of_valid valid, forall₂_nameTables .empty model.tables⟩)
    rintro table entry ⟨present, rfl, answered⟩
    exact tableFate dialect naming present answered
  · refine List.Forall₂.imp ?_ (forall₂_nameRelationships _ _ model.relationships)
    rintro relationship entry ⟨rfl, outcome⟩
    exact naming.relationshipFate dialect outcome

end Naming

namespace ScriptWriter

/-- The results of a run are put together from contributions, after the header of the script. -/
structure MadeOf (result : ScriptWriter) (parts : List Contribution) : Prop where
  definitions : result.definitions = .header :: parts.flatMap (·.definitions)
  statements : result.statements =
    result.definitions.map (·.statement result.dialect result.targetSchema)
  names : result.names = parts.flatMap (·.names)
  warnings : result.warnings = parts.flatMap (·.nameWarnings) ++ parts.flatMap (·.typeWarnings)
  skipped : result.skipped = parts.flatMap (·.skipped)

/-- The results of a completed run are made of the contributions of its naming and of nothing else.
-/
theorem madeOf_completed (writer : ScriptWriter) (model : Model) :
    (writer.completed model).MadeOf
      ((Naming.ofModel writer.dialect.identifiers writer.overrides model).contributions
        writer.dialect) where
  definitions := Naming.definitions_eq_contributions _ _
  statements := rfl
  names := Naming.entries_eq_contributions _ _
  warnings := Naming.warnings_eq_contributions _ _
  skipped := Naming.skipped_eq_contributions _ _

/-- A run over a valid model completes, and its results are made of one contribution of each table
and one of each relationship, in the order of the model, and of nothing else. Each table is created
with all its columns and indexes or skipped without a trace but its failure; each relationship has
one name, or one failure, or refers to a name of which no table was created. -/
theorem generate_loses_no_object (writer : ScriptWriter) {model : Model}
    (valid : model.validate = .ok ()) :
    let result := writer.generate model
    result.1 = .ok () ∧ ∃ tables relationships : List Contribution,
      List.Forall₂ (Naming.TableFate writer.dialect) model.tables tables ∧
      List.Forall₂ (Naming.RelationshipFate writer.dialect (model.tables.zip tables))
        model.relationships relationships ∧
      result.2.MadeOf (tables ++ relationships) := by
  intro result
  rw [show result = _ from writer.generate_of_valid valid]
  let naming := Naming.ofModel writer.dialect.identifiers writer.overrides model
  have fates := Naming.fates_ofModel writer.dialect writer.overrides valid
  exact ⟨rfl, _, _, fates.1, fates.2, writer.madeOf_completed model⟩

/-- The crowded tables with one more that finds no room for its key, and two more relationships: one
of a name that is taken with its only suffix, and one of the table that is left out. -/
def frayed : Model where
  tables := crowded.tables ++
    [{ name := "W", columns := [{ name := "id", typeCode := .integer }], keyName := some "K" }]
  relationships := crowded.relationships ++ [
    { name := "K", parent := "S", child := "U", mappings := [⟨"id", "id"⟩] },
    { name := "H", parent := "W", child := "U", mappings := [⟨"id", "id"⟩] }]

/-- Of six tables and four relationships four and two are created, and two and one skipped. One
relationship is left out without a reason of its own, as it lacks a table. -/
theorem frayed_loses_no_object :
    let result := (new scant).generate frayed
    frayed.validate = .ok () ∧
      result.2.names.map (·.object) = [.table "S", .column "S" "id", .primaryKey "S", .table "S",
        .column "S" "id", .primaryKey "S", .table "T", .column "T" "id", .primaryKey "T",
        .index "T" "I", .table "U", .column "U" "id", .primaryKey "U", .relationship "F",
        .relationship "G"] ∧
      result.2.skipped.map (·.object) = [.table "T", .table "W", .relationship "K"] ∧
      ∃ tables relationships : List Contribution,
        List.Forall₂ (Naming.TableFate scant) frayed.tables tables ∧
        List.Forall₂ (Naming.RelationshipFate scant (frayed.tables.zip tables))
          frayed.relationships relationships ∧
        result.2.MadeOf (tables ++ relationships) := by
  intro result
  have valid : frayed.validate = .ok () := by decide +kernel
  exact ⟨valid, by decide +kernel, by decide +kernel,
    ((new scant).generate_loses_no_object valid).2⟩

end ScriptWriter

end SchemaForward
