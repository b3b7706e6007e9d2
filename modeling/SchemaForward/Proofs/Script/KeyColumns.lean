import SchemaForward.Proofs.Script.Contributions

/-!
# Columns of foreign keys

A check of a model looks for the columns of a relationship in the first table of each of its two
names. A script takes them from the first table of the name that it creates, and passes over those
that this table lacks. The two are the same table unless the first one was skipped. So a foreign key
lists, in the order of the pairs, the identifiers of the mapped columns that the created table has:
all of them if it has them all, and no column if it has none.
-/

namespace SchemaForward

namespace Table

/-- Those of some names that are names of columns. -/
def presentColumns (table : Table) (names : List String) : List String :=
  names.filter fun name => (table.column? name).isSome

/-- The search for a column succeeds exactly if the table has one of that name. -/
theorem isSome_column?_iff {table : Table} {name : String} :
    (table.column? name).isSome = true ↔ table.HasColumn name := by
  simp [column?, HasColumn]

/-- If a table has all columns that are named, none of the names is left out. -/
theorem presentColumns_eq_self {table : Table} {names : List String}
    (present : ∀ name ∈ names, table.HasColumn name) : table.presentColumns names = names :=
  List.filter_eq_self.mpr fun name member => isSome_column?_iff.mpr (present name member)

end Table

namespace NamedTable

variable {table : Table} {named : NamedTable}

/-- A name that leads to an identifier is the name of a column. -/
theorem IsColumn.hasColumn {name identifier : String}
    (isColumn : named.IsColumn table name identifier) : table.HasColumn name := by
  obtain ⟨before, column, given, after, parts, isNamed, -, -⟩ := isColumn
  have inZip : (column, given) ∈ table.columns.zip named.columns := by simp [parts]
  exact ⟨column, (List.of_mem_zip inZip).1, isNamed⟩

/-- A lookup of columns finds those that the table has, in their order. Each gets the identifier of
the first column of its name. Names that the table has no column for are left out on both sides, so
that what remains still goes together. -/
theorem forall₂_presentColumns (complete : named.columns.length = table.columns.length)
    (names : List String) : List.Forall₂ (named.IsColumn table) (table.presentColumns names)
      (names.filterMap (named.column? table)) := by
  induction names with
  | nil => exact .nil
  | cons name rest inductionHypothesis =>
    rw [Table.presentColumns, List.filter_cons]
    split
    · rename_i present
      obtain ⟨identifier, isColumn⟩ := exists_isColumn complete
        (Table.isSome_column?_iff.mp present)
      rw [List.filterMap_cons_some (column?_eq_some_iff.mpr isColumn)]
      exact .cons isColumn inductionHypothesis
    · rename_i missing
      have unfound : named.column? table name = none := by
        refine Option.eq_none_iff_forall_ne_some.mpr fun identifier found => missing ?_
        exact Table.isSome_column?_iff.mpr (column?_eq_some_iff.mp found).hasColumn
      rw [List.filterMap_cons_none unfound]
      exact inductionHypothesis

/-- Where the columns that a table has are listed, all of them are exactly if it has them all. A
list that lacks one of them is shorter than the names, and cannot go together with these. -/
theorem forall₂_isColumn_iff {names columns : List String}
    (listed : List.Forall₂ (named.IsColumn table) (table.presentColumns names) columns) :
    List.Forall₂ (named.IsColumn table) names columns ↔ ∀ name ∈ names, table.HasColumn name := by
  constructor
  · intro whole name member
    have flipped : List.Forall₂ (flip (named.IsColumn table)) columns names := whole.flip
    obtain ⟨identifier, -, isColumn⟩ := exists_of_forall₂_of_mem_right flipped member
    exact IsColumn.hasColumn isColumn
  · intro present
    rwa [Table.presentColumns_eq_self present] at listed

end NamedTable

/-- The foreign keys that a definition declares: those that stand in a table, or the one that is
added to it. -/
def Definition.declaredKeys : Definition → List ForeignKey
  | .table definition => definition.foreignKeys
  | .foreignKey key => [key]
  | _ => []

/-- What is attached to a table declares no foreign key of any kind, neither in a table nor later.
-/
theorem NamedTable.Attached.declaredKeys_eq {table : String} {definition : Definition}
    (attached : Attached table definition) : definition.declaredKeys = [] := by
  cases attached <;> rfl

namespace ForeignKey

/-- The foreign key is that of a relationship between two tables, by those of the mapped columns
that the tables have. -/
structure Expresses (key : ForeignKey) (relationship : Relationship)
    (child parent : Table × NamedTable) : Prop where
  isChild : key.child = child.2.table.name
  childColumns : List.Forall₂ (child.2.IsColumn child.1)
    (child.1.presentColumns (relationship.mappings.map (·.childColumn))) key.childColumns
  isParent : key.parent = parent.2.table.name
  parentColumns : List.Forall₂ (parent.2.IsColumn parent.1)
    (parent.1.presentColumns (relationship.mappings.map (·.parentColumn))) key.parentColumns
  onDelete : key.onDelete = relationship.onDelete
  onUpdate : key.onUpdate = relationship.onUpdate

/-- The foreign key has a column on each side for every pair of the relationship, in order. -/
structure IsWhole (key : ForeignKey) (relationship : Relationship)
    (child parent : Table × NamedTable) : Prop where
  childColumns : List.Forall₂ (child.2.IsColumn child.1)
    (relationship.mappings.map (·.childColumn)) key.childColumns
  parentColumns : List.Forall₂ (parent.2.IsColumn parent.1)
    (relationship.mappings.map (·.parentColumn)) key.parentColumns

variable {key : ForeignKey} {relationship : Relationship} {child parent : Table × NamedTable}

/-- A foreign key is whole exactly if its tables have all mapped columns. -/
theorem Expresses.isWhole_iff (expresses : key.Expresses relationship child parent) :
    key.IsWhole relationship child parent ↔ ∀ mapping ∈ relationship.mappings,
      child.1.HasColumn mapping.childColumn ∧ parent.1.HasColumn mapping.parentColumn := by
  have children := NamedTable.forall₂_isColumn_iff expresses.childColumns
  have parents := NamedTable.forall₂_isColumn_iff expresses.parentColumns
  rw [List.forall_mem_map] at children parents
  rw [forall₂_and, ← children, ← parents]
  exact ⟨fun whole => ⟨whole.childColumns, whole.parentColumns⟩, fun whole => ⟨whole.1, whole.2⟩⟩

/-- A foreign key that is whole has as many columns on each side as there are pairs. -/
theorem IsWhole.length_eq (whole : key.IsWhole relationship child parent) :
    key.childColumns.length = relationship.mappings.length ∧
      key.parentColumns.length = relationship.mappings.length := by
  have children := whole.childColumns.length_eq
  have parents := whole.parentColumns.length_eq
  rw [List.length_map] at children parents
  exact ⟨children.symm, parents.symm⟩

end ForeignKey

namespace Naming

/-- The first table of a name that was created, with its identifiers. -/
def IsFirstCreated (naming : Naming) (name : String) (found : Table × NamedTable) : Prop :=
  ∃ before after, naming.generated = before ++ found :: after ∧ found.1.name = name ∧
    ∀ other ∈ before, other.1.name ≠ name

/-- A side of a relationship is resolved to the first table of its name that was created. -/
theorem Finds.isFirstCreated {naming : Naming} {name : String} {found : Table × NamedTable}
    (finds : naming.Finds name found) : naming.IsFirstCreated name found := by
  obtain ⟨others, first⟩ := finds.first
  obtain ⟨before, after, parts, passed, isNamed, -⟩ := List.filter_eq_cons_iff.mp first
  exact ⟨before, after, parts, eq_of_beq isNamed, fun other member => by
    simpa using passed other member⟩

/-- Whatever declares a foreign key, the key is that of a named relationship. It may be declared in
a table or by a statement of its own; either way only relationships that were given an identifier
are gone through. -/
theorem exists_related_of_mem_declaredKeys {dialect : Dialect} {naming : Naming}
    {definition : Definition} (defined : definition ∈ naming.definitions dialect)
    {key : ForeignKey} (declared : key ∈ definition.declaredKeys) :
    ∃ entry ∈ naming.related, key = naming.foreignKey entry.1 entry.2.name := by
  rw [definitions] at defined
  rcases List.mem_append.mp defined with inFront | isAdded
  · rcases List.mem_cons.mp inFront with rfl | ofTable
    · cases declared
    · obtain ⟨found, -, isPart⟩ := List.mem_flatMap.mp ofTable
      rw [NamedTable.definitions_eq_cons] at isPart
      rcases List.mem_cons.mp isPart with rfl | attached
      · rw [Definition.declaredKeys, NamedTable.tableDefinition] at declared
        split at declared
        · cases declared
        · obtain ⟨entry, isChild, rfl⟩ := List.mem_map.mp declared
          exact ⟨entry, (List.mem_filter.mp isChild).1, rfl⟩
      · rw [(NamedTable.attached_of_mem attached).declaredKeys_eq] at declared
        cases declared
  · split at isAdded
    · obtain ⟨added, ofRelated, rfl⟩ := List.mem_map.mp isAdded
      obtain ⟨entry, related, rfl⟩ := List.mem_map.mp ofRelated
      exact ⟨entry, related, List.mem_singleton.mp declared⟩
    · cases isAdded

/-- If no table of a name was skipped, the first one that was created is the first one of all. A
search by name passes over skipped tables without a word. Where there are none of the name, it comes
to the table that validation looked at. -/
theorem map_fst_findTable? {tables : List (Table × Except NamingFailure NamedTable)} {name : String}
    (kept : ∀ entry ∈ tables, entry.1.name = name → ∀ failure, entry.2 ≠ .error failure) :
    (findTable? tables name).map Prod.fst = (tables.map Prod.fst).find? (·.name == name) := by
  induction tables with
  | nil => rfl
  | cons entry rest inductionHypothesis =>
    obtain ⟨here, others⟩ := List.forall_mem_cons.mp kept
    have remaining := inductionHypothesis others
    obtain ⟨table, outcome⟩ := entry
    rw [findTable?] at remaining ⊢
    cases outcome with
    | error failure =>
      have otherName : table.name ≠ name := fun same => here same failure rfl
      simpa [otherName] using remaining
    | ok named =>
      by_cases same : table.name = name
      · simp [same]
      · simpa [same] using remaining

section OfModel

variable {rules : IdentifierRules} {overrides : Overrides} {model : Model}

/-- If no table of a name was skipped, the first one that was created is the first one of the model.
That is the one the columns of a relationship were looked for in. -/
theorem Finds.isFirst {name : String} {found : Table × NamedTable}
    (finds : (ofModel rules overrides model).Finds name found)
    (kept : ∀ object ∈ (ofModel rules overrides model).skipped, object.object ≠ .table name) :
    model.IsFirst name found.1 := by
  have isFound : (ofModel rules overrides model).table? name = some found := by
    obtain ⟨others, first⟩ := finds.first
    rw [table?_eq_head?, first, List.head?_cons]
  refine Model.table?_eq_some_iff.mp ?_
  rw [Model.table?, ← map_fst_tables_ofModel rules overrides model, ← map_fst_findTable?]
  · rw [table?] at isFound
    rw [isFound, Option.map_some]
  · rintro ⟨table, outcome⟩ inTables rfl failure rfl
    refine kept ⟨.table table.name, failure⟩ (List.mem_append_left _ ?_) rfl
    exact List.mem_filterMap.mpr ⟨_, inTables, rfl⟩

/-- The columns of a side are those that its table has, in the order of the mappings. Names of
columns that the table lacks are left out without a trace. -/
theorem Finds.forall₂_presentColumns {name : String} {found : Table × NamedTable}
    (finds : (ofModel rules overrides model).Finds name found) (names : List String) :
    List.Forall₂ (found.2.IsColumn found.1) (found.1.presentColumns names)
      ((ofModel rules overrides model).side name names).2 := by
  rw [finds.side_eq]
  have complete := NamedTable.length_columns (tableAnswers_of_generated finds.generated)
  exact NamedTable.forall₂_presentColumns complete.symm names

/-- The foreign key of a relationship expresses it between the tables that are found for it. Its two
sides are resolved apart from each other, each in the first generated table of its name. -/
theorem expresses_foreignKey {relationship : Relationship} {child parent : Table × NamedTable}
    (findsChild : (ofModel rules overrides model).Finds relationship.child child)
    (findsParent : (ofModel rules overrides model).Finds relationship.parent parent)
    (name : String) : ((ofModel rules overrides model).foreignKey relationship name).Expresses
      relationship child parent where
  isChild := congrArg Prod.fst (findsChild.side_eq _)
  childColumns := findsChild.forall₂_presentColumns _
  isParent := congrArg Prod.fst (findsParent.side_eq _)
  parentColumns := findsParent.forall₂_presentColumns _
  onDelete := rfl
  onUpdate := rfl

/-- A named relationship is one of the model. -/
theorem mem_relationships_of_related {entry : Relationship × GivenIdentifier}
    (related : entry ∈ (ofModel rules overrides model).related) :
    entry.1 ∈ model.relationships := by
  rw [← map_fst_relationships_ofModel rules overrides model]
  exact List.mem_map_of_mem (mem_related.mp related)

end OfModel

end Naming

namespace ScriptWriter

/-- Every foreign key in the script of a run over a valid model is that of one of its relationships,
between the first tables that were created for its two names. On either side it lists the
identifiers of those mapped columns that the table has, in the order of the pairs. So it has all of
them, as many as there are pairs and at least one, exactly if both tables have all mapped columns;
and so they do if they are the first tables of their names in the model, which they are unless some
table of these names was skipped. -/
theorem generate_keeps_key_columns (writer : ScriptWriter) {model : Model}
    (valid : model.validate = .ok ()) :
    let naming := Naming.ofModel writer.dialect.identifiers writer.overrides model
    let result := writer.generate model
    result.1 = .ok () ∧
      result.2.statements =
        result.2.definitions.map (·.statement writer.dialect writer.targetSchema) ∧
      ∀ definition ∈ result.2.definitions, ∀ key ∈ definition.declaredKeys,
        ∃ relationship ∈ model.relationships, ∃ given child parent,
          (relationship, given) ∈ naming.related ∧ key.name = given.name ∧
          naming.IsFirstCreated relationship.child child ∧
          naming.IsFirstCreated relationship.parent parent ∧
          key.Expresses relationship child parent ∧
          (key.IsWhole relationship child parent ↔ ∀ mapping ∈ relationship.mappings,
            child.1.HasColumn mapping.childColumn ∧ parent.1.HasColumn mapping.parentColumn) ∧
          (key.IsWhole relationship child parent →
            key.childColumns.length = relationship.mappings.length ∧
            key.parentColumns.length = relationship.mappings.length ∧
            key.childColumns ≠ [] ∧ key.parentColumns ≠ []) ∧
          (model.IsFirst relationship.child child.1 →
            model.IsFirst relationship.parent parent.1 →
            key.IsWhole relationship child parent) ∧
          ((∀ skipped ∈ result.2.skipped, skipped.object ≠ .table relationship.child ∧
              skipped.object ≠ .table relationship.parent) →
            key.IsWhole relationship child parent) := by
  intro naming result
  rw [show result = _ from writer.generate_of_valid valid]
  refine ⟨rfl, rfl, fun definition defined key declared => ?_⟩
  obtain ⟨⟨relationship, given⟩, related, rfl⟩ :=
    Naming.exists_related_of_mem_declaredKeys defined declared
  have inModel := Naming.mem_relationships_of_related related
  obtain ⟨⟨child, findsChild⟩, parent, findsParent⟩ := Naming.resolved_ofModel _ _ _ _ related
  have expresses := Naming.expresses_foreignKey findsChild findsParent given.name
  obtain ⟨firstParent, firstChild, joins⟩ :=
    Model.Joins.of_not_dangles (Model.validate_eq_ok_iff.mp valid) inModel
  have wholeOfFirst : model.IsFirst relationship.child child.1 →
      model.IsFirst relationship.parent parent.1 →
      (naming.foreignKey relationship given.name).IsWhole relationship child parent := by
    intro isChild isParent
    refine expresses.isWhole_iff.mpr fun mapping mapped => ?_
    rw [isChild.unique joins.isChild, isParent.unique joins.isParent]
    exact (joins.columns mapping mapped).symm
  refine ⟨relationship, inModel, given, child, parent, related, rfl, findsChild.isFirstCreated,
    findsParent.isFirstCreated, expresses, expresses.isWhole_iff, fun whole => ?_, wholeOfFirst,
    fun kept => ?_⟩
  · obtain ⟨childLength, parentLength⟩ := whole.length_eq
    have anyMapped := List.length_pos_iff.mpr joins.mapped
    exact ⟨childLength, parentLength, List.length_pos_iff.mp (childLength ▸ anyMapped),
      List.length_pos_iff.mp (parentLength ▸ anyMapped)⟩
  · exact wholeOfFirst (findsChild.isFirst fun skipped isSkipped => (kept skipped isSkipped).1)
      (findsParent.isFirst fun skipped isSkipped => (kept skipped isSkipped).2)

/-- With suffixes enough no crowded table is skipped, and all foreign keys are whole. Two tables of
the model have the same name, and the relationships go to the first of them. -/
theorem crowded_keep_key_columns :
    let result := (new Dialect.Known.oracle).generate crowded
    crowded.validate = .ok () ∧ result.2.skipped = [] ∧
      (result.2.definitions.flatMap Definition.declaredKeys).map
        (fun key => (key.name, key.child, key.childColumns, key.parent, key.parentColumns)) =
        [("F", "T", ["ID"], "S", ["ID"]), ("G", "U", ["ID"], "T", ["ID"])] ∧
      ∀ definition ∈ result.2.definitions, ∀ key ∈ definition.declaredKeys,
        ∃ relationship ∈ crowded.relationships, ∃ child parent,
          key.IsWhole relationship child parent := by
  intro result
  have valid : crowded.validate = .ok () := rfl
  have kept : result.2.skipped = [] := by decide +kernel
  refine ⟨valid, kept, by decide +kernel, fun definition defined key declared => ?_⟩
  obtain ⟨-, -, ofKeys⟩ := (new Dialect.Known.oracle).generate_keeps_key_columns valid
  obtain ⟨relationship, inModel, _, child, parent, -, -, -, -, -, -, -, -, whole⟩ :=
    ofKeys definition defined key declared
  refine ⟨relationship, inModel, child, parent, whole fun skipped isSkipped => ?_⟩
  rw [show (new Dialect.Known.oracle).generate crowded = result from rfl, kept] at isSkipped
  cases isSkipped

/-- A dialect with one type and a single suffix for a name that is taken. -/
def sparing : Dialect where
  name := "sparing"
  types := .ofList [.plain "INTEGER" .integer 10]
  identifiers := { maxSuffix := 1 }
  templates := {}

/-- Two tables of one name. The relationship maps a column of the first, which finds no room for its
key; the second has no such column. -/
def hollow : Model where
  name := "hollow"
  tables := [
    { name := "S", columns := [{ name := "id", typeCode := .integer, keyPosition := some 1 }],
      keyName := some "K" },
    { name := "R", columns := [{ name := "id", typeCode := .integer, keyPosition := some 1 }],
      keyName := some "K" },
    { name := "T", columns := [{ name := "s", typeCode := .integer }], keyName := some "K" },
    { name := "T", columns := [{ name := "id", typeCode := .integer }] }]
  relationships := [{ name := "F", parent := "S", child := "T", mappings := [⟨"id", "s"⟩] }]

/-- The foreign key of the hollow model has no column on the one side and one on the other. The
table that the relationship was checked against was skipped, and the one that was found in its place
lacks the column. -/
theorem hollow_loses_key_columns :
    let result := (new sparing).generate hollow
    hollow.validate = .ok () ∧ result.1 = .ok () ∧
      result.2.skipped.map (·.object) = [.table "T"] ∧
      result.2.definitions.flatMap Definition.declaredKeys =
        [⟨"F", "T_1", [], "S", ["id"], .noAction, .noAction⟩] ∧
      (result.2.statements.map (·.text)).getLast? =
        some "ALTER TABLE T_1 ADD CONSTRAINT F FOREIGN KEY () REFERENCES S (id)" ∧
      ¬∀ definition ∈ result.2.definitions, ∀ key ∈ definition.declaredKeys,
        key.childColumns ≠ [] ∧ key.childColumns.length = key.parentColumns.length := by
  decide +kernel

end ScriptWriter

end SchemaForward
