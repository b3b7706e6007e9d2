import SchemaForward.Proofs.Script.Contributions

/-!
# Primary keys

A table is created with a primary key exactly if some of its columns belong to one. The clause lists
them by their places in the key, and those that share a place in the order of their declaration. It
looks each of them up by its name, though identifiers are given by position. So a column whose name
another one has before it is listed by the identifier of that other one, and the clause is right
exactly if no column of the key has such a name.
-/

namespace SchemaForward

section Ties

variable {α : Type} {notAfter : α → α → Bool}
  (trans : ∀ first second third, notAfter first second = true →
    notAfter second third = true → notAfter first third = true)
  (total : ∀ first second, (notAfter first second || notAfter second first) = true)

include trans total

/-- Sorting leaves items that all tie in the order in which they were. That is what it means for the
sorting to be stable, seen on the items that are chosen. -/
theorem filter_mergeSort {chosen : α → Bool}
    (tied : ∀ first second, chosen first = true → chosen second = true →
      notAfter first second = true) (items : List α) :
    (items.mergeSort notAfter).filter chosen = items.filter chosen := by
  have ordered : (items.filter chosen).Pairwise fun first second =>
      notAfter first second = true := by
    refine List.pairwise_of_forall_mem_list fun first isFirst second isSecond => ?_
    exact tied first second (List.mem_filter.mp isFirst).2 (List.mem_filter.mp isSecond).2
  have sublist := (List.sublist_mergeSort trans total ordered List.filter_sublist).filter chosen
  have samePermutation := (List.mergeSort_perm items notAfter).filter chosen
  rw [List.filter_filter] at sublist
  simp only [Bool.and_self] at sublist
  exact (sublist.eq_of_length samePermutation.length_eq.symm).symm

/-- Of two sorted items the first is not after the second, and if they tie it was before it. Sorting
is stable: items that tie keep the order they had, and what held between them by that order still
does. -/
theorem pairwise_mergeSort_of_pairwise {earlier : α → α → Prop} {items : List α}
    (inOrder : items.Pairwise earlier) :
    (items.mergeSort notAfter).Pairwise fun first second =>
      notAfter first second = true ∧ (notAfter second first = true → earlier first second) := by
  rw [List.pairwise_iff_forall_sublist]
  intro first second pair
  have sorted : notAfter first second = true :=
    List.pairwise_iff_forall_sublist.mp (List.pairwise_mergeSort trans total items) pair
  refine ⟨sorted, fun back => ?_⟩
  have reflexive : notAfter first first = true := by simpa using total first first
  -- Whatever ties with the first item keeps its order, and both items do.
  let ties := fun item => notAfter first item && notAfter item first
  have tied : ∀ one other, ties one = true → ties other = true → notAfter one other = true := by
    intro one other isOne isOther
    obtain ⟨-, toFirst⟩ := Bool.and_eq_true_iff.mp isOne
    obtain ⟨fromFirst, -⟩ := Bool.and_eq_true_iff.mp isOther
    exact trans one first other toFirst fromFirst
  have kept := pair.filter ties
  rw [filter_mergeSort trans total tied, List.filter_cons_of_pos (by simp [ties, reflexive]),
    List.filter_cons_of_pos (by simp [ties, sorted, back]), List.filter_nil] at kept
  exact List.pairwise_iff_forall_sublist.mp inOrder (kept.trans List.filter_sublist)

end Ties

/-- Of two lists that go together item by item, one relation holds throughout if it says the same of
each item of the first as a property does that all of them have. -/
theorem forall₂_iff_forall_mem {α β : Type} {related : α → β → Prop} {chosen : α → Prop}
    {first : List α} {second : List β}
    (same : List.Forall₂ (fun item other => related item other ↔ chosen item) first second) :
    List.Forall₂ related first second ↔ ∀ item ∈ first, chosen item := by
  induction same with
  | nil => simp
  | cons here _ inductionHypothesis =>
    rw [List.forall₂_cons, here, inductionHypothesis, List.forall_mem_cons]

namespace Column

/-- The number of a column's place in the primary key. -/
def keyNumber (column : Column) : Nat :=
  (column.keyPosition.map UInt32.toNat).getD 0

/-- The order of a key compares the places in it. Columns that share a place are left in the order
of the table by the sorting, not by the comparison. -/
theorem keyNotAfter_iff {first second : Column} :
    first.keyNotAfter second = true ↔ first.keyNumber ≤ second.keyNumber :=
  iff_of_eq Nat.ble_eq

/-- A column of the key is written so that it is never null. -/
theorem notNull_definition {dialect : Dialect} {column : Column} (inKey : column.inKey = true)
    (identifier : String) : (column.definition dialect identifier).notNull = true := by
  rw [definition, inKey, Bool.or_true, Bool.true_or]

end Column

/-- A column that must not be null says so at the end of its definition. -/
theorem ColumnDefinition.exists_sql_eq {column : ColumnDefinition}
    (notNull : column.notNull = true) : ∃ front, column.sql = front ++ " NOT NULL" := by
  rw [sql, if_pos notNull]
  exact ⟨_, rfl⟩

namespace Table

variable {table : Table}

/-- The columns of the key with their positions in the table, by their places in the key, and those
that share a place in the order of their positions. -/
structure IsKeyOrder (table : Table) (order : List (Column × Nat)) : Prop where
  complete : ∀ column position, (column, position) ∈ order ↔
    table.columns[position]? = some column ∧ column.inKey = true
  ordered : order.Pairwise fun first second =>
    first.1.keyNumber < second.1.keyNumber ∨
      first.1.keyNumber = second.1.keyNumber ∧ first.2 < second.2

/-- No column before a position has a name. -/
def IsNewAt (table : Table) (position : Nat) (name : String) : Prop :=
  ∀ earlier < position, ∀ other, table.columns[earlier]? = some other → other.name ≠ name

/-- Each column of the key is the first of its name in the table. -/
def KeyNamesAreNew (table : Table) : Prop :=
  ∀ column position, table.columns[position]? = some column → column.inKey = true →
    table.IsNewAt position column.name

/-- No name of a key is another column's if names differ. -/
theorem keyNamesAreNew_of_nodup (distinct : (table.columns.map (·.name)).Nodup) :
    table.KeyNamesAreNew := by
  intro column position here _ earlier before other there same
  have sameName : (table.columns.map (·.name))[earlier]? =
      (table.columns.map (·.name))[position]? := by
    rw [List.getElem?_map, List.getElem?_map, here, there, Option.map_some, Option.map_some, same]
  obtain ⟨inRange, -⟩ := List.getElem?_eq_some_iff.mp there
  have samePosition := (List.getElem?_inj (by simpa using inRange) distinct).mp sameName
  omega

/-- The columns of the key with their positions, sorted as the key is. -/
def keyEntries (table : Table) : List (Column × Nat) :=
  (table.columns.zipIdx.filter (·.1.inKey)).mergeSort fun first second =>
    first.1.keyNotAfter second.1

/-- Without their positions the sorted columns are the primary key of the table. The sorting does
not look at the positions, so it is the same with and without them. -/
theorem map_fst_keyEntries (table : Table) : table.keyEntries.map Prod.fst = table.primaryKey := by
  have chosen : (table.columns.zipIdx.filter (·.1.inKey)).map Prod.fst =
      table.columns.filter Column.inKey := by
    rw [← List.zipIdx_map_fst 0 table.columns, List.filter_map, List.zipIdx_map_fst]
    rfl
  rw [keyEntries, primaryKey, ← chosen]
  exact List.map_mergeSort fun _ _ _ _ => rfl

/-- The sorted columns are in the order of the key. Sorting is stable, so among those that share a
place the positions still rise. -/
theorem isKeyOrder_keyEntries (table : Table) : table.IsKeyOrder table.keyEntries where
  complete column position := by
    rw [keyEntries, List.mem_mergeSort, List.mem_filter, List.mk_mem_zipIdx_iff_getElem?]
  ordered := by
    have trans : ∀ first second third : Column × Nat, first.1.keyNotAfter second.1 = true →
        second.1.keyNotAfter third.1 = true → first.1.keyNotAfter third.1 = true := by
      intro first second third before after
      rw [Column.keyNotAfter_iff] at before after ⊢
      omega
    have total : ∀ first second : Column × Nat,
        (first.1.keyNotAfter second.1 || second.1.keyNotAfter first.1) = true := by
      intro first second
      rw [Bool.or_eq_true, Column.keyNotAfter_iff, Column.keyNotAfter_iff]
      omega
    have declared : table.columns.zipIdx.Pairwise fun first second => first.2 < second.2 := by
      rw [← List.pairwise_map, List.zipIdx_map_snd]
      exact List.pairwise_lt_range' 1
    refine (pairwise_mergeSort_of_pairwise trans total (declared.filter _)).imp ?_
    rintro first second ⟨notAfter, ofTie⟩
    rw [Column.keyNotAfter_iff] at notAfter ofTie
    rcases Nat.lt_or_eq_of_le notAfter with before | same
    · exact Or.inl before
    · exact Or.inr ⟨same, ofTie same.ge⟩

/-- There is only one order of a key. Two of them have the same entries, and both are sorted by
place and position, in which no two entries agree. -/
theorem IsKeyOrder.unique {order other : List (Column × Nat)} (isOrder : table.IsKeyOrder order)
    (isOther : table.IsKeyOrder other) : order = other := by
  have nodup : ∀ {entries : List (Column × Nat)}, table.IsKeyOrder entries → entries.Nodup := by
    intro entries ordered
    refine ordered.ordered.imp ?_
    rintro first second before rfl
    omega
  have perm : order.Perm other := by
    refine (List.perm_ext_iff_of_nodup (nodup isOrder) (nodup isOther)).mpr ?_
    exact fun entry => (isOrder.complete entry.1 entry.2).trans (isOther.complete _ _).symm
  refine perm.eq_of_pairwise ?_ isOrder.ordered isOther.ordered
  intro first second _ _ before after
  omega

/-- The key has a column exactly if some column of the table belongs to it. -/
theorem IsKeyOrder.ne_nil_iff {order : List (Column × Nat)} (isOrder : table.IsKeyOrder order) :
    order ≠ [] ↔ ∃ column ∈ table.columns, column.inKey = true := by
  constructor
  · intro something
    obtain ⟨⟨column, position⟩, member⟩ := List.exists_mem_of_ne_nil order something
    obtain ⟨here, inKey⟩ := (isOrder.complete column position).mp member
    exact ⟨column, List.mem_of_getElem? here, inKey⟩
  · rintro ⟨column, inTable, inKey⟩
    obtain ⟨position, here⟩ := List.getElem?_of_mem inTable
    exact List.ne_nil_of_mem ((isOrder.complete column position).mpr ⟨here, inKey⟩)

/-- Asking of the columns in the order of the key that each is the first of its name is asking it of
the columns of the table that belong to the key. -/
theorem IsKeyOrder.forall_isNewAt_iff {order : List (Column × Nat)}
    (isOrder : table.IsKeyOrder order) :
    (∀ entry ∈ order, table.IsNewAt entry.2 entry.1.name) ↔ table.KeyNamesAreNew := by
  constructor
  · intro new column position here inKey
    exact new (column, position) ((isOrder.complete column position).mpr ⟨here, inKey⟩)
  · rintro new ⟨column, position⟩ member
    obtain ⟨here, inKey⟩ := (isOrder.complete column position).mp member
    exact new column position here inKey

end Table

namespace NamedTable

variable {table : Table} {named : NamedTable}

/-- The column at a position was given an identifier. -/
def HasIdentifier (named : NamedTable) (position : Nat) (identifier : String) : Prop :=
  (named.columns.map (·.name))[position]? = some identifier

/-- The first column of a name has a position. It is that of the column found by the name, and no
column before it has the same name. -/
theorem IsColumn.exists_isNewAt {name identifier : String}
    (isColumn : named.IsColumn table name identifier) :
    ∃ position column, table.columns[position]? = some column ∧ column.name = name ∧
      named.HasIdentifier position identifier ∧ table.IsNewAt position name := by
  obtain ⟨before, column, given, after, parts, isNamed, isGiven, others⟩ := isColumn
  have here : (table.columns.zip named.columns)[before.length]? = some (column, given) := by
    rw [parts, List.getElem?_append_right (Nat.le_refl _), Nat.sub_self]
    rfl
  obtain ⟨inTable, inNamed⟩ := List.getElem?_zip_eq_some.mp here
  refine ⟨before.length, column, inTable, isNamed, ?_, ?_⟩
  · rw [HasIdentifier, List.getElem?_map, inNamed, Option.map_some, isGiven]
  · intro earlier inBefore other there
    have passed : (table.columns.zip named.columns)[earlier]? = some before[earlier] := by
      rw [parts, List.getElem?_append_left inBefore, List.getElem?_eq_getElem inBefore]
    have same := there.symm.trans (List.getElem?_zip_eq_some.mp passed).1
    rw [Option.some.inj same]
    exact others _ (List.getElem_mem inBefore)

/-- A column is found by its name exactly if it is the first of that name. Identifiers of one table
differ, so that of another column of the name is never its own. -/
theorem IsColumn.hasIdentifier_iff (distinct : (named.columns.map (·.name)).Nodup)
    {column : Column} {position : Nat} (here : table.columns[position]? = some column)
    {identifier : String} (isColumn : named.IsColumn table column.name identifier) :
    named.HasIdentifier position identifier ↔ table.IsNewAt position column.name := by
  obtain ⟨first, other, there, sameName, identified, isNew⟩ := isColumn.exists_isNewAt
  constructor
  · intro alsoIdentified
    obtain ⟨inRange, -⟩ := List.getElem?_eq_some_iff.mp identified
    have samePosition := (List.getElem?_inj inRange distinct).mp
      (identified.trans alsoIdentified.symm)
    rwa [samePosition] at isNew
  · intro alsoNew
    rcases Nat.lt_trichotomy first position with before | rfl | after
    · exact absurd sameName (alsoNew first before other there)
    · exact identified
    · exact absurd rfl (isNew position after column here)

/-- The primary key of a table as it is created under its identifiers: how it is written, what it
creates, and what it lists. -/
structure WritesKey (dialect : Dialect) (schema : Option String) (table : Table)
    (named : NamedTable) (definition : TableDefinition) : Prop where
  describes : named.Describes dialect table definition
  neverNull : List.Forall₂ (fun column written => column.inKey = true →
    written.notNull = true ∧ ∃ front, written.sql = front ++ " NOT NULL")
    table.columns definition.columns
  text : dialect.createTable schema definition =
    s!"CREATE TABLE {Dialect.qualify schema definition.name} (\n  " ++ Text.join ",\n  "
      (definition.columns.map ColumnDefinition.sql ++
        definition.writtenKey.toList.map Dialect.keyConstraint ++
        definition.foreignKeys.map (dialect.foreignKeyConstraint schema)) ++ "\n)"
  present : definition.writtenKey.isSome = true ↔ ∃ column ∈ table.columns, column.inKey = true
  created : ((Definition.table definition).statement dialect schema).createdObjects.filter
      (·.kind == .constraint) =
    if definition.writtenKey.isSome then
      [Definition.ownedObject .constraint schema named.table.name named.key.name]
    else []
  listed : ∀ key ∈ definition.writtenKey, key.name = named.key.name ∧
    ∃ order, table.IsKeyOrder order ∧
      List.Forall₂ (fun entry identifier => named.IsColumn table entry.1.name identifier)
        order key.columns ∧
      (List.Forall₂ (fun entry identifier => named.HasIdentifier entry.2 identifier)
        order key.columns ↔ table.KeyNamesAreNew)

/-- The columns of a key are found by their names. A column that is not the first of its name stands
in the key under the identifier of the one that is. -/
theorem forall₂_keyDefinition (complete : named.columns.length = table.columns.length) :
    List.Forall₂ (fun entry identifier => named.IsColumn table entry.1.name identifier)
      table.keyEntries (named.keyDefinition table).columns := by
  have found : ∀ column ∈ table.primaryKey, ∃ identifier,
      named.column? table column.name = some identifier := by
    intro column member
    have inTable : column ∈ table.columns :=
      (List.mem_filter.mp (List.mem_mergeSort.mp member)).1
    obtain ⟨identifier, isColumn⟩ := exists_isColumn complete ⟨column, inTable, rfl⟩
    exact ⟨identifier, column?_eq_some_iff.mpr isColumn⟩
  have listed := forall₂_filterMap found
  rw [← table.map_fst_keyEntries, List.forall₂_map_left_iff, table.map_fst_keyEntries] at listed
  exact listed.imp fun _ _ => column?_eq_some_iff.mp

/-- The only constraint that a table brings with it is its written key. The table itself and its
foreign keys are objects of other kinds. -/
theorem filter_createdObjects (dialect : Dialect) (schema : Option String)
    (definition : TableDefinition) :
    ((Definition.table definition).statement dialect schema).createdObjects.filter
        (·.kind == .constraint) =
      definition.writtenKey.toList.map fun key =>
        Definition.ownedObject .constraint schema definition.name key.name := by
  have created : ((Definition.table definition).statement dialect schema).createdObjects =
      Definition.tableObject schema definition.name ::
        Definition.ownedConstraints schema definition := rfl
  have keys : ∀ object ∈ definition.writtenKey.toList.map fun key =>
      Definition.ownedObject .constraint schema definition.name key.name,
      (object.kind == .constraint) = true := by
    rw [List.forall_mem_map]
    exact fun _ _ => rfl
  have foreignKeys : ∀ object ∈ definition.foreignKeys.map fun key =>
      Definition.ownedObject .relationship schema definition.name key.name,
      ¬ (object.kind == .constraint) = true := by
    rw [List.forall_mem_map]
    exact fun _ _ => Bool.false_ne_true
  rw [created, List.filter_cons_of_neg Bool.false_ne_true, Definition.ownedConstraints,
    List.filter_append, List.filter_eq_self.mpr keys, List.filter_eq_nil_iff.mpr foreignKeys,
    List.append_nil]

/-- A key is written exactly if it has columns, and then it is the key of the table. -/
theorem writtenKey_eq_some_iff {dialect : Dialect} {naming : Naming} {key : KeyDefinition} :
    (named.tableDefinition dialect naming table).writtenKey = some key ↔
      named.keyDefinition table = key ∧ key.columns ≠ [] := by
  rw [TableDefinition.writtenKey, Option.filter_eq_some_iff, tableDefinition, Option.some_inj]
  simp

/-- A table that was named is created with its key. It has one exactly if some column belongs to it,
and names its columns in the order of their places. Each name is the column's own exactly if no
earlier column has the same name in the model. -/
theorem writesKey_tableDefinition {answers : NameRequest → GivenIdentifier → Prop}
    {rules : IdentifierRules} (answered : Naming.TableAnswers answers rules table named)
    (distinct : (named.columns.map (·.name)).Nodup) (dialect : Dialect) (schema : Option String)
    (naming : Naming) :
    named.WritesKey dialect schema table (named.tableDefinition dialect naming table) := by
  have listed := forall₂_keyDefinition (length_columns answered).symm
  have isOrder := table.isKeyOrder_keyEntries
  have anyListed : (named.keyDefinition table).columns ≠ [] ↔
      ∃ column ∈ table.columns, column.inKey = true := by
    rw [← isOrder.ne_nil_iff, ← List.length_pos_iff, ← List.length_pos_iff, listed.length_eq]
  refine ⟨describes_tableDefinition answered dialect naming, ?_, rfl, ?_, ?_, ?_⟩
  · refine (describes_tableDefinition answered dialect naming).columns.imp ?_
    intro column written isDefinition inKey
    have notNull : written.notNull = true := by
      rw [isDefinition]
      exact Column.notNull_definition inKey written.name
    exact ⟨notNull, ColumnDefinition.exists_sql_eq notNull⟩
  · rw [Option.isSome_iff_exists, ← anyListed]
    constructor
    · rintro ⟨key, written⟩
      obtain ⟨rfl, something⟩ := writtenKey_eq_some_iff.mp written
      exact something
    · exact fun something => ⟨_, writtenKey_eq_some_iff.mpr ⟨rfl, something⟩⟩
  · rw [filter_createdObjects]
    cases written : (named.tableDefinition dialect naming table).writtenKey with
    | none => rfl
    | some key =>
      obtain ⟨rfl, -⟩ := writtenKey_eq_some_iff.mp written
      rfl
  · intro key written
    obtain ⟨rfl, -⟩ := writtenKey_eq_some_iff.mp written
    refine ⟨rfl, table.keyEntries, isOrder, listed, ?_⟩
    have located : ∀ entry ∈ table.keyEntries, table.columns[entry.2]? = some entry.1 :=
      fun entry member => ((isOrder.complete entry.1 entry.2).mp member).1
    have both := (List.forall₂_and_left _ _).mpr ⟨located, listed⟩
    rw [← isOrder.forall_isNewAt_iff]
    refine forall₂_iff_forall_mem (both.imp ?_)
    rintro ⟨column, position⟩ identifier ⟨here, isColumn⟩
    exact isColumn.hasIdentifier_iff distinct here

end NamedTable

/-- The table that a definition creates. -/
def Definition.table? : Definition → Option TableDefinition
  | .table definition => some definition
  | _ => none

/-- What is attached to a table is not the definition of a table. -/
theorem NamedTable.Attached.table?_eq {table : String} {definition : Definition}
    (attached : Attached table definition) : definition.table? = none := by
  cases attached <;> rfl

namespace Naming

/-- A script creates the tables that were named, in order. Indexes, comments and foreign keys are no
tables, and stand between them or behind. -/
theorem filterMap_table?_definitions (dialect : Dialect) (naming : Naming) :
    (naming.definitions dialect).filterMap Definition.table? =
      naming.generated.map fun entry => entry.2.tableDefinition dialect naming entry.1 := by
  have ofTable : ∀ entry : Table × NamedTable,
      (entry.2.definitions dialect naming entry.1).filterMap Definition.table? =
        [entry.2.tableDefinition dialect naming entry.1] := by
    intro entry
    have others : (entry.2.attachments dialect entry.1).filterMap Definition.table? = [] :=
      List.filterMap_eq_nil_iff.mpr fun definition member =>
        (NamedTable.attached_of_mem member).table?_eq
    rw [NamedTable.definitions_eq_cons, List.filterMap_cons, others]
    rfl
  have added : (if dialect.templates.addsConstraints then
      naming.foreignKeys.map Definition.foreignKey else []).filterMap Definition.table? = [] := by
    split
    · rw [List.filterMap_map]
      exact List.filterMap_eq_nil_iff.mpr fun _ _ => rfl
    · rfl
  rw [definitions, List.cons_append, List.filterMap_cons_none rfl, List.filterMap_append, added,
    List.append_nil, List.filterMap_flatMap, List.map_eq_flatMap]
  exact List.flatMap_congr fun entry _ => ofTable entry

variable {rules : IdentifierRules} {overrides : Overrides} {model : Model}

/-- The identifiers of the columns of one table differ. They were given in one namespace, that of
the table's columns, where no key is given twice. Columns of other tables may have the same
identifiers. -/
theorem nodup_columns_of_generated {entry : Table × NamedTable}
    (generated : entry ∈ (ofModel rules overrides model).generated) :
    (entry.2.columns.map (·.name)).Nodup := by
  have answered := tableAnswers_of_generated generated
  have sameScope : ∀ given ∈ entry.2.columns, given.scope = .column entry.2.table.name := by
    intro given member
    obtain ⟨request, requested, isGiven⟩ :=
      exists_of_forall₂_of_mem_right answered.columns member
    obtain ⟨column, -, rfl⟩ := List.mem_map.mp requested
    exact (answers_of_givenFor isGiven).scope
  have inEntries : entry.2.columns.Sublist (ofModel rules overrides model).entries := by
    have ofTable : entry.2.columns.Sublist entry.2.entries :=
      (List.sublist_append_left _ _).trans (List.sublist_cons_self _ _)
    have ofTables : entry.2.entries.Sublist
        ((ofModel rules overrides model).generated.flatMap (·.2.entries)) :=
      List.sublist_flatten_of_mem (List.mem_map_of_mem generated)
    exact ofTable.trans (ofTables.trans (List.sublist_append_left _ _))
  have distinct := (nodup_place_ofModel rules overrides model).sublist (inEntries.map _)
  refine List.pairwise_map.mpr ((List.pairwise_map.mp distinct).imp_of_mem ?_)
  intro first second isFirst isSecond differ same
  refine differ (Prod.ext ?_ (congrArg rules.key same))
  exact (sameScope first isFirst).trans (sameScope second isSecond).symm

end Naming

namespace ScriptWriter

/-- A run over a valid model creates the tables that it names, in order, each with its key. The key
is written exactly if some column belongs to it, in a clause with the key's identifier, and then it
is the one constraint that the table brings with it. Columns of the key are never null. The clause
lists the columns of the key, each once, by their places in it and then by their positions: each by
the identifier of the first column of its name. So all of them are listed by their own identifiers
exactly if each is the first of its name. -/
theorem generate_writes_keys (writer : ScriptWriter) {model : Model}
    (valid : model.validate = .ok ()) :
    let naming := Naming.ofModel writer.dialect.identifiers writer.overrides model
    let result := writer.generate model
    result.1 = .ok () ∧ result.2.names = naming.entries ∧
      result.2.statements =
        result.2.definitions.map (·.statement writer.dialect writer.targetSchema) ∧
      List.Forall₂
        (fun entry definition =>
          entry.2.WritesKey writer.dialect writer.targetSchema entry.1 definition)
        naming.generated (result.2.definitions.filterMap Definition.table?) := by
  intro naming result
  rw [show result = _ from writer.generate_of_valid valid]
  refine ⟨rfl, rfl, rfl, ?_⟩
  rw [show (writer.completed model).definitions = naming.definitions writer.dialect from rfl,
    Naming.filterMap_table?_definitions, List.forall₂_map_right_iff]
  refine List.forall₂_same.mpr fun entry generated => ?_
  exact NamedTable.writesKey_tableDefinition (Naming.tableAnswers_of_generated generated)
    (Naming.nodup_columns_of_generated generated) writer.dialect writer.targetSchema naming

/-- A table whose key is declared in another order than its own. Two columns of the key share a
place, and their names are the same once they are made legal. -/
def tied : Table where
  name := "order"
  columns := [{ name := "b", typeCode := .integer, keyPosition := some 7 },
    { name := "c", typeCode := .integer },
    { name := "a b", typeCode := .integer, keyPosition := some 2 },
    { name := "a-b", typeCode := .integer, keyPosition := some 2 }]

/-- The key of the tied columns lists those that share a place as they are declared, before the
third, and each by its own identifier. -/
theorem tied_writes_key :
    let model : Model := { name := "tied", tables := [tied] }
    let result := (new Dialect.Known.oracle).generate model
    model.validate = .ok () ∧
      result.2.names.map (·.name) = ["ORDER_", "B", "C", "A_B", "A_B_1", "ORDER__PK"] ∧
      (result.2.definitions.filterMap Definition.table?).map (·.name) = ["ORDER_"] ∧
      ∀ definition ∈ result.2.definitions.filterMap Definition.table?,
        definition.writtenKey = some ⟨"ORDER__PK", ["A_B", "A_B_1", "B"]⟩ := by
  intro model result
  have valid : model.validate = .ok () := rfl
  obtain ⟨-, -, -, written⟩ := (new Dialect.Known.oracle).generate_writes_keys valid
  have named : ∀ entry ∈ (Naming.ofModel Dialect.Known.oracle.identifiers .empty model).generated,
      entry.1 = tied ∧ entry.2.key.name = "ORDER__PK" ∧
        entry.2.columns.map (·.name) = ["B", "C", "A_B", "A_B_1"] := by
    decide +kernel
  have positions : tied.keyEntries.map Prod.snd = [2, 3, 0] := by cbv
  have areNew : tied.KeyNamesAreNew := Table.keyNamesAreNew_of_nodup (by decide)
  refine ⟨valid, by decide +kernel, by decide +kernel, fun definition isTable => ?_⟩
  obtain ⟨⟨_, entry⟩, generated, writes⟩ := exists_of_forall₂_of_mem_right written isTable
  obtain ⟨rfl, keyName, identifiers⟩ := named _ generated
  obtain ⟨key, isKey⟩ := Option.isSome_iff_exists.mp
    (writes.present.mpr ⟨_, List.mem_cons_self, rfl⟩)
  obtain ⟨isNamed, order, isOrder, -, own⟩ := writes.listed key isKey
  have sameOrder : order = tied.keyEntries := isOrder.unique tied.isKeyOrder_keyEntries
  have listed : (order.map Prod.snd).map (fun position => (entry.columns.map (·.name))[position]?) =
      key.columns.map some := by
    rw [List.map_map]
    exact map_eq_map_of_forall₂ (own.mpr areNew)
  rw [sameOrder, positions, identifiers] at listed
  have columns : ["A_B", "A_B_1", "B"] = key.columns :=
    List.map_injective_iff.mpr (Option.some_injective String) listed
  rw [isKey, columns, ← keyName, ← isNamed]

/-- A table with two columns of one name, of which the second is its key. -/
def namesakes : Model where
  name := "namesakes"
  tables := [{ name := "T", columns := [
    { name := "A", typeCode := .integer },
    { name := "A", typeCode := .integer, keyPosition := some 1 }] }]

/-- The key of the namesakes lists the column that does not belong to it. -/
theorem namesakes_write_wrong_key :
    let result := (new Dialect.Known.generic).generate namesakes
    namesakes.validate = .ok () ∧ result.1 = .ok () ∧
      result.2.names.map (·.name) = ["T", "A", "A_1", "T_PK"] ∧
      (result.2.statements.map (·.text)).getLast? = some ("CREATE TABLE T (\n" ++
        "  A INTEGER,\n  A_1 INTEGER NOT NULL,\n  CONSTRAINT T_PK PRIMARY KEY (A)\n)") ∧
      ¬∀ definition ∈ result.2.definitions.filterMap Definition.table?,
        ∀ key ∈ definition.writtenKey.toList, key.columns = ["A_1"] := by
  decide +kernel

end ScriptWriter

end SchemaForward
