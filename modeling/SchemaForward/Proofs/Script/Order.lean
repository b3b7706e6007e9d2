import SchemaForward.Proofs.Script.Contents

/-!
# The order of a script

An index, a comment and a foreign key that is added to its table build on tables, which have to be
there when the statement is carried out. A table builds on none; a foreign key inside it may refer
to a table that comes later. Definitions are in order if each finds the tables it builds on among
those defined before it. Those of one table are in order whatever is around them, and the foreign
keys come last, each between two tables that were found among the generated ones.
-/

namespace SchemaForward

namespace Definition

/-- The name of the table that a definition creates. -/
def tableName? : Definition → Option String
  | .table definition => some definition.name
  | _ => none

/-- The names of the tables that definitions create. -/
def tableNames (definitions : List Definition) : List String :=
  definitions.filterMap tableName?

/-- The names of the tables that a definition builds on. -/
def foundations : Definition → List String
  | .header => []
  | .table _ => []
  | .index definition => [definition.table]
  | .foreignKey key => [key.child, key.parent]
  | .tableComment owner _ => [owner]
  | .columnComment owner _ _ => [owner]

/-- Each definition builds on tables that are there at the start or that were created before it. -/
def InOrder : List String → List Definition → Prop
  | _, [] => True
  | present, definition :: rest =>
    definition.foundations ⊆ present ∧ InOrder (present ++ definition.tableName?.toList) rest

/-- Only a definition that creates a table adds a name to those that are there. -/
theorem tableNames_cons (definition : Definition) (rest : List Definition) :
    tableNames (definition :: rest) = definition.tableName?.toList ++ tableNames rest := by
  rw [tableNames, tableNames, List.filterMap_cons]
  cases definition.tableName? <;> rfl

namespace InOrder

variable {present : List String}

/-- More tables at the start do no harm. -/
theorem mono {others : List String} {definitions : List Definition} (kept : present ⊆ others)
    (ordered : InOrder present definitions) : InOrder others definitions := by
  induction definitions generalizing present others with
  | nil => trivial
  | cons definition rest inductionHypothesis =>
    refine ⟨List.Subset.trans ordered.1 kept, inductionHypothesis ?_ ordered.2⟩
    exact List.append_subset.mpr
      ⟨List.subset_append_of_subset_left _ kept, List.subset_append_right _ _⟩

/-- Later definitions can build on all tables of earlier ones. -/
theorem append_iff {first second : List Definition} :
    InOrder present (first ++ second) ↔
      InOrder present first ∧ InOrder (present ++ tableNames first) second := by
  induction first generalizing present with
  | nil => simp [InOrder, tableNames]
  | cons definition rest inductionHypothesis =>
    rw [List.cons_append, InOrder, InOrder, inductionHypothesis, tableNames_cons,
      List.append_assoc, and_assoc]

/-- Definitions are in order if they build on nothing but what is there at the start. -/
theorem of_foundations {definitions : List Definition}
    (there : ∀ definition ∈ definitions, definition.foundations ⊆ present) :
    InOrder present definitions := by
  induction definitions generalizing present with
  | nil => trivial
  | cons definition rest inductionHypothesis =>
    obtain ⟨here, others⟩ := List.forall_mem_cons.mp there
    exact ⟨here, (inductionHypothesis others).mono (List.subset_append_left _ _)⟩

/-- Groups of definitions that do not build on each other can follow each other. -/
theorem flatMap {α : Type} {items : List α} {group : α → List Definition}
    (ordered : ∀ item ∈ items, InOrder present (group item)) :
    InOrder present (items.flatMap group) := by
  induction items generalizing present with
  | nil => trivial
  | cons item rest inductionHypothesis =>
    obtain ⟨here, others⟩ := List.forall_mem_cons.mp ordered
    refine append_iff.mpr ⟨here, inductionHypothesis ?_⟩
    exact fun other member => (others other member).mono (List.subset_append_left _ _)

end InOrder

/-- The first word of a statement. -/
def command : Definition → String
  | .header => "--"
  | .table _ => "CREATE"
  | .index _ => "CREATE"
  | .foreignKey _ => "ALTER"
  | .tableComment _ _ => "COMMENT"
  | .columnComment _ _ _ => "COMMENT"

/-- Every statement starts with its command, so the kind of a definition can be seen from its text.
What comes behind depends on the dialect and the schema. -/
theorem text_eq_command_append (dialect : Dialect) (schema : Option String)
    (definition : Definition) : ∃ rest : List Char,
      (definition.statement dialect schema).text.toList = definition.command.toList ++ rest := by
  cases definition with
  | header =>
    unfold statement Dialect.header
    simp [command, ToString.toString]
  | table definition =>
    unfold statement Dialect.createTable
    simp [command, ToString.toString]
  | index definition =>
    unfold statement Dialect.createIndex
    by_cases unique : definition.unique = true <;> simp [command, unique, ToString.toString]
  | foreignKey key =>
    unfold statement Dialect.addForeignKey
    simp [command, ToString.toString]
  | tableComment owner remarks =>
    unfold statement Dialect.commentOnTable
    simp [command, ToString.toString]
  | columnComment owner column remarks =>
    unfold statement Dialect.commentOnColumn
    simp [command, ToString.toString]

/-- Only the header is a comment line: all other statements begin with a letter. -/
theorem isCommentOnly_statement {dialect : Dialect} {schema : Option String}
    {definition : Definition} :
    (definition.statement dialect schema).isCommentOnly = true ↔ definition = .header := by
  obtain ⟨rest, text⟩ := definition.text_eq_command_append dialect schema
  rw [Statement.isCommentOnly, text]
  cases definition <;>
    simp [command, Text.withoutLeadingBlanks, Text.isBlank, List.isPrefixOf]

end Definition

namespace NamedTable

/-- What is attached to a table builds on that table and on no other. -/
theorem Attached.foundations_eq {table : String} {definition : Definition}
    (attached : Attached table definition) : definition.foundations = [table] := by
  cases attached with
  | index definition on => rw [Definition.foundations, on]
  | tableComment remarks => rfl
  | columnComment column remarks => rfl

/-- A table comes before its indexes and its comments, which build on nothing else. The header
builds on nothing. Each table is created before what is attached to it, and foreign keys come last,
when all tables are there. -/
theorem inOrder_definitions (dialect : Dialect) (naming : Naming) (table : Table)
    (named : NamedTable) (present : List String) :
    Definition.InOrder present (named.definitions dialect naming table) := by
  refine ⟨List.nil_subset _, Definition.InOrder.of_foundations fun definition member => ?_⟩
  rw [(attached_of_mem member).foundations_eq]
  exact List.subset_append_right _ _

end NamedTable

namespace Naming

/-- The tables that a script creates are the generated ones. -/
theorem mem_tableNames_of_generated (dialect : Dialect) (naming : Naming)
    {entry : Table × NamedTable} (generated : entry ∈ naming.generated) :
    entry.2.table.name ∈ Definition.tableNames
      (.header :: naming.generated.flatMap fun entry =>
        entry.2.definitions dialect naming entry.1) := by
  refine List.mem_filterMap.mpr ⟨.table (entry.2.tableDefinition dialect naming entry.1), ?_, rfl⟩
  exact List.mem_cons_of_mem _ (List.mem_flatMap.mpr ⟨entry, generated, List.mem_cons_self⟩)

/-- If relationships are resolved, the definitions are in order from the start. -/
theorem inOrder_definitions (dialect : Dialect) {naming : Naming} (resolved : naming.Resolved) :
    Definition.InOrder [] (naming.definitions dialect) := by
  rw [definitions]
  refine Definition.InOrder.append_iff.mpr ⟨⟨List.nil_subset _, ?_⟩, ?_⟩
  · exact Definition.InOrder.flatMap fun entry _ =>
      entry.2.inOrder_definitions dialect naming entry.1 _
  · refine Definition.InOrder.of_foundations fun definition member => ?_
    split at member
    · obtain ⟨_, inKeys, rfl⟩ := List.mem_map.mp member
      obtain ⟨entry, named, rfl⟩ := List.mem_map.mp inKeys
      obtain ⟨⟨child, findsChild⟩, ⟨parent, findsParent⟩⟩ := resolved entry named
      simp only [Definition.foundations, foreignKey, findsChild.side_eq, findsParent.side_eq,
        List.cons_subset, List.nil_subset, and_true, List.nil_append]
      exact ⟨mem_tableNames_of_generated dialect naming findsChild.generated,
        mem_tableNames_of_generated dialect naming findsParent.generated⟩
    · simp at member

/-- All definitions but the first are of objects of the model. So a script has one header, and it
comes first. -/
theorem definitions_eq_header_cons (dialect : Dialect) (naming : Naming) :
    ∃ rest, naming.definitions dialect = .header :: rest ∧ Definition.header ∉ rest := by
  refine ⟨_, rfl, fun member => ?_⟩
  rcases List.mem_append.mp member with inTables | inKeys
  · obtain ⟨entry, -, inTable⟩ := List.mem_flatMap.mp inTables
    rw [NamedTable.definitions_eq_cons] at inTable
    rcases List.mem_cons.mp inTable with isTable | isAttached
    · cases isTable
    · cases NamedTable.attached_of_mem isAttached
  · split at inKeys
    · obtain ⟨key, -, isKey⟩ := List.mem_map.mp inKeys
      cases isKey
    · simp at inKeys

end Naming

namespace Statement

/-- One of the statements creates a table of the given name. -/
def CreatesTable (dialect : Dialect) (schema : Option String) (statements : List Statement)
    (table : String) : Prop :=
  ∃ definition : TableDefinition, definition.name = table ∧
    (Definition.table definition).statement dialect schema ∈ statements

/-- A statement of a script comes after those that create the tables it builds on. What it builds on
depends on its kind: what is created is a table or an index on a table that is there, what is
altered gets a foreign key of the script between tables that are there, and a comment is a comment
line or a comment on a table that is there or on a column of it. Nothing is dropped. -/
def ComesAfter (dialect : Dialect) (schema : Option String) (definitions : List Definition)
    (earlier : List Statement) (statement : Statement) : Prop :=
  match statement.kind with
  | .create =>
    (∃ definition, statement = (Definition.table definition).statement dialect schema) ∨
      ∃ definition, statement = (Definition.index definition).statement dialect schema ∧
        CreatesTable dialect schema earlier definition.table
  | .alterAddConstraint =>
    ∃ key, Definition.foreignKey key ∈ definitions ∧
      statement = (Definition.foreignKey key).statement dialect schema ∧
      CreatesTable dialect schema earlier key.child ∧
      CreatesTable dialect schema earlier key.parent
  | .comment =>
    statement.isCommentOnly = true ∨ ∃ owner, CreatesTable dialect schema earlier owner ∧
      ((∃ remarks, statement = (Definition.tableComment owner remarks).statement dialect schema) ∨
        ∃ column remarks,
          statement = (Definition.columnComment owner column remarks).statement dialect schema)
  | .drop => False

/-- The statements of definitions in order are in order. What a definition builds on is created by
an earlier one, and each becomes one statement at the same place, so the statement for it comes
earlier as well. -/
theorem comesAfter_of_inOrder (dialect : Dialect) (schema : Option String)
    {definitions : List Definition} (ordered : Definition.InOrder [] definitions)
    {earlier later : List Statement} {statement : Statement}
    (split : definitions.map (·.statement dialect schema) = earlier ++ statement :: later) :
    ComesAfter dialect schema definitions earlier statement := by
  obtain ⟨before, others, rfl, rfl, tail⟩ := List.map_eq_append_iff.mp split
  obtain ⟨definition, after, rfl, rfl, -⟩ := List.map_eq_cons_iff.mp tail
  have founded : definition.foundations ⊆ Definition.tableNames before := by
    simpa using (Definition.InOrder.append_iff.mp ordered).2.1
  have created : ∀ table ∈ definition.foundations,
      CreatesTable dialect schema (before.map (·.statement dialect schema)) table := by
    intro table foundation
    obtain ⟨origin, member, isTable⟩ := List.mem_filterMap.mp (founded foundation)
    cases origin with
    | table found => exact ⟨found, Option.some.inj isTable, List.mem_map_of_mem member⟩
    | _ => cases isTable
  cases definition with
  | header => exact Or.inl (Definition.isCommentOnly_statement.mpr rfl)
  | table definition => exact Or.inl ⟨definition, rfl⟩
  | index definition => exact Or.inr ⟨definition, rfl, created _ List.mem_cons_self⟩
  | foreignKey key =>
    exact ⟨key, by simp, rfl, created _ List.mem_cons_self,
      created _ (List.mem_cons_of_mem _ List.mem_cons_self)⟩
  | tableComment owner remarks =>
    exact Or.inr ⟨owner, created _ List.mem_cons_self, Or.inl ⟨remarks, rfl⟩⟩
  | columnComment owner column remarks =>
    exact Or.inr ⟨owner, created _ List.mem_cons_self, Or.inr ⟨column, remarks, rfl⟩⟩

end Statement

namespace ScriptWriter

/-- A run over a valid model completes, whatever the dialect, the overrides and the schema, and
whatever had to be skipped. The script starts with its header, which is its only comment line, and
each statement comes after those that create the tables it builds on. -/
theorem generate_creates_in_order (writer : ScriptWriter) {model : Model}
    (valid : model.validate = .ok ()) :
    let result := writer.generate model
    result.1 = .ok () ∧
      (∃ header rest, result.2.statements = header :: rest ∧
        header = Definition.header.statement writer.dialect writer.targetSchema ∧
        header.isCommentOnly = true ∧ ∀ statement ∈ rest, statement.isCommentOnly = false) ∧
      ∀ earlier statement later, result.2.statements = earlier ++ statement :: later →
        Statement.ComesAfter writer.dialect writer.targetSchema result.2.definitions earlier
          statement := by
  intro result
  rw [show result = _ from writer.generate_of_valid valid]
  refine ⟨rfl, ?_, ?_⟩
  · obtain ⟨rest, parts, noHeader⟩ := Naming.definitions_eq_header_cons writer.dialect
      (.ofModel writer.dialect.identifiers writer.overrides model)
    refine ⟨_, rest.map (·.statement writer.dialect writer.targetSchema), ?_, rfl,
      Definition.isCommentOnly_statement.mpr rfl, ?_⟩
    · rw [completed, parts, List.map_cons]
    · intro statement member
      obtain ⟨definition, inRest, rfl⟩ := List.mem_map.mp member
      refine Bool.eq_false_iff.mpr fun isLine => noHeader ?_
      rwa [← Definition.isCommentOnly_statement.mp isLine]
  · intro earlier statement later split
    exact Statement.comesAfter_of_inOrder writer.dialect writer.targetSchema
      (Naming.inOrder_definitions writer.dialect (Naming.resolved_ofModel _ _ model)) split

/-- The foreign keys of the crowded tables come after the tables that got in under another name. The
statements for them name those identifiers and not the names in the model. -/
theorem crowded_creates_in_order :
    let writer := (new scant).withOverride (.table "U") "V"
    let result := writer.generate crowded
    crowded.validate = .ok () ∧
      result.2.skipped.map (·.object) = [.table "T"] ∧
      (result.2.statements.map fun statement =>
          (statement.kind, statement.subject.map (·.name))) =
        [(.comment, none), (.create, some "S"), (.create, some "S_1"), (.create, some "T_1"),
          (.create, some "I"), (.comment, some "T_1"), (.create, some "V"),
          (.alterAddConstraint, some "F"), (.alterAddConstraint, some "G")] ∧
      ∀ earlier statement later, result.2.statements = earlier ++ statement :: later →
        Statement.ComesAfter scant none result.2.definitions earlier statement := by
  intro writer result
  have valid : crowded.validate = .ok () := rfl
  refine ⟨valid, by decide +kernel, by decide +kernel, ?_⟩
  exact (writer.generate_creates_in_order valid).2.2

end ScriptWriter

end SchemaForward
