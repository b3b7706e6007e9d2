import SchemaForward.Dialect.Known
import SchemaForward.Proofs.Script.Requests
import SchemaForward.Script.Writer

/-!
# What a script is made of

A relationship names its two tables by their names in the model. Whether it gets an identifier is
decided by one search, over all tables with what became of each; what its foreign key says is read
off another, over the tables that were generated. Both find the first generated table of the name.
So a relationship with an identifier never speaks of a table that the script leaves out, whatever
tables were skipped and however many share a name.

The definition of a table is followed by what is attached to it, its indexes and its comments, which
speak of that table alone.
-/

namespace SchemaForward

namespace Naming

/-- The generated tables of a name in the model. -/
def namesakes (naming : Naming) (name : String) : List (Table × NamedTable) :=
  naming.generated.filter (·.1.name == name)

/-- The search passes over the tables that were skipped. So a name leads to the first generated
table that has it in the model, even if an earlier table of the name was skipped. -/
theorem table?_eq_head? (naming : Naming) (name : String) :
    naming.table? name = (naming.namesakes name).head? := by
  rw [table?, namesakes, generated, List.head?_filter]
  induction naming.tables with
  | nil => rfl
  | cons entry rest inductionHypothesis =>
    obtain ⟨table, outcome⟩ := entry
    rw [findTable?] at inductionHypothesis ⊢
    cases outcome with
    | error failure => exact inductionHypothesis
    | ok named =>
      by_cases same : table.name = name
      · simp [same]
      · simpa [same] using inductionHypothesis

/-- A side of a relationship is found in the first generated table of the name. -/
structure Finds (naming : Naming) (name : String) (found : Table × NamedTable) : Prop where
  first : ∃ others, naming.namesakes name = found :: others
  side_eq : ∀ columns, naming.side name columns =
    (found.2.table.name, columns.filterMap (found.2.column? found.1))

/-- Where the search of a naming finds a table, a side of a relationship is resolved there: it is
the first generated table of the name, since tables that were skipped are passed over. -/
theorem exists_finds {naming : Naming} {name : String} (present : (naming.table? name).isSome) :
    ∃ found, naming.Finds name found := by
  obtain ⟨found, isFound⟩ := Option.isSome_iff_exists.mp present
  refine ⟨found, ?_, fun columns => by rw [side, isFound]⟩
  rw [table?_eq_head?] at isFound
  exact List.head?_eq_some_iff.mp isFound

/-- What a side of a relationship is resolved to is a generated table. It has identifiers for all of
its columns. -/
theorem Finds.generated {naming : Naming} {name : String} {found : Table × NamedTable}
    (finds : naming.Finds name found) : found ∈ naming.generated := by
  obtain ⟨others, first⟩ := finds.first
  have member : found ∈ naming.namesakes name := first ▸ List.mem_cons_self
  exact (List.mem_filter.mp member).1

/-- Both sides of each relationship with an identifier are found. -/
def Resolved (naming : Naming) : Prop :=
  ∀ entry ∈ naming.related,
    (∃ found, naming.Finds entry.1.child found) ∧ ∃ found, naming.Finds entry.1.parent found

/-- In the naming of a model both sides of every named relationship are found. A relationship is
only named if they are, so what a missing side would be resolved to does not matter. -/
theorem resolved_ofModel (rules : IdentifierRules) (overrides : Overrides) (model : Model) :
    (ofModel rules overrides model).Resolved := by
  rintro ⟨relationship, name⟩ named
  obtain ⟨_, -, rfl, decided⟩ := exists_of_forall₂_of_mem_right
    (forall₂_nameRelationships _ _ model.relationships) (mem_related.mp named)
  cases decided with
  | assigned _ reachable _ =>
    obtain ⟨parent, child⟩ := (Bool.and_eq_true _ _).mp reachable
    exact ⟨exists_finds child, exists_finds parent⟩

end Naming

/-- The definition is a comment on a table or on a column of it. -/
inductive Definition.IsCommentOn (table : String) : Definition → Prop
  | table (remarks : String) : IsCommentOn table (.tableComment table remarks)
  | column (column remarks : String) : IsCommentOn table (.columnComment table column remarks)

namespace NamedTable

/-- What follows the definition of a table: its indexes and its comments. -/
def attachments (dialect : Dialect) (table : Table) (named : NamedTable) : List Definition :=
  (named.indexDefinitions table).map .index ++
    if dialect.templates.hasComments then named.comments table else []

/-- The definitions of a table start with the table itself. Everything behind it is attached to it.
-/
theorem definitions_eq_cons (dialect : Dialect) (naming : Naming) (table : Table)
    (named : NamedTable) : named.definitions dialect naming table =
      .table (named.tableDefinition dialect naming table) :: named.attachments dialect table :=
  rfl

/-- A definition speaks of one table, as an index on it or as a comment on it or on a column. -/
inductive Attached (table : String) : Definition → Prop
  | index (definition : IndexDefinition) (on : definition.table = table) :
    Attached table (.index definition)
  | tableComment (remarks : String) : Attached table (.tableComment table remarks)
  | columnComment (column remarks : String) :
    Attached table (.columnComment table column remarks)

/-- The comments of a table speak of that table and its columns, under the identifier of the table.
-/
theorem isCommentOn_of_mem_comments {table : Table} {named : NamedTable} {comment : Definition}
    (member : comment ∈ named.comments table) : comment.IsCommentOn named.table.name := by
  rcases List.mem_append.mp member with onTable | onColumn
  · obtain ⟨remarks, -, rfl⟩ := List.mem_map.mp onTable
    exact .table remarks
  · obtain ⟨entry, -, isOne⟩ := List.mem_filterMap.mp onColumn
    obtain ⟨remarks, -, rfl⟩ := Option.map_eq_some_iff.mp isOne
    exact .column _ remarks

/-- What is attached to a table speaks of that table alone. No foreign key is among it. -/
theorem attached_of_mem {dialect : Dialect} {table : Table} {named : NamedTable}
    {definition : Definition} (member : definition ∈ named.attachments dialect table) :
    Attached named.table.name definition := by
  rcases List.mem_append.mp member with isIndex | isComment
  · obtain ⟨_, inIndexes, rfl⟩ := List.mem_map.mp isIndex
    obtain ⟨entry, -, rfl⟩ := List.mem_map.mp inIndexes
    exact .index _ rfl
  · split at isComment
    · cases isCommentOn_of_mem_comments isComment with
      | table remarks => exact .tableComment remarks
      | column column remarks => exact .columnComment column remarks
    · simp at isComment

end NamedTable

namespace ScriptWriter

/-- A run over a valid model completes. -/
theorem generate_of_valid {model : Model} (valid : model.validate = .ok ())
    (writer : ScriptWriter) : writer.generate model = (.ok (), writer.completed model) := by
  rw [generate, valid]

/-- A dialect with a single suffix for a name that is taken. -/
def scant : Dialect :=
  { Dialect.Known.oracle with
    identifiers := { Dialect.Known.oracle.identifiers with maxSuffix := 1 } }

/-- Two tables of one name that both find room, and two of another name, the first of which finds
none for its key. -/
def crowded : Model where
  tables := [
    { name := "S", columns := [{ name := "id", typeCode := .integer, keyPosition := some 1 }],
      keyName := some "K" },
    { name := "S", columns := [{ name := "id", typeCode := .integer }], keyName := some "K" },
    { name := "T", columns := [{ name := "id", typeCode := .integer }], keyName := some "K" },
    { name := "T", columns := [{ name := "id", typeCode := .integer, remarks := some "key" }],
      indexes := [{ name := "I", columns := ["id"] }] },
    { name := "U", columns := [{ name := "id", typeCode := .integer }] }]
  relationships := [
    { name := "F", parent := "S", child := "T", mappings := [⟨"id", "id"⟩] },
    { name := "G", parent := "T", child := "U", mappings := [⟨"id", "id"⟩] }]

end ScriptWriter

end SchemaForward
