import Mathlib.Data.List.Basic
import SchemaForward.Model.Validity

/-!
# Which models are refused

An index refers to columns of its table, and a relationship to two tables of the model and, through
its mappings, to columns of the first table of each of the two names. A model is refused exactly if
one of these references leads nowhere or a relationship maps nothing. Other tables of the same
names are not asked, and which of several faults is reported is no matter here.
-/

namespace SchemaForward

namespace Table

/-- The table has a column of the name. -/
def HasColumn (table : Table) (name : String) : Prop :=
  ∃ column ∈ table.columns, column.name = name

/-- The search for a column fails exactly if the table has none of that name. Which of several
columns of one name it finds is no matter here. -/
theorem isNone_column?_iff {table : Table} {name : String} :
    (table.column? name).isNone = true ↔ ¬table.HasColumn name := by
  simp [column?, HasColumn]

/-- A table without faults has the columns that its indexes name. Each way of leading nowhere is one
test of the program, and the proof goes through them in turn. -/
theorem faults_eq_nil_iff {table : Table} :
    table.faults = [] ↔
      ∀ index ∈ table.indexes, ∀ column ∈ index.columns, table.HasColumn column := by
  simp only [faults, indexFaults, List.flatMap_eq_nil_iff, List.map_eq_nil_iff,
    List.filter_eq_nil_iff, isNone_column?_iff, not_not]

end Table

namespace Model

/-- The table is the first one of a name. -/
def IsFirst (model : Model) (name : String) (table : Table) : Prop :=
  ∃ before after, model.tables = before ++ table :: after ∧ table.name = name ∧
    ∀ other ∈ before, other.name ≠ name

/-- The search for a table finds the first one of a name. Another table of the name may come later.
-/
theorem table?_eq_some_iff {model : Model} {name : String} {table : Table} :
    model.table? name = some table ↔ model.IsFirst name table := by
  rw [table?, List.find?_eq_some_iff_append]
  constructor
  · rintro ⟨named, before, after, parts, others⟩
    exact ⟨before, after, parts, eq_of_beq named, fun other member same => by
      simpa [same] using others other member⟩
  · rintro ⟨before, after, parts, named, others⟩
    exact ⟨beq_iff_eq.mpr named, before, after, parts, fun other member => by
      simpa using others other member⟩

/-- The search for a table fails exactly if none has the name. -/
theorem table?_eq_none_iff {model : Model} {name : String} :
    model.table? name = none ↔ ∀ table ∈ model.tables, table.name ≠ name := by
  simp [table?]

/-- Some reference of the model leads nowhere. -/
inductive Dangles (model : Model) : Prop
  | indexColumn (table : Table) (inModel : table ∈ model.tables) (index : Index)
      (inTable : index ∈ table.indexes) (column : String) (inIndex : column ∈ index.columns)
      (missing : ¬table.HasColumn column)
  | parent (relationship : Relationship) (inModel : relationship ∈ model.relationships)
      (missing : ∀ table ∈ model.tables, table.name ≠ relationship.parent)
  | child (relationship : Relationship) (inModel : relationship ∈ model.relationships)
      (missing : ∀ table ∈ model.tables, table.name ≠ relationship.child)
  | nothing (relationship : Relationship) (inModel : relationship ∈ model.relationships)
      (empty : relationship.mappings = [])
  | parentColumn (relationship : Relationship) (inModel : relationship ∈ model.relationships)
      (mapping : ColumnPair) (mapped : mapping ∈ relationship.mappings) (parent : Table)
      (first : model.IsFirst relationship.parent parent)
      (missing : ¬parent.HasColumn mapping.parentColumn)
  | childColumn (relationship : Relationship) (inModel : relationship ∈ model.relationships)
      (mapping : ColumnPair) (mapped : mapping ∈ relationship.mappings) (child : Table)
      (first : model.IsFirst relationship.child child)
      (missing : ¬child.HasColumn mapping.childColumn)

/-- The references of a relationship lead to two tables and to columns of theirs. -/
structure Joins (model : Model) (relationship : Relationship) (parent child : Table) : Prop where
  isParent : model.IsFirst relationship.parent parent
  isChild : model.IsFirst relationship.child child
  mapped : relationship.mappings ≠ []
  columns : ∀ mapping ∈ relationship.mappings,
    parent.HasColumn mapping.parentColumn ∧ child.HasColumn mapping.childColumn

/-- A mapping has no faults exactly if both of its columns are there, each in the table on its side.
-/
theorem mappingFaults_eq_nil_iff {relationship : Relationship} {parent child : Table}
    {mapping : ColumnPair} : relationship.mappingFaults parent child mapping = [] ↔
      parent.HasColumn mapping.parentColumn ∧ child.HasColumn mapping.childColumn := by
  rw [Relationship.mappingFaults, List.append_eq_nil_iff]
  simp only [Table.isNone_column?_iff, ite_eq_right_iff, List.cons_ne_nil, imp_false, not_not]

/-- A relationship without faults joins two tables. Both tables are the first of their names. Their
columns are looked at only if there are mappings at all, and it is a fault if there are none. -/
theorem faults_relationship_eq_nil_iff {model : Model} {relationship : Relationship} :
    relationship.faults model = [] ↔ ∃ parent child, model.Joins relationship parent child := by
  unfold Relationship.faults
  constructor
  · intro faultless
    split at faultless
    · cases faultless
    · cases faultless
    · rename_i parent child isParent isChild
      split at faultless
      · cases faultless
      · rename_i mapped
        refine ⟨parent, child, table?_eq_some_iff.mp isParent, table?_eq_some_iff.mp isChild,
          by simpa using mapped, fun mapping member => ?_⟩
        exact mappingFaults_eq_nil_iff.mp (List.flatMap_eq_nil_iff.mp faultless mapping member)
  · rintro ⟨parent, child, joins⟩
    rw [table?_eq_some_iff.mpr joins.isParent, table?_eq_some_iff.mpr joins.isChild]
    simp only [List.isEmpty_iff, joins.mapped, if_false]
    exact List.flatMap_eq_nil_iff.mpr fun mapping member =>
      mappingFaults_eq_nil_iff.mpr (joins.columns mapping member)

/-- If there is a table of a name, there is a first one. References by name always lead to that one.
-/
theorem exists_isFirst {model : Model} {name : String}
    (present : ¬∀ table ∈ model.tables, table.name ≠ name) :
    ∃ table, model.IsFirst name table := by
  cases found : model.table? name with
  | none => exact absurd (table?_eq_none_iff.mp found) present
  | some table => exact ⟨table, table?_eq_some_iff.mp found⟩

/-- Where no reference leads nowhere, a relationship joins two tables, which may be the same one.
Each part of that is what one way of leading nowhere denies. -/
theorem Joins.of_not_dangles {model : Model} (intact : ¬model.Dangles)
    {relationship : Relationship} (inModel : relationship ∈ model.relationships) :
    ∃ parent child, model.Joins relationship parent child := by
  obtain ⟨parent, isParent⟩ := exists_isFirst fun missing =>
    intact (.parent relationship inModel missing)
  obtain ⟨child, isChild⟩ := exists_isFirst fun missing =>
    intact (.child relationship inModel missing)
  refine ⟨parent, child, isParent, isChild,
    fun empty => intact (.nothing relationship inModel empty), fun mapping mapped => ⟨?_, ?_⟩⟩
  · by_contra missing
    exact intact (.parentColumn relationship inModel mapping mapped parent isParent missing)
  · by_contra missing
    exact intact (.childColumn relationship inModel mapping mapped child isChild missing)

/-- The first table of a name is in the model and has that name. -/
theorem IsFirst.mem {model : Model} {name : String} {table : Table}
    (first : model.IsFirst name table) : table ∈ model.tables ∧ table.name = name := by
  obtain ⟨before, after, parts, named, -⟩ := first
  exact ⟨by simp [parts], named⟩

/-- A name has only one first table, so what a relationship joins is determined by the model. -/
theorem IsFirst.unique {model : Model} {name : String} {table other : Table}
    (first : model.IsFirst name table) (otherFirst : model.IsFirst name other) : table = other :=
  Option.some.inj ((table?_eq_some_iff.mpr first).symm.trans (table?_eq_some_iff.mpr otherFirst))

/-- A model has no faults exactly if no reference of it leads nowhere. -/
theorem faults_eq_nil_iff {model : Model} : model.faults = [] ↔ ¬model.Dangles := by
  rw [faults, List.append_eq_nil_iff, List.flatMap_eq_nil_iff, List.flatMap_eq_nil_iff]
  simp only [Table.faults_eq_nil_iff, faults_relationship_eq_nil_iff]
  constructor
  · rintro ⟨indexed, joined⟩ dangles
    cases dangles with
    | indexColumn table inModel index inTable column inIndex missing =>
      exact missing (indexed table inModel index inTable column inIndex)
    | parent relationship inModel missing =>
      obtain ⟨parent, child, joins⟩ := joined relationship inModel
      exact missing parent joins.isParent.mem.1 joins.isParent.mem.2
    | child relationship inModel missing =>
      obtain ⟨parent, child, joins⟩ := joined relationship inModel
      exact missing child joins.isChild.mem.1 joins.isChild.mem.2
    | nothing relationship inModel empty =>
      obtain ⟨parent, child, joins⟩ := joined relationship inModel
      exact joins.mapped empty
    | parentColumn relationship inModel mapping mapped parent first missing =>
      obtain ⟨found, child, joins⟩ := joined relationship inModel
      rw [first.unique joins.isParent] at missing
      exact missing (joins.columns mapping mapped).1
    | childColumn relationship inModel mapping mapped child first missing =>
      obtain ⟨parent, found, joins⟩ := joined relationship inModel
      rw [first.unique joins.isChild] at missing
      exact missing (joins.columns mapping mapped).2
  · intro intact
    refine ⟨fun table inModel index inTable column inIndex => ?_, fun relationship inModel =>
      Joins.of_not_dangles intact inModel⟩
    by_contra missing
    exact intact (.indexColumn table inModel index inTable column inIndex missing)

/-- A check passes exactly if no reference leads nowhere. -/
theorem validate_eq_ok_iff {model : Model} : model.validate = .ok () ↔ ¬model.Dangles := by
  rw [← faults_eq_nil_iff, validate]
  cases model.faults <;> simp

/-- A model is refused exactly if some reference leads nowhere. One fault of several is reported,
and the first one will do. -/
theorem exists_validate_eq_error_iff {model : Model} :
    (∃ fault, model.validate = .error fault) ↔ model.Dangles := by
  rw [← not_iff_not, ← validate_eq_ok_iff]
  cases model.validate <;> simp

end Model

end SchemaForward
