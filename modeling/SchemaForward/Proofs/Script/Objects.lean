import Mathlib.Data.List.Flatten
import Mathlib.Data.List.Nodup
import SchemaForward.Proofs.Script.Overrides
import SchemaForward.Proofs.Script.Requests

/-!
# The objects of a model

Tables and relationships are told by their names, and what belongs to a table by the table's name
and its own. Identifiers are given to objects of tables and relationships that were named, in their
order. So if the names of a model differ where they should, no two identifiers are for the same
object, and what became of a table or of a relationship is told by its name.
-/

namespace SchemaForward

/-- The objects of a model have different names: tables and relationships each among themselves, and
the columns and the indexes of each table. -/
structure Model.DistinctNames (model : Model) : Prop where
  tables : (model.tables.map (·.name)).Nodup
  columns : ∀ table ∈ model.tables, (table.columns.map (·.name)).Nodup
  indexes : ∀ table ∈ model.tables, (table.indexes.map (·.name)).Nodup
  relationships : (model.relationships.map (·.name)).Nodup

namespace Table

/-- A table and all that belongs to it. -/
def elements (table : Table) : List ModelElement :=
  .table table.name :: table.columns.map (fun column => .column table.name column.name) ++
    .primaryKey table.name :: table.indexes.map fun index => .index table.name index.name

/-- The table, its columns, its key and its indexes all lead back to the table by its name. So
objects of tables with different names are different. -/
theorem owner?_of_mem_elements {table : Table} {object : ModelElement}
    (member : object ∈ table.elements) : object.owner? = some table.name := by
  simp only [elements, List.cons_append, List.mem_cons, List.mem_append, List.mem_map] at member
  rcases member with rfl | ⟨column, -, rfl⟩ | rfl | ⟨index, -, rfl⟩ <;> rfl

end Table

/-- Objects with different names of one kind are different. -/
theorem ModelElement.nodup_map {α : Type} {items : List α} {name : α → String}
    (object : String → ModelElement) (injective : Function.Injective object)
    (distinct : (items.map name).Nodup) : (items.map fun item => object (name item)).Nodup := by
  have ofNames := distinct.map injective
  rwa [List.map_map] at ofNames

namespace Model

/-- The objects of a model. -/
def elements (model : Model) : List ModelElement :=
  model.tables.flatMap (·.elements) ++ model.relationships.map fun relationship =>
    .relationship relationship.name

namespace DistinctNames

variable {model : Model}

/-- The objects of one table are different. Columns differ by their names and indexes by theirs, and
the kinds keep the rest apart. -/
theorem nodup_elements_table (distinct : model.DistinctNames) {table : Table}
    (inModel : table ∈ model.tables) : table.elements.Nodup := by
  have ofColumns := ModelElement.nodup_map (.column table.name)
    (fun _ _ same => (ModelElement.column.inj same).2) (distinct.columns table inModel)
  have ofIndexes := ModelElement.nodup_map (.index table.name)
    (fun _ _ same => (ModelElement.index.inj same).2) (distinct.indexes table inModel)
  simp [Table.elements, List.nodup_append, ofColumns, ofIndexes]

/-- The objects of a model are different, whether they belong to one table, to several or to none.
-/
theorem nodup_elements (distinct : model.DistinctNames) : model.elements.Nodup := by
  refine List.nodup_append.mpr ⟨List.nodup_flatMap.mpr ⟨?_, ?_⟩, ?_, ?_⟩
  · intro table inModel
    exact distinct.nodup_elements_table inModel
  · -- An object of two tables would have two owners.
    have names := List.pairwise_map.mp distinct.tables
    apply names.imp
    intro first second differ object ofFirst ofSecond
    have sameOwner := (Table.owner?_of_mem_elements ofFirst).symm.trans
      (Table.owner?_of_mem_elements ofSecond)
    exact differ (Option.some.inj sameOwner)
  · exact ModelElement.nodup_map .relationship (fun _ _ => ModelElement.relationship.inj)
      distinct.relationships
  · rintro object ofTables other ofRelationships rfl
    obtain ⟨table, -, inTable⟩ := List.mem_flatMap.mp ofTables
    obtain ⟨relationship, -, rfl⟩ := List.mem_map.mp ofRelationships
    cases Table.owner?_of_mem_elements inTable

end DistinctNames

end Model

namespace Naming

/-- A table asks once for each of its objects, in the order in which they are listed. -/
theorem objects_requestsFor (rules : IdentifierRules) (table : Table) (identifier : String) :
    (requestsFor rules table identifier).map (·.object) = table.elements := by
  simp only [requestsFor, contentRequests, columnRequests, indexRequests, List.map_cons,
    List.map_append, List.map_map]
  rfl

section OfModel

variable (rules : IdentifierRules) (overrides : Overrides) (model : Model)

/-- The identifiers of a model are for the objects that were named. First come the objects of the
tables that were named, each table with all that belongs to it, and then the relationships. -/
theorem objects_ofModel :
    let naming := ofModel rules overrides model
    naming.entries.map (·.object) = naming.generated.flatMap (·.1.elements) ++
      naming.related.map fun entry => .relationship entry.1.name := by
  intro naming
  have ofRequests : (naming.requests rules).map (·.object) = naming.entries.map (·.object) :=
    map_eq_map_of_forall₂ ((forall₂_requests rules overrides model).imp fun _ _ isGiven =>
      (answers_of_givenFor isGiven).object.symm)
  rw [← ofRequests, requests, List.map_append, List.map_flatMap, List.map_map]
  simp only [objects_requestsFor]
  rfl

/-- The generated tables are among the tables of the naming, in the same order. -/
theorem generated_sublist (naming : Naming) :
    (naming.generated.map Prod.fst).Sublist (naming.tables.map Prod.fst) := by
  rw [generated]
  induction naming.tables with
  | nil => exact List.Sublist.slnil
  | cons entry rest inductionHypothesis =>
    obtain ⟨table, outcome⟩ := entry
    cases outcome with
    | error failure => exact inductionHypothesis.cons table
    | ok named => exact inductionHypothesis.cons_cons table

/-- The named relationships are among the relationships of the naming, in the same order. -/
theorem related_sublist (naming : Naming) :
    (naming.related.map Prod.fst).Sublist (naming.relationships.map Prod.fst) := by
  rw [related]
  induction naming.relationships with
  | nil => exact List.Sublist.slnil
  | cons entry rest inductionHypothesis =>
    obtain ⟨relationship, outcome⟩ := entry
    cases outcome with
    | assigned name => exact inductionHypothesis.cons_cons relationship
    | failed failure => exact inductionHypothesis.cons relationship
    | unreachable => exact inductionHypothesis.cons relationship

variable {model}

/-- No two identifiers are for the same object. They are among the objects of the model, in the same
order, and those are different if their names are. -/
theorem nodup_objects_ofModel (distinct : model.DistinctNames) :
    ((ofModel rules overrides model).entries.map (·.object)).Nodup := by
  refine distinct.nodup_elements.sublist ?_
  have ofTables := generated_sublist (ofModel rules overrides model)
  have ofRelationships := related_sublist (ofModel rules overrides model)
  rw [map_fst_tables_ofModel] at ofTables
  rw [map_fst_relationships_ofModel] at ofRelationships
  rw [objects_ofModel, Model.elements]
  have tables := ofTables.flatMap (·.elements)
  have relationships := ofRelationships.map fun relationship =>
    ModelElement.relationship relationship.name
  rw [List.flatMap_map] at tables
  rw [List.map_map] at relationships
  exact tables.append relationships

/-- An identifier is for an object of a table that was named, or for a relationship that was. An
object of a table that was skipped has none, nor has a relationship that was left out. -/
theorem owner?_of_mem_entries {given : GivenIdentifier}
    (member : given ∈ (ofModel rules overrides model).entries) :
    (∃ entry ∈ (ofModel rules overrides model).generated,
        given.object.owner? = some entry.1.name) ∨
      ∃ entry ∈ (ofModel rules overrides model).related,
        given.object = .relationship entry.1.name := by
  have inObjects := List.mem_map_of_mem (f := (·.object)) member
  rw [objects_ofModel] at inObjects
  rcases List.mem_append.mp inObjects with ofTable | ofRelationship
  · obtain ⟨entry, generated, inTable⟩ := List.mem_flatMap.mp ofTable
    exact Or.inl ⟨entry, generated, Table.owner?_of_mem_elements inTable⟩
  · obtain ⟨entry, related, same⟩ := List.mem_map.mp ofRelationship
    exact Or.inr ⟨entry, related, same.symm⟩

/-- What became of a table is told by its name. -/
theorem eq_of_name_eq_of_mem_tables (distinct : model.DistinctNames) :
    ∀ first ∈ (ofModel rules overrides model).tables,
      ∀ second ∈ (ofModel rules overrides model).tables,
        first.1.name = second.1.name → first = second := by
  have names : ((ofModel rules overrides model).tables.map (·.1.name)).Nodup := by
    have ofTables := distinct.tables
    rwa [← map_fst_tables_ofModel rules overrides model, List.map_map] at ofTables
  intro first isFirst second isSecond
  exact List.inj_on_of_nodup_map names isFirst isSecond

/-- What became of a relationship is told by its name. -/
theorem eq_of_name_eq_of_mem_relationships (distinct : model.DistinctNames) :
    ∀ first ∈ (ofModel rules overrides model).relationships,
      ∀ second ∈ (ofModel rules overrides model).relationships,
        first.1.name = second.1.name → first = second := by
  have names : ((ofModel rules overrides model).relationships.map (·.1.name)).Nodup := by
    have ofRelationships := distinct.relationships
    rwa [← map_fst_relationships_ofModel rules overrides model, List.map_map] at ofRelationships
  intro first isFirst second isSecond
  exact List.inj_on_of_nodup_map names isFirst isSecond

end OfModel

end Naming

end SchemaForward
