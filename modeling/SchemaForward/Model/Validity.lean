import SchemaForward.Model.Basic

/-!
# Validity of a model

A model is valid if every index names columns of its table, and every relationship joins two tables
of the model by at least one pair of columns of theirs. The faults of a model are listed in the
order in which they are met; the first one is what a check reports.
-/

namespace SchemaForward

/-- A reference in a model that leads nowhere. -/
inductive ModelFault where
  | missingIndexColumn (index column table : String)
  | missingTable (relationship table : String)
  | noMappings (relationship : String)
  | missingColumn (relationship table column : String)
  deriving DecidableEq, Repr, Inhabited

namespace ModelFault

/-- The fault in words. -/
def describe : ModelFault → String
  | .missingIndexColumn index column table =>
    s!"index '{index}' refers to column '{column}' missing from table '{table}'"
  | .missingTable relationship table =>
    s!"relationship '{relationship}' refers to missing table '{table}'"
  | .noMappings relationship => s!"relationship '{relationship}' maps no columns"
  | .missingColumn relationship table column =>
    s!"relationship '{relationship}' refers to missing column '{table}.{column}'"

end ModelFault

namespace Table

/-- The columns that an index names and the table lacks. -/
def indexFaults (table : Table) (index : Index) : List ModelFault :=
  (index.columns.filter fun column => (table.column? column).isNone).map fun column =>
    .missingIndexColumn index.name column table.name

/-- The faults of the indexes of a table. -/
def faults (table : Table) : List ModelFault :=
  table.indexes.flatMap table.indexFaults

end Table

namespace Relationship

/-- The columns that one pair names and its tables lack. -/
def mappingFaults (relationship : Relationship) (parent child : Table) (mapping : ColumnPair) :
    List ModelFault :=
  (if (parent.column? mapping.parentColumn).isNone then
    [.missingColumn relationship.name relationship.parent mapping.parentColumn] else []) ++
  (if (child.column? mapping.childColumn).isNone then
    [.missingColumn relationship.name relationship.child mapping.childColumn] else [])

/-- The faults of a relationship. Columns are only looked for once both tables are there. -/
def faults (relationship : Relationship) (model : Model) : List ModelFault :=
  match model.table? relationship.parent, model.table? relationship.child with
  | none, _ => [.missingTable relationship.name relationship.parent]
  | some _, none => [.missingTable relationship.name relationship.child]
  | some parent, some child =>
    if relationship.mappings.isEmpty then [.noMappings relationship.name]
    else relationship.mappings.flatMap (relationship.mappingFaults parent child)

end Relationship

namespace Model

/-- The faults of a model: those of its indexes, then those of its relationships. -/
def faults (model : Model) : List ModelFault :=
  model.tables.flatMap Table.faults ++ model.relationships.flatMap (·.faults model)

/-- The check of a model, which reports its first fault. -/
def validate (model : Model) : Except ModelFault Unit :=
  match model.faults with
  | [] => .ok ()
  | fault :: _ => .error fault

end Model

end SchemaForward
