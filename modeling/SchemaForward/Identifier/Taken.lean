import SchemaForward.Identifier.Rules

/-!
# Taken names

Identifiers have to be unique within a namespace: among tables, among constraints, among indexes,
and among the columns of one table. What is kept of a taken name is its key.
-/

namespace SchemaForward

/-- The scope within which identifiers have to differ. The columns of a table are kept apart by its
legal name. -/
inductive Namespace where
  | table
  | column (owner : String)
  | constraint
  | index
  deriving DecidableEq, Repr, Inhabited

namespace Namespace

/-- The name of a namespace. -/
def describe : Namespace → String
  | .table => "table"
  | .column owner => s!"column of {owner}"
  | .constraint => "constraint"
  | .index => "index"

end Namespace

/-- The keys that are taken, each with its namespace. -/
structure TakenNames where
  taken : List (Namespace × String)
  deriving DecidableEq, Repr

namespace TakenNames

/-- No name is taken. -/
def empty : TakenNames where
  taken := []

/-- The key is taken in the namespace. -/
def contains (used : TakenNames) (scope : Namespace) (key : String) : Bool :=
  used.taken.any fun entry => entry.1 == scope && entry.2 == key

/-- The taken names with one key more. -/
def insert (used : TakenNames) (scope : Namespace) (key : String) : TakenNames :=
  if used.contains scope key then used else { taken := (scope, key) :: used.taken }

/-- The number of keys taken in a namespace. -/
def size (used : TakenNames) (scope : Namespace) : Nat :=
  (used.taken.filter (·.1 == scope)).length

/-- A key is taken after an insertion exactly if it was before or is the one inserted. -/
theorem contains_insert (used : TakenNames) (scope other : Namespace) (key tested : String) :
    (used.insert scope key).contains other tested =
      (used.contains other tested || (scope == other && key == tested)) := by
  by_cases present : used.contains scope key = true
  · rw [insert, if_pos present]
    by_cases same : scope = other ∧ key = tested
    · obtain ⟨rfl, rfl⟩ := same
      simp [present]
    · have differs : (scope == other && key == tested) = false := by
        simp only [Bool.and_eq_false_imp, beq_iff_eq, beq_eq_false_iff_ne]
        exact fun sameScope sameKey => same ⟨sameScope, sameKey⟩
      simp [differs]
  · rw [insert, if_neg present]
    simp [contains, Bool.or_comm]

end TakenNames

end SchemaForward
