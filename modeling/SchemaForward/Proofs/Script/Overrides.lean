import Mathlib.Data.List.Basic
import SchemaForward.Script.Writer

/-!
# What overrides do

Overrides are read in one place only: where a name is asked for an object. So overrides that ask for
the same names are as good as each other, however they were put together, and a table is named the
same whenever the names asked for it and for what belongs to it are the same.

The last name that was put in for an object counts. Names put in for different objects do not touch
each other.
-/

namespace SchemaForward

/-- The table that an object is or belongs to. -/
def ModelElement.owner? : ModelElement → Option String
  | .table name => some name
  | .column owner _ => some owner
  | .primaryKey owner => some owner
  | .index owner _ => some owner
  | .relationship _ => none

namespace Overrides

/-- An override that is set replaces an earlier one for the same object and leaves the others alone.
-/
theorem get?_insert (overrides : Overrides) (object other : ModelElement) (name : String) :
    (overrides.insert object name).get? other =
      if other = object then some name else overrides.get? other := by
  unfold get? insert
  split
  · rename_i same
    rw [same, List.lookup_cons_self]
  · rename_i differ
    rw [List.lookup_cons, beq_eq_false_iff_ne.mpr differ]
    dsimp only
    -- The entries that are left out are those of the object, and another one is looked for.
    induction overrides.entries with
    | nil => rfl
    | cons entry rest inductionHypothesis =>
      rw [List.filter_cons]
      split
      · rw [List.lookup_cons, List.lookup_cons, inductionHypothesis]
      · rename_i dropped
        have isObject : entry.1 = object := by simpa using dropped
        rw [List.lookup_cons, isObject, beq_eq_false_iff_ne.mpr differ, inductionHypothesis]

/-- The overrides with the names of identifiers asked for their objects. -/
def asking (overrides : Overrides) (names : List GivenIdentifier) : Overrides :=
  names.foldl (fun overrides given => overrides.insert given.object given.name) overrides

/-- Asking for given names leaves alone the overrides of objects that were given none. -/
theorem get?_asking_of_forall_ne (overrides : Overrides) {names : List GivenIdentifier}
    {object : ModelElement} (others : ∀ given ∈ names, given.object ≠ object) :
    (overrides.asking names).get? object = overrides.get? object := by
  induction names generalizing overrides with
  | nil => rfl
  | cons given rest inductionHypothesis =>
    obtain ⟨differ, inRest⟩ := List.forall_mem_cons.mp others
    rw [asking, List.foldl_cons, ← asking, inductionHypothesis _ inRest, get?_insert,
      if_neg differ.symm]

/-- After asking for given names, the override of each of the objects is its name. The objects have
to be different for that, or the later name of one would replace the earlier. -/
theorem get?_asking_of_mem (overrides : Overrides) {names : List GivenIdentifier}
    (distinct : (names.map (·.object)).Nodup) {given : GivenIdentifier} (member : given ∈ names) :
    (overrides.asking names).get? given.object = some given.name := by
  induction names generalizing overrides with
  | nil => cases member
  | cons first rest inductionHypothesis =>
    obtain ⟨fresh, others⟩ := List.nodup_cons.mp distinct
    rw [asking, List.foldl_cons, ← asking]
    rcases List.mem_cons.mp member with rfl | inRest
    · rw [get?_asking_of_forall_ne, get?_insert, if_pos rfl]
      intro other inRest same
      exact fresh (List.mem_map.mpr ⟨other, inRest, same⟩)
    · exact inductionHypothesis _ others inRest

/-- Entries that are put in from the last to the first are looked up from the first to the last. An
entry that is put in replaces one that was put in before it, so the first of an object in the list
is the one that counts. -/
theorem get?_foldr_insert (entries : List (ModelElement × String)) (object : ModelElement) :
    (entries.foldr (fun entry rest => rest.insert entry.1 entry.2) empty).get? object =
      entries.lookup object := by
  induction entries with
  | nil => rfl
  | cons entry rest inductionHypothesis =>
    rw [List.foldr_cons, get?_insert, inductionHypothesis, List.lookup_cons]
    by_cases same : object = entry.1
    · rw [if_pos same, beq_iff_eq.mpr same]
    · rw [if_neg same, beq_eq_false_iff_ne.mpr same]

end Overrides

namespace Naming

variable {rules : IdentifierRules} {overrides others : Overrides}

/-- A request looks at the override of its own object and at no other. -/
theorem give_congr {used : TakenNames} {request : NameRequest}
    (same : others.get? request.object = overrides.get? request.object) :
    give rules others used request = give rules overrides used request := by
  rw [give, give, same]

/-- Requests look at the overrides of their own objects and at no others. -/
theorem giveAll_congr {used : TakenNames} {requests : List NameRequest}
    (same : ∀ request ∈ requests,
      others.get? request.object = overrides.get? request.object) :
    giveAll rules others used requests = giveAll rules overrides used requests := by
  induction requests generalizing used with
  | nil => rfl
  | cons request rest inductionHypothesis =>
    obtain ⟨here, inRest⟩ := List.forall_mem_cons.mp same
    rw [giveAll, giveAll, give_congr here]
    cases give rules overrides used request with
    | error failure => rfl
    | ok result =>
      dsimp only
      rw [inductionHypothesis inRest]

/-- A table is named the same if the names asked for what belongs to it are the same. The identifier
of the table itself is asked for first, and the requests for the rest depend on it. -/
theorem nameTable_congr {used : TakenNames} {table : Table}
    (same : ∀ object, object.owner? = some table.name →
      others.get? object = overrides.get? object) :
    nameTable rules others used table = nameTable rules overrides used table := by
  have ofTable : give rules others used (tableRequest table) =
      give rules overrides used (tableRequest table) := give_congr (same _ rfl)
  have ofColumns : ∀ after identifier,
      giveAll rules others after (columnRequests table identifier) =
        giveAll rules overrides after (columnRequests table identifier) := by
    intro after identifier
    apply giveAll_congr
    intro request member
    obtain ⟨column, -, rfl⟩ := List.mem_map.mp member
    exact same _ rfl
  have ofKey : ∀ after identifier, give rules others after (keyRequest rules table identifier) =
      give rules overrides after (keyRequest rules table identifier) := by
    intro after identifier
    exact give_congr (same _ rfl)
  have ofIndexes : ∀ after, giveAll rules others after (indexRequests rules table) =
      giveAll rules overrides after (indexRequests rules table) := by
    intro after
    apply giveAll_congr
    intro request member
    obtain ⟨index, -, rfl⟩ := List.mem_map.mp member
    exact same _ rfl
  simp only [nameTable, nameContents, ofTable, ofColumns, ofKey, ofIndexes]

/-- Overrides that give every object the same name give tables the same identifiers. How they are
listed does not matter. -/
theorem nameTables_congr {used : TakenNames} {tables : List Table}
    (same : ∀ object, others.get? object = overrides.get? object) :
    nameTables rules others used tables = nameTables rules overrides used tables := by
  induction tables generalizing used with
  | nil => rfl
  | cons table rest inductionHypothesis =>
    rw [nameTables, nameTables, nameTable_congr fun object _ => same object]
    dsimp only
    rw [inductionHypothesis]

/-- Overrides that give every object the same name give relationships the same identifiers as well.
-/
theorem nameRelationships_congr {tables : List (Table × Except NamingFailure NamedTable)}
    {used : TakenNames} {relationships : List Relationship}
    (same : ∀ object, others.get? object = overrides.get? object) :
    nameRelationships rules others tables used relationships =
      nameRelationships rules overrides tables used relationships := by
  induction relationships generalizing used with
  | nil => rfl
  | cons relationship rest inductionHypothesis =>
    rw [nameRelationships, nameRelationships, give_congr (same _)]
    simp only [inductionHypothesis]

/-- Overrides that ask for the same names lead to the same names. -/
theorem ofModel_congr {model : Model}
    (same : ∀ object, others.get? object = overrides.get? object) :
    ofModel rules others model = ofModel rules overrides model := by
  rw [ofModel, ofModel, nameTables_congr same]
  dsimp only
  rw [nameRelationships_congr same]

end Naming

end SchemaForward
