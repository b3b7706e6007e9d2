import SchemaForward.Conflict.Tree
import SchemaForward.Dialect.Basic
import SchemaForward.Target.Basic

/-!
# The order of drops

The objects of conflict trees are dropped one by one, each object once. A dependent goes before the
object it depends on, and an index or constraint before the table that owns it, if that table is
dropped too. Among the objects that may go, the one met first goes first. Where dependencies form a
cycle nothing may go; then a constraint goes before an index and an index before a table, and among
those again the one met first.
-/

namespace SchemaForward

/-- A precedence: the object of the first key goes before that of the second. -/
abbrev Precedence := ObjectKey × ObjectKey

namespace DropPlan

/-- The objects without those whose key was met before. -/
def firstMet (met : List ObjectKey) : List DatabaseObject → List DatabaseObject
  | [] => []
  | object :: rest =>
    if met.contains object.key then firstMet met rest
    else object :: firstMet (object.key :: met) rest

/-- The objects to be dropped, in preorder over the trees. -/
def objects (trees : List ConflictTree) : List DatabaseObject :=
  firstMet [] (trees.flatMap ConflictTree.objects)

/-- The key of the table that owns an index or a constraint. -/
def ownerKey? (object : DatabaseObject) : Option ObjectKey :=
  if object.kind == .table then none
  else object.table.map fun table =>
    { object with kind := .table, name := table, table := none }.key

/-- The precedences between dependents and what they depend on. -/
def dependencePrecedences (trees : List ConflictTree) : List Precedence :=
  ((trees.flatMap ConflictTree.links).map fun link => (link.1.key, link.2.key)).filter
    fun precedence => precedence.1 != precedence.2

/-- The precedences between what is owned and its table. -/
def ownerPrecedences (objects : List DatabaseObject) : List Precedence :=
  objects.filterMap fun object => (ownerKey? object).map (object.key, ·)

/-- All precedences of trees. -/
def precedences (trees : List ConflictTree) : List Precedence :=
  dependencePrecedences trees ++ ownerPrecedences (objects trees)

/-- Nothing that is still to be dropped has to go before the object. -/
def isReady (precedences : List Precedence) (pending : List DatabaseObject)
    (object : DatabaseObject) : Bool :=
  !pending.any fun other => precedences.contains (other.key, object.key)

/-- The first of the objects of least priority. -/
def leastPriority? : List DatabaseObject → Option DatabaseObject
  | [] => none
  | first :: rest =>
    match leastPriority? rest with
    | none => some first
    | some best =>
      if Nat.blt best.kind.dropRank first.kind.dropRank then some best else some first

/-- The object to be dropped next: the first that is ready, or one that breaks a cycle. -/
def next? (precedences : List Precedence) (pending : List DatabaseObject) :
    Option DatabaseObject :=
  match pending.find? (isReady precedences pending) with
  | some object => some object
  | none => leastPriority? pending

/-- An object of least priority is one of those compared. The recursion keeps either the first
object or what it found among the others. -/
theorem mem_of_leastPriority? {objects : List DatabaseObject} {least : DatabaseObject}
    (found : leastPriority? objects = some least) : least ∈ objects := by
  induction objects with
  | nil => simp [leastPriority?] at found
  | cons first rest inductionHypothesis =>
    rw [leastPriority?] at found
    split at found
    · simp_all
    · next best known =>
      split at found
      · exact List.mem_cons_of_mem _ (inductionHypothesis (known.trans found))
      · simp_all

/-- What is dropped next is one of the objects still to be dropped. It was found by a search among
them, or is the one of least rank. -/
theorem mem_of_next? {precedences : List Precedence} {pending : List DatabaseObject}
    {object : DatabaseObject} (found : next? precedences pending = some object) :
    object ∈ pending := by
  rw [next?] at found
  split at found
  · next ready known =>
    cases found
    exact List.mem_of_find?_eq_some known
  · exact mem_of_leastPriority? found

/-- Dropping an object leaves fewer to be dropped, which is why the order of drops comes to an end.
Only one of several objects with its key is taken away. -/
theorem length_eraseP_key_lt {pending : List DatabaseObject} {object : DatabaseObject}
    (member : object ∈ pending) :
    (pending.eraseP (·.key == object.key)).length < pending.length := by
  have positive : 0 < pending.length := List.length_pos_of_mem member
  rw [List.length_eraseP_of_mem member (by simp)]
  omega

/-- The objects still to be dropped, in the order of their drops. -/
def order (precedences : List Precedence) (pending : List DatabaseObject) :
    List DatabaseObject :=
  match found : next? precedences pending with
  | none => []
  | some object =>
    have _shorter := length_eraseP_key_lt (mem_of_next? found)
    object :: order precedences (pending.eraseP (·.key == object.key))
termination_by pending.length

/-- The drop of one object. -/
def drop (dialect : Dialect) (object : DatabaseObject) : Except Failure DropStep :=
  match dialect.drop? object with
  | some statement => .ok ⟨object, statement⟩
  | none => .error (.invalidState (.unownedConstraint object))

/-- The drops of objects in order, up to the first that cannot be written. -/
def drops (dialect : Dialect) : List DatabaseObject → Except Failure (List DropStep)
  | [] => .ok []
  | object :: rest =>
    match drop dialect object with
    | .error error => .error error
    | .ok planned =>
      match drops dialect rest with
      | .error error => .error error
      | .ok others => .ok (planned :: others)

/-- The drops of all objects of conflict trees, in order. -/
def ofTrees (dialect : Dialect) (trees : List ConflictTree) :
    Except Failure (List DropStep) :=
  drops dialect (order (precedences trees) (objects trees))

end DropPlan

end SchemaForward
