import SchemaForward.Conflict.Clearance
import SchemaForward.Dialect.Known
import SchemaForward.Proofs.Conflict.Course
import SchemaForward.Proofs.Conflict.Scan

/-!
# The rounds of a plan

A plan is made in rounds. Each round takes one object from those that wait and puts it behind those
that are ordered, so there are as many rounds as there are keys in the trees, however often an
object is met again in them and whatever the precedences are, and after them nothing waits. What
stands for a key is the object that was met first.

Writing the plan down fails exactly at the first ordered constraint that is on no table. Nothing has
been sent by then, because the whole plan is written before the first drop.
-/

namespace SchemaForward

namespace DropPlan

/-- An order is as long as what it orders. -/
theorem length_order (precedences : List Precedence) (pending : List DatabaseObject) :
    (order precedences pending).length = pending.length := by
  fun_induction order precedences pending with
  | case1 pending nothing => rw [eq_nil_of_next?_eq_none nothing]
  | case2 pending object found _shorter inductionHypothesis =>
    have member := mem_of_next? found
    have positive : 0 < pending.length := List.length_pos_of_mem member
    rw [List.length_cons, inductionHypothesis, List.length_eraseP_of_mem member (by simp)]
    omega

/-- A plan in the making: the objects that are ordered already, and those that still wait. -/
structure Draft where
  ordered : List DatabaseObject
  waiting : List DatabaseObject

namespace Draft

/-- The draft before the first round. -/
def ofTrees (trees : List ConflictTree) : Draft where
  ordered := []
  waiting := objects trees

/-- One round: the object that is next stops waiting. -/
def advance (precedences : List Precedence) (draft : Draft) : Draft :=
  match next? precedences draft.waiting with
  | none => draft
  | some object =>
    { ordered := draft.ordered ++ [object]
      waiting := draft.waiting.eraseP (·.key == object.key) }

/-- A round that has something to order makes the first step of the order of what waits. -/
theorem advance_of_next? {precedences : List Precedence} {draft : Draft} {object : DatabaseObject}
    (found : next? precedences draft.waiting = some object) :
    (draft.advance precedences).ordered = draft.ordered ++ [object] ∧
      order precedences draft.waiting =
        object :: order precedences (draft.advance precedences).waiting := by
  rw [advance, found]
  exact ⟨rfl, order_of_next? found⟩

/-- After some rounds, as many objects of the order are ordered, and the others wait. One round
takes what the order takes first and leaves the order of the rest to the next. When nothing waits
any more, further rounds change nothing. -/
theorem iterate_advance (precedences : List Precedence) (rounds : Nat) (draft : Draft) :
    let after := (advance precedences)^[rounds] draft
    after.ordered = draft.ordered ++ (order precedences draft.waiting).take rounds ∧
      order precedences after.waiting = (order precedences draft.waiting).drop rounds := by
  induction rounds generalizing draft with
  | zero => exact ⟨(List.append_nil _).symm, rfl⟩
  | succ rounds inductionHypothesis =>
    obtain ⟨ordered, waiting⟩ := inductionHypothesis (draft.advance precedences)
    rw [Function.iterate_succ_apply]
    dsimp only
    rw [ordered, waiting]
    cases found : next? precedences draft.waiting with
    | none =>
      -- Nothing waits, so the round changes nothing.
      have unchanged : draft.advance precedences = draft := by rw [advance, found]
      have empty : order precedences draft.waiting = [] := by
        rw [eq_nil_of_next?_eq_none found, order]
        rfl
      rw [unchanged, empty]
      simp
    | some object =>
      obtain ⟨first, rest⟩ := advance_of_next? found
      rw [first, rest]
      simp

/-- As many objects are ordered as there were rounds, until nothing waits. The rounds are those of
the plan's own recursion, taken one at a time from the beginning. -/
theorem iterate_advance_ofTrees (trees : List ConflictTree) (rounds : Nat) :
    let planned := order (precedences trees) (objects trees)
    let draft := (advance (precedences trees))^[rounds] (ofTrees trees)
    draft.ordered = planned.take rounds ∧
      draft.ordered.length + draft.waiting.length = planned.length ∧
      (draft.waiting = [] ↔ planned.length ≤ rounds) := by
  intro planned draft
  obtain ⟨ordered, waiting⟩ := iterate_advance (precedences trees) rounds (ofTrees trees)
  have inOrder : draft.ordered = planned.take rounds := ordered
  have left : draft.waiting.length = planned.length - rounds := by
    rw [← List.length_drop, ← length_order (precedences trees) draft.waiting]
    exact congrArg List.length waiting
  refine ⟨inOrder, ?_, ?_⟩
  · rw [inOrder, List.length_take, left]
    omega
  · rw [← List.length_eq_zero_iff, left]
    omega

end Draft

/-- An object that is not chosen does not change which one is the first. -/
theorem isFirst_cons_iff {chosen : DatabaseObject → Prop} {objects : List DatabaseObject}
    {object head : DatabaseObject} (passed : ¬ chosen head) :
    IsFirst chosen (head :: objects) object ↔ IsFirst chosen objects object := by
  classical
  have decides : ∀ object, decide (chosen object) = true ↔ chosen object :=
    fun _ => decide_eq_true_iff
  rw [isFirst_iff_find? decides, isFirst_iff_find? decides, List.find?_cons_of_neg]
  simpa using passed

/-- A chosen object at the head of a list is the first that is chosen, whatever comes behind it. -/
theorem IsFirst.head {chosen : DatabaseObject → Prop} {head : DatabaseObject}
    (isChosen : chosen head) (objects : List DatabaseObject) :
    IsFirst chosen (head :: objects) head :=
  ⟨[], objects, rfl, isChosen, by simp⟩

/-- Where something is chosen, something is chosen first. -/
theorem exists_isFirst {chosen : DatabaseObject → Prop} {objects : List DatabaseObject}
    {object : DatabaseObject} (member : object ∈ objects) (isChosen : chosen object) :
    ∃ first, IsFirst chosen objects first := by
  classical
  have found : (objects.find? fun other => decide (chosen other)).isSome :=
    List.find?_isSome.mpr ⟨object, member, decide_eq_true isChosen⟩
  obtain ⟨first, isFirst⟩ := Option.isSome_iff_exists.mp found
  exact ⟨first, (isFirst_iff_find? fun _ => decide_eq_true_iff).mpr isFirst⟩

/-- The object is the first of its key. -/
def IsFirstMet (objects : List DatabaseObject) (object : DatabaseObject) : Prop :=
  IsFirst (fun other => other.key = object.key) objects object

/-- What is kept of objects was met first. Another object of its key may come later in the list, but
none before it, and the key was not met before the list began. -/
theorem isFirstMet_of_mem_firstMet {met : List ObjectKey} {objects : List DatabaseObject}
    {object : DatabaseObject} (member : object ∈ firstMet met objects) :
    IsFirstMet objects object ∧ object.key ∉ met := by
  induction objects generalizing met with
  | nil => cases member
  | cons head rest inductionHypothesis =>
    rw [firstMet] at member
    split at member
    · rename_i known
      obtain ⟨first, unmet⟩ := inductionHypothesis member
      have differ : head.key ≠ object.key := fun same =>
        unmet (same ▸ List.contains_iff_mem.mp known)
      exact ⟨(isFirst_cons_iff differ).mpr first, unmet⟩
    · rename_i unknown
      rcases List.mem_cons.mp member with rfl | inRest
      · exact ⟨⟨[], rest, rfl, rfl, by simp⟩,
          fun known => unknown (List.contains_iff_mem.mpr known)⟩
      · obtain ⟨first, unmet⟩ := inductionHypothesis inRest
        obtain ⟨differ, unmetBefore⟩ := not_or.mp (mt List.mem_cons.mpr unmet)
        have isOther : head.key ≠ object.key := fun same => differ same.symm
        exact ⟨(isFirst_cons_iff isOther).mpr first, unmetBefore⟩

/-- The objects of a plan are those of its trees that were met first, in preorder. Of several
objects with one key, in one tree or in several, it is the first that is dropped. -/
theorem mem_objects_iff {trees : List ConflictTree} {object : DatabaseObject} :
    object ∈ objects trees ↔ IsFirstMet (trees.flatMap ConflictTree.objects) object := by
  constructor
  · exact fun member => (isFirstMet_of_mem_firstMet member).1
  · intro first
    -- Some object is kept for the key; it was met first as well, so it is this one.
    have inKeys : object.key ∈ (objects trees).map DatabaseObject.key :=
      ((firstMet_spec [] _).2.2 _).mpr ⟨List.mem_map_of_mem first.mem, List.not_mem_nil⟩
    obtain ⟨kept, isKept, sameKey⟩ := List.mem_map.mp inKeys
    have keptFirst : IsFirstMet (trees.flatMap ConflictTree.objects) kept :=
      (isFirstMet_of_mem_firstMet isKept).1
    rw [IsFirstMet, sameKey] at keptFirst
    rw [first.unique keptFirst]
    exact isKept

/-- The object is a constraint, and nobody knows on which table. -/
def Unowned (object : DatabaseObject) : Prop :=
  object.kind.isConstraint = true ∧ object.table = none

/-- A drop can be written unless the object lacks the table that its statement has to name, and that
is what the error says. -/
theorem drop_eq_error_iff {dialect : Dialect} {object : DatabaseObject} {error : Failure} :
    drop dialect object = .error error ↔
      Unowned object ∧ error = .invalidState (.unownedConstraint object) := by
  obtain ⟨kind, name, table, schema⟩ := object
  cases kind <;> cases table <;>
    simp [drop, Dialect.drop?, Unowned, ObjectKind.isConstraint, eq_comm]

/-- Writing drops down fails at the first of a constraint that is on no table. Those in front of it
can all be written, and those behind it are not looked at. The error names that constraint. -/
theorem drops_eq_error_iff {dialect : Dialect} {objects : List DatabaseObject} {error : Failure} :
    drops dialect objects = .error error ↔
      ∃ object, IsFirst Unowned objects object ∧
        error = .invalidState (.unownedConstraint object) := by
  induction objects with
  | nil =>
    simp only [drops, reduceCtorEq, false_iff, not_exists]
    rintro object ⟨first, -⟩
    cases first.mem
  | cons head rest inductionHypothesis =>
    rw [drops]
    cases dropped : drop dialect head with
    | error found =>
      obtain ⟨unowned, rfl⟩ := drop_eq_error_iff.mp dropped
      constructor
      · rintro ⟨⟩
        exact ⟨head, IsFirst.head unowned rest, rfl⟩
      · rintro ⟨object, first, rfl⟩
        rw [first.unique (IsFirst.head unowned rest)]
    | ok step =>
      have owned : ¬ Unowned head := by
        intro unowned
        rw [drop_eq_error_iff.mpr ⟨unowned, rfl⟩] at dropped
        cases dropped
      simp only [isFirst_cons_iff owned, ← inductionHypothesis]
      cases drops dialect rest <;> simp

end DropPlan

namespace Clearance

variable {σ : Type} {target : Target σ}

/-- Without a plan, dropping changes nothing, here or at the target, and tells why. -/
theorem drop_of_plan_eq_error {clearance : Clearance} {error : Failure}
    (unplanned : clearance.plan = .error error) (session : Session σ) :
    clearance.drop target session =
      (.failed (if clearance.finished then error else .invalidState .notScanned), clearance,
        session) := by
  rw [drop, unplanned]
  cases clearance.finished <;> rfl

end Clearance

namespace DropPlan

/-- Whatever the trees are, the objects that were first met are ordered in as many rounds as they
have keys, one new object in each round, and then nothing waits. The order holds the key of each
object in the trees once, for the one that was met first in preorder. Writing it down fails exactly
if a constraint among these is on no table, and names the first of them in the order; dropping is
then an error that changes nothing and sends nothing, whatever the target is. -/
theorem plan_orders_each_key_once (dialect : Dialect) (trees : List ConflictTree) :
    let met := trees.flatMap ConflictTree.objects
    let planned := order (precedences trees) (objects trees)
    (∀ rounds,
      let draft := (Draft.advance (precedences trees))^[rounds] (Draft.ofTrees trees)
      draft.ordered = planned.take rounds ∧
        draft.ordered.length + draft.waiting.length = planned.length ∧
        (draft.waiting = [] ↔ planned.length ≤ rounds)) ∧
    ((planned.map DatabaseObject.key).Nodup ∧
      ∀ key, key ∈ planned.map DatabaseObject.key ↔ key ∈ met.map DatabaseObject.key) ∧
    (∀ object, object ∈ planned ↔ IsFirstMet met object) ∧
    (∀ steps, ofTrees dialect trees = .ok steps → steps.map DropStep.object = planned) ∧
    ((∃ error, ofTrees dialect trees = .error error) ↔
      ∃ object, IsFirstMet met object ∧ Unowned object) ∧
    ∀ error, ofTrees dialect trees = .error error →
      (∃ object, IsFirst Unowned planned object ∧
        error = .invalidState (.unownedConstraint object)) ∧
      ∀ (σ : Type) (target : Target σ) (clearance : Clearance) (session : Session σ),
        clearance.dialect = dialect → clearance.conflicts = trees →
        clearance.drop target session =
          (.failed (if clearance.finished then error else .invalidState .notScanned), clearance,
            session) := by
  intro met planned
  have perm : planned.Perm (objects trees) := order_perm _ _ (nodup_keys_objects trees)
  have isPlanned : ∀ object, object ∈ planned ↔ IsFirstMet met object := fun object =>
    perm.mem_iff.trans mem_objects_iff
  refine ⟨fun rounds => ?_, ⟨?_, fun key => ?_⟩, isPlanned, fun _ => map_object_ofTrees, ?_,
    fun error failed => ⟨drops_eq_error_iff.mp failed, ?_⟩⟩
  · exact Draft.iterate_advance_ofTrees trees rounds
  · exact (perm.map DatabaseObject.key).nodup_iff.mpr (nodup_keys_objects trees)
  · rw [(perm.map DatabaseObject.key).mem_iff, mem_keys_objects, List.map_flatMap, List.mem_flatMap]
  · constructor
    · rintro ⟨error, failed⟩
      obtain ⟨object, first, -⟩ := drops_eq_error_iff.mp failed
      exact ⟨object, (isPlanned object).mp first.mem, first.isChosen⟩
    · rintro ⟨object, first, unowned⟩
      obtain ⟨earliest, isFirst⟩ := exists_isFirst ((isPlanned object).mpr first) unowned
      exact ⟨_, drops_eq_error_iff.mpr ⟨earliest, isFirst, rfl⟩⟩
  · rintro σ target clearance session rfl rfl
    exact Clearance.drop_of_plan_eq_error failed session

/-- Two tables, each below the other, and a constraint that is met without its table before it is
met with it. -/
def entangled : List ConflictTree := [
  .node (FixedCatalogue.tableOf "A") [
    .node (FixedCatalogue.tableOf "B") [.node (FixedCatalogue.tableOf "a") []],
    .node ⟨.constraint, "FK", none, none⟩ []],
  .node ⟨.constraint, "fk", some "B", none⟩ []]

/-- The entangled objects are ordered in three rounds. The constraint stands for both of its copies
without a table, so there is no plan, and dropping leaves the target alone. -/
theorem entangled_orders_each_key_once :
    let lost : DatabaseObject := ⟨.constraint, "FK", none, none⟩
    let ordered := [lost, FixedCatalogue.tableOf "A", FixedCatalogue.tableOf "B"]
    let clearance : Clearance :=
      { Clearance.ofScript Dialect.Known.generic [] with conflicts := entangled, finished := true }
    let session := Session.start FixedCatalogue.ring
    order (precedences entangled) (objects entangled) = ordered ∧
      ((Draft.advance (precedences entangled))^[3] (Draft.ofTrees entangled)).waiting = [] ∧
      ofTrees Dialect.Known.generic entangled = .error (.invalidState (.unownedConstraint lost)) ∧
      clearance.drop FixedCatalogue.calls session =
        (.failed (.invalidState (.unownedConstraint lost)), clearance, session) := by
  intro lost ordered clearance session
  have isOrder : order (precedences entangled) (objects entangled) = ordered := by
    decide +kernel
  obtain ⟨rounds, -, -, -, -, fails⟩ := plan_orders_each_key_once Dialect.Known.generic entangled
  have unplanned : ofTrees Dialect.Known.generic entangled =
      .error (.invalidState (.unownedConstraint lost)) := by
    decide +kernel
  refine ⟨isOrder, (rounds 3).2.2.mpr ?_, unplanned,
    (fails _ unplanned).2 _ FixedCatalogue.calls clearance session rfl rfl⟩
  rw [isOrder]
  exact Nat.le_refl 3

end DropPlan

end SchemaForward
