import SchemaForward.Proofs.Conflict.Course
import SchemaForward.Proofs.Conflict.DropOrder

/-!
# Plans without cycles

If nothing has to go before itself, whatever is pending holds something ready, so a plan never has
to break a cycle. It then takes the first ready object each time, in the order in which the objects
were first met, and this alone determines it. All precedences are kept, those between the trees of
different roots too.
-/

namespace SchemaForward

namespace DropPlan

section Planned

variable {dialect : Dialect} {trees : List ConflictTree} {steps : List DropStep}

/-- The drops that are planned follow a course of what their trees call for. -/
theorem exists_course_ofTrees (planned : ofTrees dialect trees = .ok steps) :
    ∃ forced, Course (Precedes trees) (objects trees) (steps.map DropStep.object) forced := by
  obtain ⟨forced, course⟩ := exists_course (precedences trees) (objects trees)
  rw [map_object_ofTrees planned]
  exact ⟨forced, course.congr fun first second isPlanned =>
    mem_precedences_iff (List.mem_map_of_mem isPlanned)⟩

/-- No plan drops a key twice, although an object may stand in several trees. -/
theorem nodup_keys_ofTrees (planned : ofTrees dialect trees = .ok steps) :
    (steps.map (·.object.key)).Nodup := by
  have perm := (order_perm (precedences trees) _ (nodup_keys_objects trees)).map DatabaseObject.key
  rw [← map_object_ofTrees planned, List.map_map] at perm
  exact perm.nodup_iff.mpr (nodup_keys_objects trees)

/-- What precedes something is planned to be dropped before it or after it. -/
theorem Precedes.dropsBefore_or {first second : ObjectKey} (precedes : Precedes trees first second)
    (planned : ofTrees dialect trees = .ok steps) :
    DropsBefore steps first second ∨ DropsBefore steps second first := by
  have inPlan : ∀ key ∈ (objects trees).map DatabaseObject.key,
      key ∈ steps.map (·.object.key) := fun key isPlanned =>
    (mem_keys_ofTrees planned key).mpr ((mem_keys_objects trees key).mp isPlanned)
  exact pair_sublist_or (inPlan _ precedes.planned.1) (inPlan _ precedes.planned.2) precedes.ne

/-- What precedes something is dropped after it only if that was forced, and then a cycle leads to
it. -/
theorem Course.forced_of_dropsBefore {forced : List DatabaseObject}
    (course : Course (Precedes trees) (objects trees) (steps.map DropStep.object) forced)
    {first second : ObjectKey} (precedes : Precedes trees first second)
    (late : DropsBefore steps second first) :
    (∃ object ∈ forced, object.key = second) ∧ FollowsCycle (Precedes trees) first := by
  apply course.forced_of_sublist precedes
  rw [List.map_map]
  exact late

end Planned

/-- The plan for trees without a cycle takes the first ready object each time and forces none, which
no other order does. What has to go first is dropped first. Whatever is pending, something is
ready. -/
theorem plan_takes_first_ready {trees : List ConflictTree}
    (acyclic : ∀ key, ¬ Relation.TransGen (Precedes trees) key key) {dialect : Dialect}
    {steps : List DropStep} (planned : ofTrees dialect trees = .ok steps) :
    Course (Precedes trees) (objects trees) (steps.map DropStep.object) [] ∧
      (∀ order forced, Course (Precedes trees) (objects trees) order forced →
        order = steps.map DropStep.object) ∧
      (∀ first second, Precedes trees first second → DropsBefore steps first second) ∧
      ∀ pending, pending ≠ [] →
        (pending.find? (isReady (precedences trees) pending)).isSome = true := by
  obtain ⟨forced, course⟩ := exists_course_ofTrees planned
  obtain rfl := course.forced_eq_nil acyclic
  refine ⟨course, fun order forced other => (course.unique other).1, ?_, ?_⟩
  · intro first second precedes
    refine (precedes.dropsBefore_or planned).resolve_right fun late => ?_
    obtain ⟨⟨object, isForced, -⟩, -⟩ := course.forced_of_dropsBefore precedes late
    cases isForced
  · intro pending something
    obtain ⟨object, isPending, ready⟩ := exists_ready (acyclic_precedences acyclic) something
    rw [List.find?_isSome]
    exact ⟨object, isPending, ready⟩

/-- A key and an index that were found apart from their tables, of which one is spelled in another
case and one is not found, and a table that is found again below another. -/
def scattered : List ConflictTree :=
  let lines := .node (FixedCatalogue.tableOf "LINES")
    [.node ⟨.constraint, "LINES_FK", some "LINES", none⟩ []]
  [.node (FixedCatalogue.tableOf "ORDERS")
      [lines, .node ⟨.index, "ORDERS_IX", some "ORDERS", none⟩ []],
    lines, .node ⟨.constraint, "ORDERS_PK", some "orders", none⟩ [],
    .node ⟨.index, "OTHER_IX", some "OTHER", none⟩ []]

/-- The drops of the scattered objects. -/
def scatteredDrops : List DropStep := [
  ⟨⟨.constraint, "LINES_FK", some "LINES", none⟩, "ALTER TABLE LINES DROP CONSTRAINT LINES_FK"⟩,
  ⟨FixedCatalogue.tableOf "LINES", "DROP TABLE LINES"⟩,
  ⟨⟨.index, "ORDERS_IX", some "ORDERS", none⟩, "DROP INDEX ORDERS_IX"⟩,
  ⟨⟨.constraint, "ORDERS_PK", some "orders", none⟩, "ALTER TABLE orders DROP CONSTRAINT ORDERS_PK"⟩,
  ⟨FixedCatalogue.tableOf "ORDERS", "DROP TABLE ORDERS"⟩,
  ⟨⟨.index, "OTHER_IX", some "OTHER", none⟩, "DROP INDEX OTHER_IX"⟩]

/-- The scattered objects go before what they belong to, and otherwise as they were met. Nothing is
forced in their plan, since no cycle is among them. -/
theorem scattered_takes_first_ready :
    (∀ key, ¬ Relation.TransGen (Precedes scattered) key key) ∧
      ofTrees Dialect.Known.generic scattered = .ok scatteredDrops ∧
      Course (Precedes scattered) (objects scattered) (scatteredDrops.map DropStep.object) [] ∧
      ∀ first second, Precedes scattered first second →
        DropsBefore scatteredDrops first second := by
  have acyclic : ∀ key, ¬ Relation.TransGen (Precedes scattered) key key :=
    acyclic_of_rank (fun key => (scatteredDrops.map (·.object.key)).idxOf key) (by decide +kernel)
  have planned : ofTrees Dialect.Known.generic scattered = .ok scatteredDrops := by
    decide +kernel
  obtain ⟨course, -, kept, -⟩ := plan_takes_first_ready acyclic planned
  exact ⟨acyclic, planned, course, kept⟩

end DropPlan

end SchemaForward
