import SchemaForward.Proofs.Conflict.Scan

/-!
# Drops and reported dependencies

What a target reports as a dependent of a planned object is planned as well, and where a conflict
tree has it as a child of that object it is dropped first. But a tree holds each key once: a
dependent that was collected before, under another object, is not noted a second time, and the plan
does not know of that dependency. If neither dependencies nor ownership have a cycle, the plan keeps
to all reported dependencies exactly if it is the one that knowing all of them would have led to.

A table with two dependents, the second of which also depends on the first, is enough to tell the
plans apart.
-/

namespace SchemaForward

namespace Catalogue

variable {σ : Type} {target : Target σ} (catalogue : Catalogue target)

/-- The object of the first key has to be dropped before that of the second: the target reports it
as a dependent, or it is an index or a constraint of that table. -/
def Requires (first second : ObjectKey) : Prop :=
  (first ≠ second ∧ catalogue.Reports second first) ∨
    ∃ object, catalogue.Mentions object ∧ object.key = first ∧
      DropPlan.ownerKey? object = some second

/-- Neither dependencies nor ownership, nor both together, lead from a key back to it. -/
def Acyclic : Prop :=
  ∀ key, ¬ Relation.TransGen catalogue.Requires key key

/-- The precedences that reported dependents of objects call for. -/
def reported (objects : List DatabaseObject) : List Precedence :=
  objects.flatMap fun object =>
    ((catalogue.dependents object).map fun dependent => (dependent.key, object.key)).filter
      fun precedence => precedence.1 != precedence.2

variable {catalogue}

/-- A precedence is reported if some object has the second key and some dependent of it the first.
The keys differ, since an object that depends on itself is in nobody's way. -/
theorem mem_reported {objects : List DatabaseObject} {first second : ObjectKey} :
    (first, second) ∈ catalogue.reported objects ↔
      ∃ object ∈ objects, ∃ dependent ∈ catalogue.dependents object,
        dependent.key = first ∧ object.key = second ∧ first ≠ second := by
  simp only [reported, List.mem_flatMap, List.mem_filter, List.mem_map, Prod.mk.injEq,
    bne_iff_ne, ne_eq]
  constructor
  · rintro ⟨object, member, ⟨dependent, inList, rfl, rfl⟩, differ⟩
    exact ⟨object, member, dependent, inList, rfl, rfl, differ⟩
  · rintro ⟨object, member, dependent, inList, rfl, rfl, differ⟩
    exact ⟨object, member, ⟨dependent, inList, rfl, rfl⟩, differ⟩

/-- Precedences that the target calls for have no cycle if it has none. -/
theorem Acyclic.of_requires (acyclic : catalogue.Acyclic) {precedences : List Precedence}
    (required : ∀ first second, (first, second) ∈ precedences → catalogue.Requires first second) :
    DropPlan.Acyclic precedences :=
  fun key cycle => acyclic key (Relation.TransGen.mono required key key cycle)

/-- A dependent that is reported is required to go first. -/
theorem requires_of_mem_reported {objects : List DatabaseObject} {first second : ObjectKey}
    (member : (first, second) ∈ catalogue.reported objects) : catalogue.Requires first second := by
  obtain ⟨object, -, dependent, inList, rfl, rfl, differ⟩ := mem_reported.mp member
  exact Or.inl ⟨differ, reports_of_mem inList⟩

/-- The precedences of conflict trees are all required. Each comes from a dependency that the
catalogue reports, or from a table that owns an object; so what has no cycle among the requirements
has none among the precedences. -/
theorem Conflicts.requires {subjects : List DatabaseObject} {trees : List ConflictTree}
    (conflicts : catalogue.Conflicts subjects trees) {first second : ObjectKey}
    (member : (first, second) ∈ DropPlan.precedences trees) : catalogue.Requires first second := by
  rcases List.mem_append.mp member with dependence | ownership
  · simp only [DropPlan.dependencePrecedences, List.mem_filter, List.mem_map, List.mem_flatMap,
      Prod.mk.injEq, bne_iff_ne, ne_eq] at dependence
    obtain ⟨⟨link, ⟨tree, inTrees, inLinks⟩, rfl, rfl⟩, differ⟩ := dependence
    exact Or.inl ⟨differ, reports_of_mem ((conflicts.closed tree inTrees).linked link inLinks)⟩
  · simp only [DropPlan.ownerPrecedences, List.mem_filterMap, Option.map_eq_some_iff,
      Prod.mk.injEq] at ownership
    obtain ⟨object, isObject, owner, isOwner, rfl, rfl⟩ := ownership
    obtain ⟨tree, inTrees, inTree⟩ := List.mem_flatMap.mp (DropPlan.objects_subset trees isObject)
    exact Or.inr ⟨object, conflicts.mentions inTrees object inTree, rfl, isOwner⟩

end Catalogue

namespace FixedCatalogue

/-- A fixed catalogue has no cycle if keys can be ranked so that dependents and what is owned rank
below what they depend on and what owns them. -/
theorem acyclic_of_rank {fixed : FixedCatalogue} (rank : ObjectKey → Nat)
    (dependencies : ∀ link ∈ fixed.dependencies, link.2.key ≠ link.1.key →
      rank link.2.key < rank link.1.key)
    (owners : ∀ object ∈ fixed.objects ++ fixed.dependencies.map (·.2),
      ∀ owner, DropPlan.ownerKey? object = some owner → rank object.key < rank owner) :
    fixed.catalogue.Acyclic := by
  have ascends : ∀ first second, fixed.catalogue.Requires first second →
      rank first < rank second := by
    rintro first second (⟨differ, reported⟩ | ⟨object, mentioned, rfl, isOwner⟩)
    · obtain ⟨link, member, same⟩ := List.mem_map.mp (reports_iff.mp reported)
      obtain ⟨rfl, rfl⟩ := Prod.mk.inj same
      exact dependencies link member differ
    · exact owners object (mem_of_mentions mentioned) second isOwner
  have ascendsAlong : ∀ first second, Relation.TransGen fixed.catalogue.Requires first second →
      rank first < rank second := by
    intro first second chain
    induction chain with
    | single required => exact ascends _ _ required
    | tail _ required inductionHypothesis => exact inductionHypothesis.trans (ascends _ _ required)
  exact fun key cycle => lt_irrefl _ (ascendsAlong key key cycle)

/-- The base table has two dependents, reported in the given order. Between them, the top table
depends on the middle one. -/
def crossed (first second : String) : FixedCatalogue where
  objects := ["base", "middle", "top"].map tableOf
  dependencies := [(tableOf "base", tableOf first), (tableOf "base", tableOf second),
    (tableOf "middle", tableOf "top")]

/-- The place of a key of the crossed catalogue, the top table lowest. -/
def crossedRank (key : ObjectKey) : Nat :=
  if key = (tableOf "base").key then 2 else if key = (tableOf "middle").key then 1 else 0

/-- The drops of tables in order. -/
def dropsOf (names : List String) : List DropStep :=
  names.map fun name => ⟨tableOf name, "DROP TABLE " ++ name⟩

end FixedCatalogue

namespace DropPlan

/-- The drop of the first key comes before that of the second. -/
def DropsBefore (steps : List DropStep) (first second : ObjectKey) : Prop :=
  [first, second].Sublist (steps.map (·.object.key))

instance (steps : List DropStep) (first second : ObjectKey) :
    Decidable (DropsBefore steps first second) :=
  inferInstanceAs (Decidable ([first, second].Sublist (steps.map (·.object.key))))

end DropPlan

namespace Clearance

variable {σ : Type} {target : Target σ} {catalogue : Catalogue target}

/-- What is reported as a dependent of a planned object is planned too. -/
theorem exists_step_of_dependent {clearance : Clearance} {subjects : List DatabaseObject}
    (conflicts : catalogue.Conflicts subjects clearance.conflicts) {steps : List DropStep}
    (planned : clearance.plan = .ok steps) {step : DropStep} (member : step ∈ steps)
    {dependent : DatabaseObject} (reported : dependent ∈ catalogue.dependents step.object) :
    dependent.key ∈ steps.map (·.object.key) := by
  have inKeys : step.object.key ∈ steps.map (·.object.key) := List.mem_map_of_mem member
  rw [mem_keys_plan conflicts planned] at inKeys ⊢
  obtain ⟨tree, inTrees, reached⟩ := inKeys
  exact ⟨tree, inTrees, reached.tail (Catalogue.reports_of_mem reported)⟩

/-- If a target has no cycle, the objects of a plan are in an order that all precedences of its
trees are respected by. -/
theorem respects_plan {clearance : Clearance} {subjects : List DatabaseObject}
    (conflicts : catalogue.Conflicts subjects clearance.conflicts) (acyclic : catalogue.Acyclic)
    {steps : List DropStep} (planned : clearance.plan = .ok steps) :
    DropPlan.Respects (DropPlan.precedences clearance.conflicts) (steps.map DropStep.object) := by
  rw [DropPlan.map_object_ofTrees planned]
  exact DropPlan.order_respects (acyclic.of_requires fun _ _ => conflicts.requires) _
    (DropPlan.nodup_keys_objects _)

/-- The keys of a plan are distinct. -/
theorem nodup_keys_plan {clearance : Clearance} {steps : List DropStep}
    (planned : clearance.plan = .ok steps) :
    ((steps.map DropStep.object).map DatabaseObject.key).Nodup := by
  have perm := DropPlan.order_perm (DropPlan.precedences clearance.conflicts) _
    (DropPlan.nodup_keys_objects clearance.conflicts)
  rw [DropPlan.map_object_ofTrees planned]
  exact (perm.map DatabaseObject.key).nodup_iff.mpr (DropPlan.nodup_keys_objects _)

/-- A child in a conflict tree is dropped before its parent. The two have different keys, because no
tree holds a key twice, and so the link is a precedence. The plan respects it, as without cycles no
object is ever forced. -/
theorem dropsBefore_of_mem_links {clearance : Clearance} {subjects : List DatabaseObject}
    (conflicts : catalogue.Conflicts subjects clearance.conflicts) (acyclic : catalogue.Acyclic)
    {steps : List DropStep} (planned : clearance.plan = .ok steps) {tree : ConflictTree}
    (inTrees : tree ∈ clearance.conflicts) {link : DatabaseObject × DatabaseObject}
    (member : link ∈ tree.links) : DropPlan.DropsBefore steps link.1.key link.2.key := by
  have inOrder : [link.2.key, link.1.key].Sublist (tree.objects.map DatabaseObject.key) := by
    simpa using (ConflictTree.parent_child_sublist member).map DatabaseObject.key
  have differ : link.2.key ≠ link.1.key := by
    have pair := (conflicts.closed tree inTrees).distinct.sublist inOrder
    simpa using pair
  have precedence : (link.1.key, link.2.key) ∈ DropPlan.precedences clearance.conflicts := by
    refine List.mem_append_left _ (List.mem_filter.mpr ⟨?_, by simpa using differ.symm⟩)
    exact List.mem_map_of_mem (List.mem_flatMap.mpr ⟨tree, inTrees, member⟩)
  have inPlan : ∀ key ∈ tree.objects.map DatabaseObject.key, key ∈ steps.map (·.object.key) :=
    fun key inTree => (DropPlan.mem_keys_ofTrees planned key).mpr ⟨tree, inTrees, inTree⟩
  have ordered := (DropPlan.respects_iff (nodup_keys_plan planned)
    (acyclic.of_requires fun _ _ => conflicts.requires).irreflexive).mp
    (respects_plan conflicts acyclic planned)
  rw [List.map_map] at ordered
  exact ordered link.1.key link.2.key precedence (inPlan _ (inOrder.subset (by simp)))
    (inPlan _ (inOrder.subset (by simp)))

/-- The plan keeps to all dependencies that the target reports for planned objects exactly if it is
the one that all of them together would lead to. -/
theorem keeps_reported_iff {clearance : Clearance} {subjects : List DatabaseObject}
    (conflicts : catalogue.Conflicts subjects clearance.conflicts) (acyclic : catalogue.Acyclic)
    {steps : List DropStep} (planned : clearance.plan = .ok steps) :
    (∀ step ∈ steps, ∀ dependent ∈ catalogue.dependents step.object,
      dependent.key ≠ step.object.key →
        DropPlan.DropsBefore steps dependent.key step.object.key) ↔
    DropPlan.order (DropPlan.precedences clearance.conflicts ++
        catalogue.reported (DropPlan.objects clearance.conflicts))
      (DropPlan.objects clearance.conflicts) = steps.map DropStep.object := by
  have required : ∀ first second, (first, second) ∈ DropPlan.precedences clearance.conflicts ++
      catalogue.reported (DropPlan.objects clearance.conflicts) →
      catalogue.Requires first second := by
    intro first second member
    rcases List.mem_append.mp member with known | reported
    · exact conflicts.requires known
    · exact Catalogue.requires_of_mem_reported reported
  have acyclicAll := acyclic.of_requires required
  have distinct := DropPlan.nodup_keys_objects clearance.conflicts
  have inOrder := DropPlan.map_object_ofTrees planned
  have perm : (steps.map DropStep.object).Perm (DropPlan.objects clearance.conflicts) := by
    rw [inOrder]
    exact DropPlan.order_perm _ _ distinct
  have irreflexive : ∀ key, (key, key) ∉
      catalogue.reported (DropPlan.objects clearance.conflicts) :=
    (acyclicAll.subset (List.subset_append_right _ _)).irreflexive
  rw [inOrder, ← DropPlan.respects_iff_order_append acyclicAll _ distinct, ← inOrder,
    DropPlan.respects_iff (nodup_keys_plan planned) irreflexive]
  constructor
  · intro kept first second member _ _
    obtain ⟨object, isPlanned, dependent, inList, rfl, rfl, differ⟩ :=
      Catalogue.mem_reported.mp member
    obtain ⟨step, inSteps, rfl⟩ := List.mem_map.mp (perm.mem_iff.mpr isPlanned)
    rw [List.map_map]
    exact kept step inSteps dependent inList differ
  · intro ordered step inSteps dependent inList differ
    have isPlanned : step.object ∈ DropPlan.objects clearance.conflicts :=
      perm.mem_iff.mp (List.mem_map_of_mem inSteps)
    have member := Catalogue.mem_reported.mpr
      ⟨step.object, isPlanned, dependent, inList, rfl, rfl, differ⟩
    rw [List.map_map] at ordered
    exact ordered _ _ member (exists_step_of_dependent conflicts planned inSteps inList)
      (List.mem_map_of_mem inSteps)

/-- What a finished scan without cycles plans to drop holds every reported dependent of what it
drops, and drops the children in conflict trees before their parents. It drops all reported
dependents before what they depend on exactly if knowing all of them would not change the order. -/
theorem plan_keeps_known_dependencies (catalogue : Catalogue target) (acyclic : catalogue.Acyclic)
    (dialect : Dialect) (statements : List Statement) (session : Session σ)
    (holds : catalogue.holds session.target) (steps : List DropStep) :
    let result := (ofScript dialect statements).find target session
    let trees := result.2.1.conflicts
    result.1 = .finished () → result.2.1.plan = .ok steps →
    (∀ step ∈ steps, ∀ dependent ∈ catalogue.dependents step.object,
      dependent.key ∈ steps.map (·.object.key)) ∧
    (∀ tree ∈ trees, ∀ link ∈ tree.links,
      DropPlan.DropsBefore steps link.1.key link.2.key) ∧
    ((∀ step ∈ steps, ∀ dependent ∈ catalogue.dependents step.object,
        dependent.key ≠ step.object.key →
          DropPlan.DropsBefore steps dependent.key step.object.key) ↔
      DropPlan.order
          (DropPlan.precedences trees ++ catalogue.reported (DropPlan.objects trees))
          (DropPlan.objects trees) = steps.map DropStep.object) := by
  intro result trees finished planned
  have ends := find_ends catalogue dialect statements session holds
  rw [show ((ofScript dialect statements).find target session).1 = _ from finished] at ends
  have conflicts : catalogue.Conflicts (ofScript dialect statements).subjects trees := ends
  refine ⟨?_, ?_, ?_⟩
  · intro step member dependent reported
    exact exists_step_of_dependent conflicts planned member reported
  · intro tree inTrees link member
    exact dropsBefore_of_mem_links conflicts acyclic planned inTrees member
  · exact keeps_reported_iff conflicts acyclic planned

/-- If the top table is reported before the middle one, the plan keeps to all dependencies. That
between the two is lost from the tree here as well, but the one that has to go first is also the one
that was met first. -/
theorem plan_keeps_crossed_dependencies :
    let fixed := FixedCatalogue.crossed "top" "middle"
    let result := (ofScript Dialect.Known.generic (FixedCatalogue.creationOf "base")).find
      FixedCatalogue.calls (Session.start fixed)
    fixed.catalogue.Acyclic ∧
      ∃ steps : List DropStep, result.2.1.plan = .ok steps ∧
        ∀ step ∈ steps, ∀ dependent ∈ fixed.catalogue.dependents step.object,
          dependent.key ≠ step.object.key →
            DropPlan.DropsBefore steps dependent.key step.object.key := by
  intro fixed result
  have acyclic : fixed.catalogue.Acyclic :=
    FixedCatalogue.acyclic_of_rank FixedCatalogue.crossedRank (by decide) (by decide)
  have planned : result.2.1.plan = .ok (FixedCatalogue.dropsOf ["top", "middle", "base"]) := by
    decide +kernel
  have kept := plan_keeps_known_dependencies fixed.catalogue acyclic Dialect.Known.generic
    (FixedCatalogue.creationOf "base") (Session.start fixed) ⟨rfl, rfl, rfl⟩
    (FixedCatalogue.dropsOf ["top", "middle", "base"])
  have finished : result.1 = .finished () := by
    decide +kernel
  refine ⟨acyclic, _, planned, (kept finished planned).2.2.mpr ?_⟩
  decide +kernel

/-- If the middle table is reported before the top one, the plan drops them in that order, although
the top table depends on the middle one and nothing is in a cycle. -/
theorem plan_loses_crossed_dependency :
    let fixed := FixedCatalogue.crossed "middle" "top"
    let result := (ofScript Dialect.Known.generic (FixedCatalogue.creationOf "base")).find
      FixedCatalogue.calls (Session.start fixed)
    fixed.catalogue.Acyclic ∧ result.1 = .finished () ∧
      ∃ steps : List DropStep, result.2.1.plan = .ok steps ∧
        ¬ ∀ step ∈ steps, ∀ dependent ∈ fixed.catalogue.dependents step.object,
          dependent.key ≠ step.object.key →
            DropPlan.DropsBefore steps dependent.key step.object.key := by
  intro fixed result
  have planned : result.2.1.plan = .ok (FixedCatalogue.dropsOf ["middle", "top", "base"]) := by
    decide +kernel
  have finished : result.1 = .finished () := by
    decide +kernel
  refine ⟨FixedCatalogue.acyclic_of_rank FixedCatalogue.crossedRank (by decide) (by decide),
    finished, _, planned, ?_⟩
  decide +kernel

end Clearance

end SchemaForward
