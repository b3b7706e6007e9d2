import Mathlib.Data.List.Nodup
import Mathlib.Logic.Relation
import Mathlib.Order.WellFoundedSet
import SchemaForward.Conflict.Plan
import SchemaForward.Proofs.Conflict.Tree

/-!
# The order of a drop plan

A plan drops each object of its trees once: the order is a rearrangement of the objects first met,
and their keys are those of all objects of the trees. If the precedences have no cycle, some pending
object is always ready, so cycles are never broken and nothing is dropped before what has to precede
it.

The rule that picks the first ready object sees precedences only through readiness. Precedences that
the order happens to respect can therefore be added without changing it, and adding others does
change it: an order without cycles respects exactly those that it would also come to with them.
-/

namespace SchemaForward

namespace DropPlan

/-- The first met of objects have each key once, and all keys that were not met before. An object is
passed over if its key was met before, whether outside the list or in it. The induction is on the
list, with one more key met at each object that is kept. -/
theorem firstMet_spec (met : List ObjectKey) (objects : List DatabaseObject) :
    firstMet met objects ⊆ objects ∧
      ((firstMet met objects).map DatabaseObject.key).Nodup ∧
      ∀ key, key ∈ (firstMet met objects).map DatabaseObject.key ↔
        key ∈ objects.map DatabaseObject.key ∧ key ∉ met := by
  induction objects generalizing met with
  | nil => simp [firstMet]
  | cons object rest inductionHypothesis =>
    by_cases known : object.key ∈ met
    · obtain ⟨subset, distinct, keys⟩ := inductionHypothesis met
      have skipped : firstMet met (object :: rest) = firstMet met rest := by
        simp [firstMet, known]
      rw [skipped]
      refine ⟨fun _ member => List.mem_cons_of_mem _ (subset member), distinct, fun key => ?_⟩
      rw [keys, List.map_cons, List.mem_cons]
      constructor
      · exact fun ⟨inRest, unmet⟩ => ⟨Or.inr inRest, unmet⟩
      · rintro ⟨rfl | inRest, unmet⟩
        · exact absurd known unmet
        · exact ⟨inRest, unmet⟩
    · obtain ⟨subset, distinct, keys⟩ := inductionHypothesis (object.key :: met)
      have kept : firstMet met (object :: rest) =
          object :: firstMet (object.key :: met) rest := by
        simp [firstMet, known]
      rw [kept]
      refine ⟨List.cons_subset_cons _ subset, ?_, fun key => ?_⟩
      · rw [List.map_cons, List.nodup_cons]
        exact ⟨fun member => ((keys _).mp member).2 List.mem_cons_self, distinct⟩
      · rw [List.map_cons, List.map_cons, List.mem_cons, List.mem_cons, keys, List.mem_cons]
        by_cases same : key = object.key
        · simp [same, known]
        · simp [same]

/-- The objects of a plan are objects of its trees. -/
theorem objects_subset (trees : List ConflictTree) :
    objects trees ⊆ trees.flatMap ConflictTree.objects :=
  (firstMet_spec [] _).1

/-- No two objects of a plan have the same key. -/
theorem nodup_keys_objects (trees : List ConflictTree) :
    ((objects trees).map DatabaseObject.key).Nodup :=
  (firstMet_spec [] _).2.1

/-- The keys of a plan are those of the objects of its trees. -/
theorem mem_keys_objects (trees : List ConflictTree) (key : ObjectKey) :
    key ∈ (objects trees).map DatabaseObject.key ↔
      ∃ tree ∈ trees, key ∈ tree.objects.map DatabaseObject.key := by
  have keys := (firstMet_spec [] (trees.flatMap ConflictTree.objects)).2.2 key
  rw [objects, keys, List.map_flatMap, List.mem_flatMap]
  simp

/-- Removing an object by its key removes just this object, as keys are distinct. So the objects
that are still to be dropped are one fewer each time, and none is lost. -/
theorem perm_eraseP_key {pending : List DatabaseObject} {object : DatabaseObject}
    (distinct : (pending.map DatabaseObject.key).Nodup) (member : object ∈ pending) :
    pending.Perm (object :: pending.eraseP (·.key == object.key)) := by
  obtain ⟨removed, front, back, -, sameKey, split, erased⟩ :=
    List.exists_of_eraseP (p := (·.key == object.key)) member (by simp)
  have inPending : removed ∈ pending := by
    simp [split]
  have same : removed = object :=
    List.inj_on_of_nodup_map distinct inPending member (eq_of_beq sameKey)
  rw [erased, split, same]
  exact List.perm_middle

/-- What is left after removing an object has distinct keys again. -/
theorem nodup_eraseP_key {pending : List DatabaseObject} (object : DatabaseObject)
    (distinct : (pending.map DatabaseObject.key).Nodup) :
    ((pending.eraseP (·.key == object.key)).map DatabaseObject.key).Nodup :=
  distinct.sublist (List.eraseP_sublist.map _)

/-- Something is dropped next as long as anything is pending. If no object is ready, one of least
rank is taken, and among some objects there always is one. -/
theorem eq_nil_of_next?_eq_none {precedences : List Precedence} {pending : List DatabaseObject}
    (nothing : next? precedences pending = none) : pending = [] := by
  cases pending with
  | nil => rfl
  | cons first rest =>
    rw [next?] at nothing
    split at nothing
    · cases nothing
    · rw [leastPriority?] at nothing
      split at nothing
      · cases nothing
      · split at nothing <;> cases nothing

/-- An order goes on after the object that is next. The rest of it is the order of what is left when
that object is done. -/
theorem order_of_next? {precedences : List Precedence} {pending : List DatabaseObject}
    {object : DatabaseObject} (found : next? precedences pending = some object) :
    order precedences pending =
      object :: order precedences (pending.eraseP (·.key == object.key)) := by
  rw [order]
  split
  · next nothing =>
    rw [found] at nothing
    cases nothing
  · next other foundOther =>
    rw [found] at foundOther
    cases foundOther
    rfl

/-- The order holds every pending object once. -/
theorem order_perm (precedences : List Precedence) (pending : List DatabaseObject)
    (distinct : (pending.map DatabaseObject.key).Nodup) :
    (order precedences pending).Perm pending := by
  fun_induction order precedences pending with
  | case1 pending nothing => rw [eq_nil_of_next?_eq_none nothing]
  | case2 pending object found _shorter inductionHypothesis =>
    refine List.Perm.trans ?_ (perm_eraseP_key distinct (mem_of_next? found)).symm
    exact (inductionHypothesis (nodup_eraseP_key object distinct)).cons object

/-- The drops that were written are for the objects in their order. Writing them down neither
changes the order nor leaves an object out, if it succeeds at all. -/
theorem map_object_drops {dialect : Dialect} {objects : List DatabaseObject}
    {steps : List DropStep} (written : drops dialect objects = .ok steps) :
    steps.map DropStep.object = objects := by
  induction objects generalizing steps with
  | nil =>
    cases written
    rfl
  | cons object rest inductionHypothesis =>
    simp only [drops] at written
    split at written
    · cases written
    · next planned dropped =>
      split at written
      · cases written
      · next others later =>
        cases written
        have same : planned.object = object := by
          simp only [drop] at dropped
          split at dropped <;> cases dropped
          rfl
        rw [List.map_cons, same, inductionHypothesis later]

/-- A plan drops the objects of its trees in their order. -/
theorem map_object_ofTrees {dialect : Dialect} {trees : List ConflictTree}
    {steps : List DropStep} (planned : ofTrees dialect trees = .ok steps) :
    steps.map DropStep.object = order (precedences trees) (objects trees) :=
  map_object_drops planned

/-- The keys of the drops planned for trees are those of the objects of the trees. -/
theorem mem_keys_ofTrees {dialect : Dialect} {trees : List ConflictTree}
    {steps : List DropStep} (planned : ofTrees dialect trees = .ok steps) (key : ObjectKey) :
    key ∈ steps.map (·.object.key) ↔
      ∃ tree ∈ trees, key ∈ tree.objects.map DatabaseObject.key := by
  have perm : (steps.map DropStep.object).Perm (objects trees) := by
    rw [map_object_ofTrees planned]
    exact order_perm _ _ (nodup_keys_objects trees)
  rw [← mem_keys_objects, ← (perm.map DatabaseObject.key).mem_iff, List.map_map]
  rfl

/-- No chain of precedences leads from a key back to it. -/
def Acyclic (precedences : List Precedence) : Prop :=
  ∀ key, ¬ Relation.TransGen (fun first second => (first, second) ∈ precedences) key key

/-- Nothing stands behind an object that it has to precede. -/
def Respects (precedences : List Precedence) (objects : List DatabaseObject) : Prop :=
  objects.Pairwise fun earlier later => (later.key, earlier.key) ∉ precedences

/-- Of two members of a list, one stands before the other. Which of the two it is depends on the
list. With different keys it cannot be one place for both. -/
theorem pair_sublist_or {first second : ObjectKey} {keys : List ObjectKey} (inFirst : first ∈ keys)
    (inSecond : second ∈ keys) (differ : first ≠ second) :
    [first, second].Sublist keys ∨ [second, first].Sublist keys := by
  obtain ⟨front, back, rfl⟩ := List.append_of_mem inFirst
  have elsewhere : second ∈ front ∨ second ∈ back := by
    simpa [differ.symm] using inSecond
  rcases elsewhere with before | behind
  · refine Or.inr (List.Sublist.append (List.singleton_sublist.mpr before) ?_)
    exact List.singleton_sublist.mpr List.mem_cons_self
  · refine Or.inl (List.Sublist.trans ?_ (List.sublist_append_right front _))
    exact (List.singleton_sublist.mpr behind).cons_cons first

/-- No two members of a list without repetitions stand before each other. So an order that keeps a
precedence does not at the same time go against it. -/
theorem not_pair_sublist_both {first second : ObjectKey} {keys : List ObjectKey}
    (distinct : keys.Nodup) (forward : [first, second].Sublist keys) :
    ¬ [second, first].Sublist keys := by
  intro backward
  induction keys with
  | nil => cases forward
  | cons key rest inductionHypothesis =>
    obtain ⟨fresh, distinctRest⟩ := List.nodup_cons.mp distinct
    cases forward with
    | cons _ forwardRest =>
      cases backward with
      | cons _ backwardRest => exact inductionHypothesis distinctRest forwardRest backwardRest
      | cons_cons _ _ => exact fresh (forwardRest.subset (by simp))
    | cons_cons _ secondRest =>
      cases backward with
      | cons _ backwardRest => exact fresh (backwardRest.subset (by simp))
      | cons_cons _ _ => exact fresh (secondRest.subset (by simp))

/-- Objects respect precedences exactly if, of any two that a precedence joins, the first stands
before the second. -/
theorem respects_iff {precedences : List Precedence} {objects : List DatabaseObject}
    (distinct : (objects.map DatabaseObject.key).Nodup)
    (irreflexive : ∀ key, (key, key) ∉ precedences) :
    Respects precedences objects ↔ ∀ first second, (first, second) ∈ precedences →
      first ∈ objects.map DatabaseObject.key → second ∈ objects.map DatabaseObject.key →
      [first, second].Sublist (objects.map DatabaseObject.key) := by
  have onKeys : Respects precedences objects ↔ (objects.map DatabaseObject.key).Pairwise
      fun earlier later => (later, earlier) ∉ precedences := by
    rw [List.pairwise_map, Respects]
  rw [onKeys, List.pairwise_iff_forall_sublist]
  constructor
  · intro respected first second precedence inFirst inSecond
    have differ : first ≠ second := by
      rintro rfl
      exact irreflexive first precedence
    rcases pair_sublist_or inFirst inSecond differ with forward | backward
    · exact forward
    · exact absurd precedence (respected backward)
  · intro ordered earlier later inOrder precedence
    have backward := ordered later earlier precedence (inOrder.subset (by simp))
      (inOrder.subset (by simp))
    exact not_pair_sublist_both distinct inOrder backward

/-- Precedences without a cycle join no key to itself. -/
theorem Acyclic.irreflexive {precedences : List Precedence} (acyclic : Acyclic precedences)
    (key : ObjectKey) : (key, key) ∉ precedences :=
  fun precedence => acyclic key (Relation.TransGen.single precedence)

/-- Fewer precedences have no cycle either. -/
theorem Acyclic.subset {fewer more : List Precedence} (acyclic : Acyclic more)
    (subset : fewer ⊆ more) : Acyclic fewer :=
  fun key cycle =>
    acyclic key (Relation.TransGen.mono (fun _ _ member => subset member) key key cycle)

/-- An object is ready if no pending object has to precede it. -/
theorem isReady_iff {precedences : List Precedence} {pending : List DatabaseObject}
    {object : DatabaseObject} :
    isReady precedences pending object = true ↔
      ∀ other ∈ pending, (other.key, object.key) ∉ precedences := by
  simp [isReady]

/-- Without a cycle some pending object is ready: chains of precedences order the finitely many
pending objects strictly, and a least one among them is preceded by none. -/
theorem exists_ready {precedences : List Precedence} (acyclic : Acyclic precedences)
    {pending : List DatabaseObject} (something : pending ≠ []) :
    ∃ object ∈ pending, isReady precedences pending object = true := by
  let precedes (first second : DatabaseObject) : Prop :=
    Relation.TransGen (fun first second => (first, second) ∈ precedences) first.key second.key
  have strict : IsStrictOrder DatabaseObject precedes :=
    { irrefl := fun object => acyclic object.key
      trans := fun _ _ _ => Relation.TransGen.trans }
  have founded : {object | object ∈ pending}.WellFoundedOn precedes :=
    (List.finite_toSet pending).wellFoundedOn
  obtain ⟨first, member⟩ := List.exists_mem_of_ne_nil pending something
  obtain ⟨⟨least, isPending⟩, -, least_of_all⟩ :=
    WellFounded.has_min founded Set.univ ⟨⟨first, member⟩, trivial⟩
  refine ⟨least, isPending, isReady_iff.mpr fun other inPending precedence => ?_⟩
  exact least_of_all ⟨other, inPending⟩ trivial (Relation.TransGen.single precedence)

/-- Without a cycle, the first ready object is next. Without a cycle some object is always ready, so
the rule for objects that wait for each other is never used. -/
theorem next?_eq_find? {precedences : List Precedence} (acyclic : Acyclic precedences)
    (pending : List DatabaseObject) :
    next? precedences pending = pending.find? (isReady precedences pending) := by
  rw [next?]
  cases found : pending.find? (isReady precedences pending) with
  | some object => rfl
  | none =>
    have empty : pending = [] := by
      by_contra something
      obtain ⟨object, member, ready⟩ := exists_ready acyclic something
      exact List.find?_eq_none.mp found object member ready
    rw [empty]
    rfl

/-- Without a cycle, an order respects the precedences it was made from. Each object is taken when
nothing that has to go before it is left, and so all of that has gone before. -/
theorem order_respects {precedences : List Precedence} (acyclic : Acyclic precedences)
    (pending : List DatabaseObject) (distinct : (pending.map DatabaseObject.key).Nodup) :
    Respects precedences (order precedences pending) := by
  fun_induction order precedences pending with
  | case1 pending nothing => exact List.Pairwise.nil
  | case2 pending object found _shorter inductionHypothesis =>
    have ready : isReady precedences pending object = true := by
      rw [next?_eq_find? acyclic] at found
      exact List.find?_some found
    have distinctRest := nodup_eraseP_key object distinct
    refine List.pairwise_cons.mpr ⟨fun later member => ?_, inductionHypothesis distinctRest⟩
    have isPending : later ∈ pending :=
      List.mem_of_mem_eraseP ((order_perm _ _ distinctRest).mem_iff.mp member)
    exact isReady_iff.mp ready later isPending

/-- Precedences that an order respects can be added without changing it. What was not ready does not
become so, and what was next is still ready: all that would have to precede it by the new
precedences comes behind it, which it does not. -/
theorem order_append {precedences added : List Precedence}
    (acyclic : Acyclic (precedences ++ added)) (pending : List DatabaseObject)
    (distinct : (pending.map DatabaseObject.key).Nodup)
    (respected : Respects added (order precedences pending)) :
    order (precedences ++ added) pending = order precedences pending := by
  have acyclicBefore : Acyclic precedences :=
    acyclic.subset (List.subset_append_left precedences added)
  fun_induction order precedences pending with
  | case1 pending nothing =>
    rw [eq_nil_of_next?_eq_none nothing, order]
    rfl
  | case2 pending object found _shorter inductionHypothesis =>
    have distinctRest := nodup_eraseP_key object distinct
    obtain ⟨behind, respectedRest⟩ := List.pairwise_cons.mp respected
    rw [next?_eq_find? acyclicBefore] at found
    have stillReady : isReady (precedences ++ added) pending object = true := by
      refine isReady_iff.mpr fun other isPending precedence => ?_
      rcases List.mem_append.mp precedence with old | new
      · exact isReady_iff.mp (List.find?_some found) other isPending old
      · rcases List.mem_cons.mp
          ((perm_eraseP_key distinct (List.mem_of_find?_eq_some found)).mem_iff.mp isPending)
          with same | isLater
        · rw [same] at precedence
          exact acyclic.irreflexive object.key precedence
        · exact behind other ((order_perm _ _ distinctRest).mem_iff.mpr isLater) new
    have same : next? (precedences ++ added) pending = some object := by
      rw [next?_eq_find? acyclic]
      obtain ⟨-, front, back, split, unready⟩ := List.find?_eq_some_iff_append.mp found
      refine List.find?_eq_some_iff_append.mpr ⟨stillReady, front, back, split, ?_⟩
      intro other inFront
      have notBefore := unready other inFront
      simp only [Bool.not_eq_true', Bool.eq_false_iff, ne_eq, isReady_iff] at notBefore ⊢
      exact fun ready => notBefore fun later isPending old =>
        ready later isPending (List.mem_append_left added old)
    rw [order_of_next? same, inductionHypothesis distinctRest respectedRest]

/-- An order without cycles respects further precedences exactly if it stays the same with them. If
the order already keeps to the further ones, they never make an object wait at the moment it is
taken; and an order made with them respects them. -/
theorem respects_iff_order_append {precedences added : List Precedence}
    (acyclic : Acyclic (precedences ++ added)) (pending : List DatabaseObject)
    (distinct : (pending.map DatabaseObject.key).Nodup) :
    Respects added (order precedences pending) ↔
      order (precedences ++ added) pending = order precedences pending := by
  constructor
  · exact order_append acyclic pending distinct
  · intro same
    have respected := order_respects acyclic pending distinct
    rw [same] at respected
    exact respected.imp fun unordered member => unordered (List.mem_append_right precedences member)

end DropPlan

end SchemaForward
