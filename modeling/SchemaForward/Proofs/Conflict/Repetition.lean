import SchemaForward.Proofs.Conflict.Rounds

/-!
# Plans for repeated trees

A plan is made from the first objects of each key and from the pairs of keys that have to go one
before the other. Trees that only repeat objects and pairs of the trees before them add to neither,
so they change nothing: the same drops are planned in the same order, or planning fails in the same
way. In which copy an object is repeated, how often and where in the trees makes no difference.
-/

namespace SchemaForward

namespace DropPlan

/-- The later trees hold no key that the earlier ones do not hold, and no two different keys are
child and parent in them that are not so in the earlier ones. -/
structure Repeats (earlier later : List ConflictTree) : Prop where
  keys : ∀ object ∈ later.flatMap ConflictTree.objects,
    ∃ known ∈ earlier.flatMap ConflictTree.objects, known.key = object.key
  links : ∀ link ∈ later.flatMap ConflictTree.links, link.1.key ≠ link.2.key →
    ∃ known ∈ earlier.flatMap ConflictTree.links,
      known.1.key = link.1.key ∧ known.2.key = link.2.key

/-- Trees repeat themselves. -/
theorem Repeats.refl (trees : List ConflictTree) : Repeats trees trees where
  keys object member := ⟨object, member, rfl⟩
  links link member _ := ⟨link, member, rfl, rfl⟩

/-- Nothing is met first among objects whose keys were met before. -/
theorem firstMet_eq_nil {met : List ObjectKey} {objects : List DatabaseObject}
    (known : ∀ object ∈ objects, object.key ∈ met) : firstMet met objects = [] := by
  induction objects with
  | nil => rfl
  | cons object rest inductionHypothesis =>
    obtain ⟨isMet, others⟩ := List.forall_mem_cons.mp known
    rw [firstMet, if_pos (List.contains_iff_mem.mpr isMet)]
    exact inductionHypothesis others

/-- Objects of known keys behind others change nothing in what is met first. A key may be known from
before or from the objects in front; one of them is met at the place where this matters, and the
induction carries it along. -/
theorem firstMet_append {met : List ObjectKey} {front back : List DatabaseObject}
    (known : ∀ object ∈ back, object.key ∈ met ∨ object.key ∈ front.map DatabaseObject.key) :
    firstMet met (front ++ back) = firstMet met front := by
  induction front generalizing met with
  | nil => exact firstMet_eq_nil fun object member => (known object member).resolve_right (by simp)
  | cons head rest inductionHypothesis =>
    rw [List.cons_append, firstMet, firstMet]
    split
    · rename_i isMet
      refine inductionHypothesis fun object member => ?_
      rcases known object member with before | inFront
      · exact Or.inl before
      · rcases List.mem_cons.mp inFront with isHead | inRest
        · exact Or.inl (isHead ▸ List.contains_iff_mem.mp isMet)
        · exact Or.inr inRest
    · refine congrArg (head :: ·) (inductionHypothesis fun object member => ?_)
      rcases known object member with before | inFront
      · exact Or.inl (List.mem_cons_of_mem _ before)
      · rcases List.mem_cons.mp inFront with isHead | inRest
        · exact Or.inl (isHead ▸ List.mem_cons_self)
        · exact Or.inr inRest

/-- An order only depends on what has to go before the objects that are ordered. -/
theorem order_congr {precedences others : List Precedence} {waiting : List DatabaseObject}
    (same : ∀ first, ∀ second ∈ waiting,
      (first, second.key) ∈ precedences ↔ (first, second.key) ∈ others) :
    order precedences waiting = order others waiting := by
  obtain ⟨_, course⟩ := exists_course precedences waiting
  obtain ⟨_, otherCourse⟩ := exists_course others waiting
  exact (otherCourse.unique (course.congr same)).1

section Repeats

variable {earlier later : List ConflictTree}

/-- Trees that repeat others have no further objects. -/
theorem Repeats.objects_append (repeated : Repeats earlier later) :
    objects (earlier ++ later) = objects earlier := by
  rw [objects, objects, List.flatMap_append]
  refine firstMet_append fun object member => Or.inr ?_
  obtain ⟨known, inEarlier, sameKey⟩ := repeated.keys object member
  exact sameKey ▸ List.mem_map_of_mem inEarlier

/-- Trees that repeat others ask for no further precedence. Each link of theirs is one of the others
by its keys, and their objects are among those that are dropped anyway, so that no table gets
another owner. -/
theorem Repeats.precedes_append_iff (repeated : Repeats earlier later) {first second : ObjectKey} :
    Precedes (earlier ++ later) first second ↔ Precedes earlier first second := by
  constructor
  · intro precedes
    cases precedes with
    | below inTrees linked differ =>
      rcases List.mem_append.mp inTrees with inEarlier | inLater
      · exact .below inEarlier linked differ
      · obtain ⟨⟨child, parent⟩, isKnown, sameChild, sameParent⟩ :=
          repeated.links _ (List.mem_flatMap_of_mem inLater linked) differ
        obtain ⟨tree, inEarlier, isLinked⟩ := List.mem_flatMap.mp isKnown
        rw [← sameChild, ← sameParent] at differ ⊢
        exact .below inEarlier isLinked differ
    | owned planned tablePlanned isOwned isTable on named schemas =>
      rw [repeated.objects_append] at planned tablePlanned
      exact .owned planned tablePlanned isOwned isTable on named schemas
  · intro precedes
    cases precedes with
    | below inTrees linked differ =>
      exact .below (List.mem_append_left later inTrees) linked differ
    | owned planned tablePlanned isOwned isTable on named schemas =>
      rw [← repeated.objects_append] at planned tablePlanned
      exact .owned planned tablePlanned isOwned isTable on named schemas

/-- Trees that repeat others leave the order of what is dropped alone. -/
theorem Repeats.order_append (repeated : Repeats earlier later) :
    order (precedences (earlier ++ later)) (objects (earlier ++ later)) =
      order (precedences earlier) (objects earlier) := by
  rw [repeated.objects_append]
  refine order_congr fun first second isPlanned => ?_
  have inKeys : second.key ∈ (objects earlier).map DatabaseObject.key :=
    List.mem_map_of_mem isPlanned
  rw [mem_precedences_iff inKeys, ← repeated.precedes_append_iff, mem_precedences_iff]
  rwa [repeated.objects_append]

end Repeats

/-- Trees that repeat objects and pairs of the trees before them change no plan: the same drops are
planned in the same order, or planning fails with the same error. In particular nothing changes if
all trees are given twice. -/
theorem plan_ignores_repetition (dialect : Dialect) (trees : List ConflictTree) :
    (∀ later, Repeats trees later →
      ofTrees dialect (trees ++ later) = ofTrees dialect trees) ∧
    ofTrees dialect (trees ++ trees) = ofTrees dialect trees := by
  have unchanged : ∀ later, Repeats trees later →
      ofTrees dialect (trees ++ later) = ofTrees dialect trees := by
    intro later repeated
    rw [ofTrees, ofTrees, repeated.order_append]
  exact ⟨unchanged, unchanged trees (Repeats.refl trees)⟩

/-- A table with one that depends on it, which has an index and a key. -/
def layered : List ConflictTree := [
  .node (FixedCatalogue.tableOf "A") [
    .node (FixedCatalogue.tableOf "B") [.node ⟨.index, "I", some "B", none⟩ []],
    .node ⟨.constraint, "K", some "B", none⟩ []]]

/-- The dependent table once more, below itself and above its index, and the key without a table. -/
def layeredAgain : List ConflictTree := [
  .node (FixedCatalogue.tableOf "b") [
    .node (FixedCatalogue.tableOf "B") [], .node ⟨.index, "i", none, none⟩ []],
  .node ⟨.constraint, "k", none, none⟩ []]

/-- The copies of the layered objects change nothing in their plan, though the key could not be
dropped if its copy stood for it. -/
theorem layered_ignores_repetition :
    Repeats layered layeredAgain ∧
      ofTrees Dialect.Known.generic layered = .ok [
        ⟨⟨.index, "I", some "B", none⟩, "DROP INDEX I"⟩,
        ⟨⟨.constraint, "K", some "B", none⟩, "ALTER TABLE B DROP CONSTRAINT K"⟩,
        ⟨FixedCatalogue.tableOf "B", "DROP TABLE B"⟩,
        ⟨FixedCatalogue.tableOf "A", "DROP TABLE A"⟩] ∧
      ofTrees Dialect.Known.generic (layered ++ layeredAgain) =
        ofTrees Dialect.Known.generic layered := by
  have repeated : Repeats layered layeredAgain := ⟨by decide +kernel, by decide +kernel⟩
  exact ⟨repeated, by decide +kernel,
    (plan_ignores_repetition Dialect.Known.generic layered).1 layeredAgain repeated⟩

end DropPlan

end SchemaForward
