import SchemaForward.Proofs.Conflict.FirstReady

/-!
# Plans with cycles

Where everything that is left waits for something, an object of least rank is forced, on a cycle or
not. So a precedence may be given up although it is on no cycle: it is enough that a cycle leads to
it. Precedences of objects that no cycle leads to are always kept. Those on no cycle are all kept
exactly if each forced object is itself required, by whatever chain, to go before all that it waits
for, and this is so whenever the cycles lead to nothing but themselves.
-/

namespace SchemaForward

namespace DropPlan

variable {dialect : Dialect} {trees : List ConflictTree} {steps : List DropStep}

/-- The drops keep all precedences that lie on no cycle. -/
def KeepsOffCycle (trees : List ConflictTree) (steps : List DropStep) : Prop :=
  ∀ first second, Precedes trees first second →
    ¬ Relation.TransGen (Precedes trees) second first → DropsBefore steps first second

/-- What no cycle leads to is dropped before all that it has to precede. -/
theorem dropsBefore_of_not_followsCycle (planned : ofTrees dialect trees = .ok steps)
    {first second : ObjectKey} (precedes : Precedes trees first second)
    (clear : ¬ FollowsCycle (Precedes trees) first) : DropsBefore steps first second := by
  obtain ⟨forced, course⟩ := exists_course_ofTrees planned
  refine (precedes.dropsBefore_or planned).resolve_right fun late => clear ?_
  exact (course.forced_of_dropsBefore precedes late).2

/-- If what a cycle leads to always leads back to it, all precedences off the cycles are kept.
Whatever a cycle leads to then stands on one itself. A precedence is only given up for an object
that a cycle leads to, and so it is part of a cycle. -/
theorem keepsOffCycle_of_closed (planned : ofTrees dialect trees = .ok steps)
    (closed : ∀ origin key, Relation.TransGen (Precedes trees) origin origin →
      Relation.ReflTransGen (Precedes trees) origin key →
        Relation.ReflTransGen (Precedes trees) key origin) : KeepsOffCycle trees steps := by
  intro first second precedes offCycle
  refine dropsBefore_of_not_followsCycle planned precedes ?_
  rintro ⟨origin, cycle, leads⟩
  have back : Relation.ReflTransGen (Precedes trees) second origin :=
    closed origin second cycle (leads.tail precedes)
  exact offCycle ((Relation.TransGen.trans_right back cycle).trans_left leads)

/-- All precedences off the cycles are kept exactly if what is forced is required to go before all
that should have preceded it and comes later. -/
theorem keepsOffCycle_iff (planned : ofTrees dialect trees = .ok steps)
    {forced : List DatabaseObject}
    (course : Course (Precedes trees) (objects trees) (steps.map DropStep.object) forced) :
    KeepsOffCycle trees steps ↔ ∀ object ∈ forced, ∀ first, Precedes trees first object.key →
      DropsBefore steps object.key first →
        Relation.TransGen (Precedes trees) object.key first := by
  constructor
  · intro kept object _ first precedes late
    by_contra offCycle
    exact not_pair_sublist_both (nodup_keys_ofTrees planned) late
      (kept first object.key precedes offCycle)
  · intro onCycle first second precedes offCycle
    refine (precedes.dropsBefore_or planned).resolve_right fun late => offCycle ?_
    obtain ⟨⟨object, isForced, rfl⟩, -⟩ := course.forced_of_dropsBefore precedes late
    exact onCycle object isForced first precedes late

/-- A plan takes the first ready object each time and forces the first of least rank where nothing
is ready. What no cycle leads to is dropped before all that it has to precede. The precedences that
are on no cycle are all kept exactly if each forced object is required to go before all that should
have preceded it and comes later, and in particular if cycles lead to nothing but themselves. -/
theorem plan_keeps_precedences_before_cycles {dialect : Dialect} {trees : List ConflictTree}
    {steps : List DropStep} (planned : ofTrees dialect trees = .ok steps) :
    ∃ forced, Course (Precedes trees) (objects trees) (steps.map DropStep.object) forced ∧
      (∀ first second, Precedes trees first second →
        ¬ FollowsCycle (Precedes trees) first → DropsBefore steps first second) ∧
      (KeepsOffCycle trees steps ↔ ∀ object ∈ forced, ∀ first, Precedes trees first object.key →
        DropsBefore steps object.key first →
          Relation.TransGen (Precedes trees) object.key first) ∧
      ((∀ origin key, Relation.TransGen (Precedes trees) origin origin →
          Relation.ReflTransGen (Precedes trees) origin key →
            Relation.ReflTransGen (Precedes trees) key origin) →
        KeepsOffCycle trees steps) := by
  obtain ⟨forced, course⟩ := exists_course_ofTrees planned
  exact ⟨forced, course, fun _ _ => dropsBefore_of_not_followsCycle planned,
    keepsOffCycle_iff planned course, keepsOffCycle_of_closed planned⟩

/-- Two tables that refer to each other, with a constraint of one of them. -/
def ring : List ConflictTree :=
  [.node (FixedCatalogue.tableOf "left") [.node (FixedCatalogue.tableOf "right") [],
      .node ⟨.constraint, "check", some "left", none⟩ []],
    .node (FixedCatalogue.tableOf "right") [.node (FixedCatalogue.tableOf "left") []]]

/-- The drops of the ring. -/
def ringDrops : List DropStep :=
  ⟨⟨.constraint, "check", some "left", none⟩, "ALTER TABLE left DROP CONSTRAINT check"⟩ ::
    FixedCatalogue.dropsOf ["left", "right"]

/-- The constraint, which nothing precedes, goes before the ring is broken. Its precedence is kept,
although the table that has to follow it stands on the ring. -/
theorem ring_keeps_precedence_before_cycle :
    let check : DatabaseObject := ⟨.constraint, "check", some "left", none⟩
    let left := FixedCatalogue.tableOf "left"
    ofTrees Dialect.Known.generic ring = .ok ringDrops ∧
      Relation.TransGen (Precedes ring) left.key left.key ∧
      Precedes ring check.key left.key ∧ DropsBefore ringDrops check.key left.key := by
  intro check left
  let right := FixedCatalogue.tableOf "right"
  have planned : ofTrees Dialect.Known.generic ring = .ok ringDrops := by decide +kernel
  have toRight : Precedes ring left.key right.key :=
    (mem_precedences_iff (by decide +kernel)).mp (by decide +kernel)
  have toLeft : Precedes ring right.key left.key :=
    (mem_precedences_iff (by decide +kernel)).mp (by decide +kernel)
  have precedes : Precedes ring check.key left.key :=
    (mem_precedences_iff (by decide +kernel)).mp (by decide +kernel)
  have first : ∀ precedence ∈ precedences ring, precedence.2 ≠ check.key := by decide +kernel
  have clear : ¬ FollowsCycle (Precedes ring) check.key := by
    rintro ⟨origin, cycle, leads⟩
    obtain ⟨_, -, before⟩ := Relation.TransGen.tail'_iff.mp (cycle.trans_left leads)
    exact first _ before.mem rfl
  obtain ⟨forced, course, kept, -⟩ := plan_keeps_precedences_before_cycles planned
  exact ⟨planned, .tail (.single toRight) toLeft, precedes, kept _ _ precedes clear⟩

/-- The two tables of a ring that both refer to a third. -/
def hubbed : List ConflictTree :=
  let hub := FixedCatalogue.tableOf "hub"
  let left := FixedCatalogue.tableOf "left"
  let right := FixedCatalogue.tableOf "right"
  [.node hub [.node left [], .node right []], .node left [.node right []],
    .node right [.node left []]]

/-- The table that both refer to is dropped first, although it is on no cycle and both should have
been dropped before it. -/
theorem hubbed_gives_up_precedence_off_cycle :
    let hub := FixedCatalogue.tableOf "hub"
    let left := FixedCatalogue.tableOf "left"
    ofTrees Dialect.Known.generic hubbed =
        .ok (FixedCatalogue.dropsOf ["hub", "left", "right"]) ∧
      Relation.TransGen (Precedes hubbed) left.key left.key ∧
      Precedes hubbed left.key hub.key ∧
      ¬ Relation.TransGen (Precedes hubbed) hub.key left.key ∧
      ¬ DropsBefore (FixedCatalogue.dropsOf ["hub", "left", "right"]) left.key hub.key := by
  intro hub left
  let right := FixedCatalogue.tableOf "right"
  have toRight : Precedes hubbed left.key right.key :=
    (mem_precedences_iff (by decide +kernel)).mp (by decide +kernel)
  have toLeft : Precedes hubbed right.key left.key :=
    (mem_precedences_iff (by decide +kernel)).mp (by decide +kernel)
  have toHub : Precedes hubbed left.key hub.key :=
    (mem_precedences_iff (by decide +kernel)).mp (by decide +kernel)
  have last : ∀ precedence ∈ precedences hubbed, precedence.1 ≠ hub.key := by decide +kernel
  refine ⟨by decide +kernel, .tail (.single toRight) toLeft, toHub, fun chain => ?_,
    by decide +kernel⟩
  obtain ⟨_, next, -⟩ := Relation.TransGen.head'_iff.mp chain
  exact last _ next.mem rfl

end DropPlan

end SchemaForward
