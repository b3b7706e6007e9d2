import SchemaForward.Proofs.Conflict.Precedence

/-!
# The course of a plan

A plan goes on from the objects that still wait, kept as they were first met. Either some of them
wait for nothing, and the first of these is dropped, or all of them wait for each other, and one is
dropped by force. A course has a rule for each of the two and sets the forced objects apart. What
waits at its start determines a course, and an order always follows one.

A course keeps to a precedence unless it forces the object that should have come later. Whatever
waited then, the object that should have come first among it, waited for something that waited
itself; as only finitely many wait, a cycle leads to each of them.
-/

namespace SchemaForward

namespace DropPlan

/-- The object is the first of those that are chosen. -/
def IsFirst (chosen : DatabaseObject → Prop) (objects : List DatabaseObject)
    (object : DatabaseObject) : Prop :=
  ∃ front back, objects = front ++ object :: back ∧ chosen object ∧ ∀ other ∈ front, ¬ chosen other

section IsFirst

variable {chosen : DatabaseObject → Prop} {objects : List DatabaseObject}
  {object other : DatabaseObject}

/-- The first object chosen from a list is one of the list. -/
theorem IsFirst.mem (first : IsFirst chosen objects object) : object ∈ objects := by
  obtain ⟨front, back, rfl, -, -⟩ := first
  simp

/-- The first object chosen from a list is chosen, unlike those before it. -/
theorem IsFirst.isChosen (first : IsFirst chosen objects object) : chosen object := by
  obtain ⟨-, -, -, isChosen, -⟩ := first
  exact isChosen

/-- Which object is the first depends on what is chosen among the objects of the list alone. -/
theorem IsFirst.congr {alsoChosen : DatabaseObject → Prop}
    (first : IsFirst chosen objects object)
    (same : ∀ object ∈ objects, chosen object ↔ alsoChosen object) :
    IsFirst alsoChosen objects object := by
  obtain ⟨front, back, rfl, isChosen, others⟩ := first
  refine ⟨front, back, rfl, (same object (by simp)).mp isChosen, fun other inFront => ?_⟩
  rw [← same other (List.mem_append_left _ inFront)]
  exact others other inFront

/-- A search finds the first object that passes its test. What is chosen may be a proposition, as
long as the test decides it. -/
theorem isFirst_iff_find? {test : DatabaseObject → Bool}
    (decides : ∀ object, test object = true ↔ chosen object) :
    IsFirst chosen objects object ↔ objects.find? test = some object := by
  rw [List.find?_eq_some_iff_append, IsFirst]
  constructor
  · rintro ⟨front, back, parts, isChosen, others⟩
    refine ⟨(decides object).mpr isChosen, front, back, parts, fun other inFront => ?_⟩
    rw [Bool.not_eq_true', ← Bool.not_eq_true, decides]
    exact others other inFront
  · rintro ⟨passed, front, back, parts, others⟩
    refine ⟨front, back, parts, (decides object).mp passed, fun other inFront => ?_⟩
    rw [← decides, Bool.not_eq_true, ← Bool.not_eq_true']
    exact others other inFront

/-- There is only one first. -/
theorem IsFirst.unique (first : IsFirst chosen objects object)
    (otherFirst : IsFirst chosen objects other) : object = other := by
  classical
  have decides : ∀ object, decide (chosen object) = true ↔ chosen object :=
    fun _ => decide_eq_true_iff
  rw [isFirst_iff_find? decides] at first otherFirst
  exact Option.some.inj (first.symm.trans otherFirst)

end IsFirst

/-- Something that still waits has to go before the object. -/
def Waits (precedes : ObjectKey → ObjectKey → Prop) (waiting : List DatabaseObject)
    (object : DatabaseObject) : Prop :=
  ∃ other ∈ waiting, precedes other.key object.key

/-- None of the objects has a lower rank. -/
def IsLeast (objects : List DatabaseObject) (object : DatabaseObject) : Prop :=
  ∀ other ∈ objects, object.kind.dropRank ≤ other.kind.dropRank

/-- The waiting objects are dropped in this order: each time the first that waits for nothing, or,
if everything waits for something, the first of least rank, by force. -/
inductive Course (precedes : ObjectKey → ObjectKey → Prop) :
    (waiting order forced : List DatabaseObject) → Prop
  | done : Course precedes [] [] []
  | ready {waiting order forced : List DatabaseObject} {object : DatabaseObject}
      (first : IsFirst (fun other => ¬ Waits precedes waiting other) waiting object)
      (onward : Course precedes (waiting.eraseP (·.key == object.key)) order forced) :
      Course precedes waiting (object :: order) forced
  | stuck {waiting order forced : List DatabaseObject} {object : DatabaseObject}
      (nothing : ∀ other ∈ waiting, Waits precedes waiting other)
      (first : IsFirst (IsLeast waiting) waiting object)
      (onward : Course precedes (waiting.eraseP (·.key == object.key)) order forced) :
      Course precedes waiting (object :: order) (object :: forced)

/-- Nothing is left to wait if there is no least object. -/
theorem eq_nil_of_leastPriority?_eq_none {objects : List DatabaseObject}
    (nothing : leastPriority? objects = none) : objects = [] := by
  cases objects with
  | nil => rfl
  | cons head rest =>
    rw [leastPriority?] at nothing
    split at nothing
    · cases nothing
    · split at nothing <;> cases nothing

/-- The least object that is found is the first of least rank. The recursion prefers the head if
nothing behind it is strictly lower, and so the first of several with the least rank is the one it
keeps. -/
theorem isFirst_of_leastPriority? {objects : List DatabaseObject} {least : DatabaseObject}
    (found : leastPriority? objects = some least) : IsFirst (IsLeast objects) objects least := by
  induction objects generalizing least with
  | nil => cases found
  | cons head rest inductionHypothesis =>
    rw [leastPriority?] at found
    cases isBest : leastPriority? rest with
    | none =>
      rw [isBest] at found
      obtain rfl := Option.some.inj found
      rw [eq_nil_of_leastPriority?_eq_none isBest]
      exact ⟨[], [], rfl, by simp [IsLeast], by simp⟩
    | some best =>
      simp only [isBest, Nat.blt_eq] at found
      obtain ⟨front, back, parts, leastOfRest, others⟩ := inductionHypothesis isBest
      by_cases lower : best.kind.dropRank < head.kind.dropRank
      · rw [if_pos lower] at found
        obtain rfl := Option.some.inj found
        refine ⟨head :: front, back, by rw [parts, List.cons_append],
          List.forall_mem_cons.mpr ⟨lower.le, leastOfRest⟩, List.forall_mem_cons.mpr ⟨?_, ?_⟩⟩
        · intro leastHead
          have bestInRest : best ∈ head :: rest := by simp [parts]
          exact absurd (leastHead best bestInRest) (Nat.not_le.mpr lower)
        · intro other inFront leastOther
          exact others other inFront (List.forall_mem_cons.mp leastOther).2
      · rw [if_neg lower] at found
        obtain rfl := Option.some.inj found
        refine ⟨[], rest, rfl, List.forall_mem_cons.mpr ⟨le_rfl, fun other inRest => ?_⟩, by simp⟩
        exact (Nat.not_lt.mp lower).trans (leastOfRest other inRest)

/-- An object waits for nothing exactly if it is ready. -/
theorem isReady_iff_not_waits {precedences : List Precedence} {waiting : List DatabaseObject}
    {object : DatabaseObject} : isReady precedences waiting object = true ↔
      ¬ Waits (fun first second => (first, second) ∈ precedences) waiting object := by
  rw [isReady_iff, Waits]
  simp

/-- An order follows a course. Each step of the recursion is one of the course: it takes the first
object that nothing goes before, or is stuck and takes the first of least rank. Those of the second
kind are the forced ones. -/
theorem exists_course (precedences : List Precedence) (waiting : List DatabaseObject) :
    ∃ forced, Course (fun first second => (first, second) ∈ precedences) waiting
      (order precedences waiting) forced := by
  fun_induction order precedences waiting with
  | case1 waiting nothing =>
    rw [eq_nil_of_next?_eq_none nothing]
    exact ⟨[], .done⟩
  | case2 waiting object found _shorter inductionHypothesis =>
    obtain ⟨forced, onward⟩ := inductionHypothesis
    rw [next?] at found
    split at found
    · rename_i ready isReady
      obtain rfl := Option.some.inj found
      exact ⟨forced, .ready ((isFirst_iff_find? fun _ => isReady_iff_not_waits).mpr isReady) onward⟩
    · rename_i nothing
      refine ⟨object :: forced, .stuck (fun other isWaiting => ?_) (isFirst_of_leastPriority? found)
        onward⟩
      by_contra ready
      exact List.find?_eq_none.mp nothing other isWaiting (isReady_iff_not_waits.mpr ready)

/-- Some cycle leads to the key. -/
def FollowsCycle (precedes : ObjectKey → ObjectKey → Prop) (key : ObjectKey) : Prop :=
  ∃ origin, Relation.TransGen precedes origin origin ∧ Relation.ReflTransGen precedes origin key

variable {precedes : ObjectKey → ObjectKey → Prop} {waiting order forced : List DatabaseObject}

/-- The first object has to go before the second, which leads to the target. -/
def PrecedesTowards (precedes : ObjectKey → ObjectKey → Prop) (target : ObjectKey)
    (first second : DatabaseObject) : Prop :=
  Relation.TransGen precedes first.key second.key ∧ Relation.ReflTransGen precedes second.key target

/-- Where no cycle leads, the objects that lead there are in a strict order. -/
theorem isStrictOrder_precedesTowards {target : ObjectKey}
    (clear : ¬ FollowsCycle precedes target) :
    IsStrictOrder DatabaseObject (PrecedesTowards precedes target) where
  irrefl := fun other cycle => clear ⟨other.key, cycle⟩
  trans := fun _ _ _ first second => ⟨first.1.trans second.1, second.2⟩

/-- If everything waits for something that waits, a cycle leads to all of it: were there none, going
back from an object would lead through ever new ones, of which there are finitely many. -/
theorem followsCycle_of_stuck (nothing : ∀ other ∈ waiting, Waits precedes waiting other)
    {object : DatabaseObject} (isWaiting : object ∈ waiting) :
    FollowsCycle precedes object.key := by
  by_contra clear
  have strict := isStrictOrder_precedesTowards clear
  let origins : Set DatabaseObject :=
    {other | other ∈ waiting ∧ Relation.ReflTransGen precedes other.key object.key}
  have founded : origins.WellFoundedOn (PrecedesTowards precedes object.key) :=
    ((List.finite_toSet waiting).subset fun _ member => member.1).wellFoundedOn
  obtain ⟨⟨least, leastWaits, leads⟩, -, least_of_all⟩ :=
    WellFounded.has_min founded Set.univ ⟨⟨object, isWaiting, .refl⟩, trivial⟩
  obtain ⟨other, otherWaits, precedence⟩ := nothing least leastWaits
  exact least_of_all ⟨other, otherWaits, .head precedence leads⟩ trivial
    ⟨.single precedence, leads⟩

/-- A course only depends on what has to go before the objects that wait. The precedences of objects
that are done, or that never waited, may be any others. -/
theorem Course.congr {others : ObjectKey → ObjectKey → Prop}
    (course : Course precedes waiting order forced)
    (same : ∀ first, ∀ second ∈ waiting, precedes first second.key ↔ others first second.key) :
    Course others waiting order forced := by
  have waits : ∀ {waiting : List DatabaseObject},
      (∀ first, ∀ second ∈ waiting, precedes first second.key ↔ others first second.key) →
      ∀ object ∈ waiting, Waits precedes waiting object ↔ Waits others waiting object :=
    fun same object isWaiting => exists_congr fun other =>
      and_congr_right fun _ => same other.key object isWaiting
  induction course with
  | done => exact .done
  | ready first _ inductionHypothesis =>
    refine .ready (first.congr fun other isWaiting => not_congr (waits same other isWaiting)) ?_
    exact inductionHypothesis fun key other stillWaits =>
      same key other (List.mem_of_mem_eraseP stillWaits)
  | stuck nothing first _ inductionHypothesis =>
    refine .stuck (fun other isWaiting => (waits same other isWaiting).mp (nothing other isWaiting))
      first ?_
    exact inductionHypothesis fun key other stillWaits =>
      same key other (List.mem_of_mem_eraseP stillWaits)

/-- What waits determines the course. In every situation only one of its steps is possible, and that
step chooses the first of a list. So an order is right exactly if it follows a course. -/
theorem Course.unique {otherOrder otherForced : List DatabaseObject}
    (course : Course precedes waiting order forced)
    (other : Course precedes waiting otherOrder otherForced) :
    otherOrder = order ∧ otherForced = forced := by
  induction course generalizing otherOrder otherForced with
  | done =>
    cases other with
    | done => exact ⟨rfl, rfl⟩
    | ready first _ => exact absurd first.mem (by simp)
    | stuck _ first _ => exact absurd first.mem (by simp)
  | ready first _ inductionHypothesis =>
    cases other with
    | done => exact absurd first.mem (by simp)
    | ready otherFirst onward =>
      obtain rfl := first.unique otherFirst
      obtain ⟨rfl, rfl⟩ := inductionHypothesis onward
      exact ⟨rfl, rfl⟩
    | stuck nothing _ _ => exact absurd (nothing _ first.mem) first.isChosen
  | stuck nothing first _ inductionHypothesis =>
    cases other with
    | done => exact absurd first.mem (by simp)
    | ready otherFirst _ => exact absurd (nothing _ otherFirst.mem) otherFirst.isChosen
    | stuck _ otherFirst onward =>
      obtain rfl := first.unique otherFirst
      obtain ⟨rfl, rfl⟩ := inductionHypothesis onward
      exact ⟨rfl, rfl⟩

/-- Only what waits is dropped. -/
theorem Course.subset (course : Course precedes waiting order forced) : order ⊆ waiting := by
  induction course with
  | done => exact List.Subset.refl _
  | ready first _ inductionHypothesis | stuck _ first _ inductionHypothesis =>
    refine List.cons_subset.mpr ⟨first.mem, fun other member => ?_⟩
    exact List.mem_of_mem_eraseP (inductionHypothesis member)

/-- Without a cycle, nothing is forced. -/
theorem Course.forced_eq_nil (course : Course precedes waiting order forced)
    (acyclic : ∀ key, ¬ Relation.TransGen precedes key key) : forced = [] := by
  induction course with
  | done => rfl
  | ready _ _ inductionHypothesis => exact inductionHypothesis
  | stuck nothing first _ _ =>
    obtain ⟨origin, cycle, -⟩ := followsCycle_of_stuck nothing first.mem
    exact absurd cycle (acyclic origin)

/-- What is dropped before something that should precede it was forced, and a cycle leads to what
should have preceded it. -/
theorem Course.pairwise (course : Course precedes waiting order forced) :
    order.Pairwise fun earlier later => precedes later.key earlier.key →
      earlier ∈ forced ∧ FollowsCycle precedes later.key := by
  induction course with
  | done => exact .nil
  | ready first onward inductionHypothesis =>
    refine .cons (fun later member precedence => absurd ?_ first.isChosen) inductionHypothesis
    exact ⟨later, List.mem_of_mem_eraseP (onward.subset member), precedence⟩
  | stuck nothing first onward inductionHypothesis =>
    refine .cons (fun later member _ => ⟨List.mem_cons_self, ?_⟩)
      (inductionHypothesis.imp fun late precedence => ?_)
    · exact followsCycle_of_stuck nothing (List.mem_of_mem_eraseP (onward.subset member))
    · obtain ⟨isForced, follows⟩ := late precedence
      exact ⟨List.mem_cons_of_mem _ isForced, follows⟩

/-- The same in terms of keys. A key that goes late although it precedes an earlier one was passed
over when that one was forced, and then a cycle leads to it. -/
theorem Course.forced_of_sublist (course : Course precedes waiting order forced)
    {first second : ObjectKey} (precedence : precedes first second)
    (late : [second, first].Sublist (order.map DatabaseObject.key)) :
    (∃ object ∈ forced, object.key = second) ∧ FollowsCycle precedes first := by
  obtain ⟨pair, inOrder, keys⟩ := List.sublist_map_iff.mp late
  obtain ⟨earlier, later, rfl⟩ : ∃ earlier later, pair = [earlier, later] := by
    apply List.length_eq_two.mp
    simpa using (congrArg List.length keys).symm
  obtain ⟨rfl, rfl⟩ : second = earlier.key ∧ first = later.key := by simpa using keys
  obtain ⟨isForced, follows⟩ := List.pairwise_iff_forall_sublist.mp course.pairwise inOrder
    precedence
  exact ⟨⟨earlier, isForced, rfl⟩, follows⟩

end DropPlan

end SchemaForward
