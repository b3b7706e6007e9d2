import SchemaForward.Conflict.Clearance
import SchemaForward.Proofs.Conflict.Catalogue
import SchemaForward.Proofs.Conflict.Tree
import SchemaForward.Proofs.Target.Session

/-!
# The closure of a conflict

A tree is grown with a list of keys that were seen before. What is below its roots is new to that
list, holds no key twice and hangs together by reported dependents, and when growth ends every
dependent of every object of the tree has been seen. From a root that alone was seen to begin with,
the keys of the tree are therefore exactly those that the root reaches.

Every level of a tree uses up a key that was not seen before, so a search as deep as the number of
listed keys never runs out of levels. A scan of a target with a catalogue hence ends by itself: it
is cut short only by cancellation, by an error of the target or by a call that does not come back.
-/

namespace SchemaForward

namespace Scan

/-- The children kept of a list of dependents are the first of each key that was not seen. The keys
seen afterwards are those seen before together with theirs, so every key of the list is among them,
kept or not. The induction is on the list, with more seen at each object that is kept. -/
theorem unseen_spec (seen : List ObjectKey) (found : List DatabaseObject) :
    (unseen seen found).1 ⊆ found ∧
      ((unseen seen found).1.map DatabaseObject.key).Nodup ∧
      (∀ key ∈ (unseen seen found).1.map DatabaseObject.key, key ∉ seen) ∧
      (∀ key, key ∈ (unseen seen found).2 ↔
        key ∈ seen ∨ key ∈ (unseen seen found).1.map DatabaseObject.key) ∧
      ∀ object ∈ found, object.key ∈ (unseen seen found).2 := by
  induction found generalizing seen with
  | nil => simp [unseen]
  | cons object rest inductionHypothesis =>
    by_cases known : object.key ∈ seen
    · obtain ⟨subset, distinct, fresh, keys, covered⟩ := inductionHypothesis seen
      have skipped : unseen seen (object :: rest) = unseen seen rest := by
        simp [unseen, known]
      rw [skipped]
      refine ⟨fun _ member => List.mem_cons_of_mem _ (subset member), distinct, fresh, keys, ?_⟩
      intro other member
      rcases List.mem_cons.mp member with rfl | later
      · exact (keys _).mpr (Or.inl known)
      · exact covered other later
    · obtain ⟨subset, distinct, fresh, keys, covered⟩ :=
        inductionHypothesis (object.key :: seen)
      have kept : unseen seen (object :: rest) =
          (object :: (unseen (object.key :: seen) rest).1,
            (unseen (object.key :: seen) rest).2) := by
        simp [unseen, known]
      rw [kept]
      refine ⟨List.cons_subset_cons _ subset, ?_, ?_, ?_, ?_⟩
      · rw [List.map_cons, List.nodup_cons]
        exact ⟨fun member => fresh _ member List.mem_cons_self, distinct⟩
      · intro key member
        rcases List.mem_cons.mp member with rfl | later
        · exact known
        · exact fun inSeen => fresh key later (List.mem_cons_of_mem _ inSeen)
      · intro key
        rw [keys, List.mem_cons, List.map_cons, List.mem_cons]
        tauto
      · intro other member
        rcases List.mem_cons.mp member with rfl | later
        · exact (keys _).mpr (Or.inl List.mem_cons_self)
        · exact covered other later

end Scan

/-- A forest grown from roots that were seen: all below them is new, and nothing is left out. -/
structure Grown {σ : Type} {target : Target σ} (catalogue : Catalogue target)
    (seen : List ObjectKey) (trees : List ConflictTree) (known : List ObjectKey) : Prop where
  distinct : ((ConflictTree.objectsBelow trees).map DatabaseObject.key).Nodup
  fresh : ∀ object ∈ ConflictTree.objectsBelow trees, object.key ∉ seen
  keys : ∀ key, key ∈ known ↔
    key ∈ seen ∨ key ∈ (ConflictTree.objectsBelow trees).map DatabaseObject.key
  linked : ∀ tree ∈ trees, ∀ link ∈ tree.links, link.1 ∈ catalogue.dependents link.2
  closed : ∀ tree ∈ trees, ∀ object ∈ tree.objects,
    ∀ dependent ∈ catalogue.dependents object, dependent.key ∈ known

namespace Grown

variable {σ : Type} {target : Target σ} {catalogue : Catalogue target}
  {seen known last : List ObjectKey}

/-- An empty forest adds nothing. -/
theorem nil : Grown catalogue seen [] seen where
  distinct := List.nodup_nil
  fresh := by simp
  keys := by simp
  linked := by simp
  closed := by simp

/-- What was seen before stays seen. -/
theorem subset {trees : List ConflictTree} (grown : Grown catalogue seen trees known) :
    seen ⊆ known :=
  fun key member => (grown.keys key).mpr (Or.inl member)

/-- Forests grown one after another make one forest. No key is in both, since the second starts from
all that was seen when the first was done. -/
theorem append {first second : List ConflictTree} (earlier : Grown catalogue seen first known)
    (later : Grown catalogue known second last) : Grown catalogue seen (first ++ second) last where
  distinct := by
    rw [ConflictTree.objectsBelow_append, List.map_append, List.nodup_append']
    refine ⟨earlier.distinct, later.distinct, ?_⟩
    intro key inFirst inSecond
    obtain ⟨object, member, rfl⟩ := List.mem_map.mp inSecond
    exact later.fresh object member ((earlier.keys _).mpr (Or.inr inFirst))
  fresh := by
    intro object member
    rw [ConflictTree.objectsBelow_append, List.mem_append] at member
    rcases member with inFirst | inSecond
    · exact earlier.fresh object inFirst
    · exact fun inSeen => later.fresh object inSecond (earlier.subset inSeen)
  keys := by
    intro key
    rw [later.keys, earlier.keys, ConflictTree.objectsBelow_append, List.map_append,
      List.mem_append]
    tauto
  linked := by
    intro tree member
    rcases List.mem_append.mp member with inFirst | inSecond
    · exact earlier.linked tree inFirst
    · exact later.linked tree inSecond
  closed := by
    intro tree member object inTree dependent reported
    rcases List.mem_append.mp member with inFirst | inSecond
    · exact later.subset (earlier.closed tree inFirst object inTree dependent reported)
    · exact later.closed tree inSecond object inTree dependent reported

/-- A tree is grown by growing trees from the dependents of its root that were not seen. The roots
of those trees are seen at once, before any of them is grown, so that none of them turns up again
below another. What their own trees add is new to all of them. -/
theorem node {root : DatabaseObject} {trees : List ConflictTree}
    (roots : trees.map ConflictTree.object =
      (Scan.unseen seen (catalogue.dependents root)).1)
    (below : Grown catalogue (Scan.unseen seen (catalogue.dependents root)).2 trees known) :
    Grown catalogue seen [.node root trees] known := by
  obtain ⟨reported, distinct, fresh, keys, covered⟩ :=
    Scan.unseen_spec seen (catalogue.dependents root)
  rw [← roots] at reported distinct fresh keys
  have perm : (ConflictTree.objectsBelow [.node root trees]).Perm
      (trees.map ConflictTree.object ++ ConflictTree.objectsBelow trees) := by
    simpa using ConflictTree.perm_roots_objectsBelow trees
  have permKeys := perm.map DatabaseObject.key
  rw [List.map_append] at permKeys
  refine ⟨?_, ?_, ?_, ?_, ?_⟩
  · rw [permKeys.nodup_iff, List.nodup_append']
    refine ⟨distinct, below.distinct, ?_⟩
    intro key isRoot isBelow
    obtain ⟨object, member, rfl⟩ := List.mem_map.mp isBelow
    exact below.fresh object member ((keys _).mpr (Or.inr isRoot))
  · intro object member
    rcases List.mem_append.mp (perm.mem_iff.mp member) with isRoot | isBelow
    · exact fresh _ (List.mem_map_of_mem isRoot)
    · exact fun inSeen => below.fresh object isBelow ((keys _).mpr (Or.inl inSeen))
  · intro key
    rw [below.keys, keys, permKeys.mem_iff, List.mem_append]
    tauto
  · intro tree single link member
    rw [List.mem_singleton.mp single, ConflictTree.links_node, List.mem_flatMap] at member
    obtain ⟨child, inTrees, inChild⟩ := member
    rcases List.mem_cons.mp inChild with rfl | deeper
    · exact reported (List.mem_map_of_mem inTrees)
    · exact below.linked child inTrees link deeper
  · intro tree single object member dependent inList
    rw [List.mem_singleton.mp single, ConflictTree.objects_node, List.mem_cons,
      List.mem_flatMap] at member
    rcases member with rfl | ⟨child, inTrees, inChild⟩
    · exact below.subset (covered dependent inList)
    · exact below.closed child inTrees object inChild dependent inList

end Grown

namespace Catalogue

variable {σ α β : Type} {target : Target σ} (catalogue : Catalogue target)

/-- Work on the target ends with a good value or for a reason of the target's own, and the
catalogue still holds. -/
def Settles (good : α → Prop) (result : Ending α × Session σ) : Prop :=
  catalogue.holds result.2.target ∧
    match result.1 with
    | .finished value => good value
    | .cancelled => False
    | .failed error => catalogue.FailsWith error
    | .crashed => catalogue.Crashes

variable {catalogue} in
/-- Work that goes on after work that settles does so too, if it settles from every good value. The
catalogue holds where the first part leaves the target, so the second part may ask it again. -/
theorem Settles.andThen {good : α → Prop} {better : β → Prop} {result : Ending α × Session σ}
    {continuation : α → Session σ → Ending β × Session σ} (settles : catalogue.Settles good result)
    (goesOn : ∀ value next, catalogue.holds next.target → good value →
      catalogue.Settles better (continuation value next)) :
    catalogue.Settles better (Ending.andThen result continuation) := by
  obtain ⟨ending, next⟩ := result
  obtain ⟨holds, settled⟩ := settles
  cases ending with
  | finished value => exact goesOn value next holds settled
  | cancelled => exact False.elim settled
  | failed error => exact ⟨holds, settled⟩
  | crashed => exact ⟨holds, settled⟩

variable {catalogue} in
/-- Work that settles with a good value settles with whatever follows from that. Nothing is required
of a value if the work has failed or did not come back. -/
theorem Settles.imp {good better : α → Prop} {result : Ending α × Session σ}
    (settles : catalogue.Settles good result) (follows : ∀ value, good value → better value) :
    catalogue.Settles better result := by
  obtain ⟨ending, next⟩ := result
  obtain ⟨holds, settled⟩ := settles
  cases ending with
  | finished value => exact ⟨holds, follows value settled⟩
  | cancelled => exact ⟨holds, settled⟩
  | failed error => exact ⟨holds, settled⟩
  | crashed => exact ⟨holds, settled⟩

/-- Asking for dependents brings back those of the catalogue. They are the same in every state in
which the catalogue holds. If the target fails instead, the error is about the object in question.
-/
theorem settles_dependentsIn (object : DatabaseObject) (session : Session σ)
    (holds : catalogue.holds session.target) :
    catalogue.Settles (· = catalogue.dependents object)
      (Scan.answered object (target.dependentsIn object session)) := by
  have holdsNext : catalogue.holds (target.dependentsIn object session).2.target := by
    rw [Target.target_dependentsIn]
    exact catalogue.holds_dependents object session.target holds
  cases reply : (target.dependents object session.target).reply with
  | answer found =>
    simp only [Scan.answered, Target.dependentsIn, reply]
    exact ⟨holdsNext, catalogue.answered object session.target holds found reply⟩
  | failure error =>
    simp only [Scan.answered, Target.dependentsIn, reply]
    exact ⟨holdsNext, object, session.target, error, holds, rfl, Or.inr reply⟩
  | crash =>
    simp only [Scan.answered, Target.dependentsIn, reply]
    exact ⟨holdsNext, object, session.target, holds, Or.inr reply⟩

/-- A lookup brings back what the target answers in some state of the catalogue. Which object that
is may change from state to state, as nothing is assumed of lookups. -/
theorem settles_findIn (subject : DatabaseObject) (session : Session σ)
    (holds : catalogue.holds session.target) :
    catalogue.Settles (catalogue.Answers subject)
      (Scan.answered subject (target.findIn subject session)) := by
  have holdsNext : catalogue.holds (target.findIn subject session).2.target := by
    rw [Target.target_findIn]
    exact catalogue.holds_find subject session.target holds
  cases reply : (target.find subject session.target).reply with
  | answer found =>
    simp only [Scan.answered, Target.findIn, reply]
    exact ⟨holdsNext, session.target, holds, reply⟩
  | failure error =>
    simp only [Scan.answered, Target.findIn, reply]
    exact ⟨holdsNext, subject, session.target, error, holds, rfl, Or.inl reply⟩
  | crash =>
    simp only [Scan.answered, Target.findIn, reply]
    exact ⟨holdsNext, subject, session.target, holds, Or.inl reply⟩

/-- The listed keys that were not seen. A tree has no more levels below its root than these. -/
def unseenKeys (seen : List ObjectKey) : Finset ObjectKey :=
  catalogue.keys \ seen.toFinset

/-- Seeing more keys leaves no more unseen. -/
theorem card_unseenKeys_le {seen known : List ObjectKey} (subset : seen ⊆ known) :
    (catalogue.unseenKeys known).card ≤ (catalogue.unseenKeys seen).card := by
  apply Finset.card_le_card
  intro key member
  simp only [unseenKeys, Finset.mem_sdiff, List.mem_toFinset] at member ⊢
  exact ⟨member.1, fun inSeen => member.2 (subset inSeen)⟩

/-- Seeing a listed key for the first time leaves fewer unseen. That is what bounds the levels of a
search: each of them has a key of the catalogue that none of the levels above has seen. -/
theorem card_unseenKeys_lt {seen known : List ObjectKey} {key : ObjectKey} (subset : seen ⊆ known)
    (listed : key ∈ catalogue.keys) (fresh : key ∉ seen) (found : key ∈ known) :
    (catalogue.unseenKeys known).card < (catalogue.unseenKeys seen).card := by
  apply Finset.card_lt_card
  refine Finset.ssubset_iff_subset_ne.mpr ⟨?_, ?_⟩
  · intro other member
    simp only [unseenKeys, Finset.mem_sdiff, List.mem_toFinset] at member ⊢
    exact ⟨member.1, fun inSeen => member.2 (subset inSeen)⟩
  · intro same
    have present : key ∈ catalogue.unseenKeys seen := by
      simp [unseenKeys, listed, fresh]
    rw [← same] at present
    simp [unseenKeys, found] at present

end Catalogue

namespace Scan

variable {σ : Type} {target : Target σ} {catalogue : Catalogue target}

/-- If each tree grows as long as few enough keys are unseen, so does a forest, tree by tree. A
later tree starts with no fewer keys seen than an earlier one, so enough for the first is enough for
all. An empty forest needs nothing. -/
theorem growEach_settles {levels : Nat}
    {growOne : DatabaseObject → List ObjectKey → Session σ →
      Ending (ConflictTree × List ObjectKey) × Session σ}
    (each : ∀ object seen session, catalogue.holds session.target →
      (catalogue.unseenKeys seen).card < levels →
      catalogue.Settles
        (fun grown => grown.1.object = object ∧ Grown catalogue seen [grown.1] grown.2)
        (growOne object seen session))
    (objects : List DatabaseObject) (seen : List ObjectKey) (session : Session σ)
    (holds : catalogue.holds session.target)
    (enough : (catalogue.unseenKeys seen).card < levels ∨ objects = []) :
    catalogue.Settles
      (fun grown => grown.1.map ConflictTree.object = objects ∧
        Grown catalogue seen grown.1 grown.2)
      (growEach growOne objects seen session) := by
  induction objects generalizing seen session with
  | nil => exact ⟨holds, rfl, Grown.nil⟩
  | cons object rest inductionHypothesis =>
    have enoughHere : (catalogue.unseenKeys seen).card < levels := by
      simpa using enough
    refine (each object seen session holds enoughHere).andThen ?_
    intro grown next holdsNext ⟨root, grownTree⟩
    have enoughThere : (catalogue.unseenKeys grown.2).card < levels ∨ rest = [] :=
      Or.inl ((catalogue.card_unseenKeys_le grownTree.subset).trans_lt enoughHere)
    refine (inductionHypothesis grown.2 next holdsNext enoughThere).andThen ?_
    intro others final holdsFinal ⟨roots, grownRest⟩
    exact ⟨holdsFinal, by simp [root, roots], grownTree.append grownRest⟩

/-- A tree grows as long as fewer keys are unseen than there are levels left. The children of an
object are listed keys seen for the first time, so below it one key fewer is unseen. -/
theorem grow_settles (levels : Nat) (object : DatabaseObject) (seen : List ObjectKey)
    (session : Session σ) (holds : catalogue.holds session.target)
    (enough : (catalogue.unseenKeys seen).card < levels) :
    catalogue.Settles
      (fun grown => grown.1.object = object ∧ Grown catalogue seen [grown.1] grown.2)
      (grow target levels object seen session) := by
  induction levels generalizing object seen session with
  | zero => exact absurd enough (Nat.not_lt_zero _)
  | succ levels inductionHypothesis =>
    refine (catalogue.settles_dependentsIn object session holds).andThen ?_
    rintro found next holdsNext rfl
    obtain ⟨reported, -, fresh, keys, -⟩ := unseen_spec seen (catalogue.dependents object)
    have enoughBelow :
        (catalogue.unseenKeys (unseen seen (catalogue.dependents object)).2).card < levels ∨
          (unseen seen (catalogue.dependents object)).1 = [] := by
      cases children : (unseen seen (catalogue.dependents object)).1 with
      | nil => exact Or.inr rfl
      | cons child others =>
        have member : child ∈ (unseen seen (catalogue.dependents object)).1 := by
          simp [children]
        have childKey := List.mem_map_of_mem (f := DatabaseObject.key) member
        have fewer := catalogue.card_unseenKeys_lt
          (fun key inSeen => (keys key).mpr (Or.inl inSeen))
          (catalogue.listed object child (reported member))
          (fresh child.key childKey) ((keys child.key).mpr (Or.inr childKey))
        exact Or.inl (by omega)
    refine (growEach_settles inductionHypothesis _ _ next holdsNext enoughBelow).andThen ?_
    intro below final holdsFinal ⟨roots, grownForest⟩
    exact ⟨holdsFinal, rfl, Grown.node roots grownForest⟩

end Scan

namespace Catalogue

variable {σ : Type} {target : Target σ} {catalogue : Catalogue target}

/-- The tree is the closure of its root: it holds each key that the root reaches exactly once, and
every child is reported as a dependent of its parent. -/
structure IsClosure (catalogue : Catalogue target) (tree : ConflictTree) : Prop where
  distinct : (tree.objects.map DatabaseObject.key).Nodup
  linked : ∀ link ∈ tree.links, link.1 ∈ catalogue.dependents link.2
  exact : ∀ key, key ∈ tree.objects.map DatabaseObject.key ↔
    catalogue.Reaches tree.object.key key

/-- A tree grown from a root that alone was seen is the closure of the root. Links are reported
dependencies, so the root reaches every object; dependents of objects are never left out, so the
tree holds what is reached. -/
theorem isClosure_of_grown {tree : ConflictTree} {known : List ObjectKey}
    (grown : Grown catalogue [tree.object.key] [tree] known) : catalogue.IsClosure tree := by
  have linked : ∀ link ∈ tree.links, link.1 ∈ catalogue.dependents link.2 :=
    grown.linked tree List.mem_cons_self
  have perm : (tree.objects.map DatabaseObject.key).Perm
      (tree.object.key :: (ConflictTree.objectsBelow [tree]).map DatabaseObject.key) := by
    simpa using (ConflictTree.perm_roots_objectsBelow [tree]).map DatabaseObject.key
  have inTree : ∀ key, key ∈ known ↔ key ∈ tree.objects.map DatabaseObject.key := by
    intro key
    rw [grown.keys, perm.mem_iff, List.mem_singleton, List.mem_cons]
  refine ⟨?_, linked, fun key => ⟨?_, ?_⟩⟩
  · rw [perm.nodup_iff, List.nodup_cons]
    refine ⟨?_, grown.distinct⟩
    intro repeated
    obtain ⟨object, below, same⟩ := List.mem_map.mp repeated
    exact grown.fresh object below (by simp [same])
  · intro member
    obtain ⟨object, inObjects, rfl⟩ := List.mem_map.mp member
    refine ConflictTree.of_mem_objects
      (fun object => catalogue.Reaches tree.object.key object.key)
      Relation.ReflTransGen.refl ?_ object inObjects
    intro link inLinks reached
    exact reached.tail (reports_of_mem (linked link inLinks))
  · intro reached
    induction reached with
    | refl => exact List.mem_map_of_mem tree.object_mem_objects
    | tail _ reported inductionHypothesis =>
      obtain ⟨object, inObjects, same⟩ := List.mem_map.mp inductionHypothesis
      obtain ⟨found, dependent, rfl⟩ := reported.exists_dependent same
      exact (inTree _).mp
        (grown.closed tree List.mem_cons_self object inObjects found dependent)

/-- The tree of an existing object is its closure. The levels of the search are enough, because the
size of the target is no less than the number of listed keys, and the root takes one more. -/
theorem settles_treeOf (root : DatabaseObject) (session : Session σ)
    (holds : catalogue.holds session.target) :
    catalogue.Settles (fun grown => grown.1.object = root ∧ catalogue.IsClosure grown.1)
      (Scan.treeOf target root session) := by
  have enough : (catalogue.unseenKeys [root.key]).card < target.size session.target + 1 :=
    Nat.lt_succ_of_le ((Finset.card_le_card Finset.sdiff_subset).trans
      (catalogue.bounded session.target holds))
  have grows := Scan.grow_settles (target.size session.target + 1) root [root.key] session holds
    enough
  exact grows.imp fun grown ⟨same, closed⟩ => ⟨same, isClosure_of_grown (same ▸ closed)⟩

end Catalogue

end SchemaForward
