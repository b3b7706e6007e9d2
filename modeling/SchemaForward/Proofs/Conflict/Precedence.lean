import SchemaForward.Proofs.Conflict.Order

/-!
# What goes before what

What has to go first is a relation of keys: a child in some tree goes before its parent, and an
index or a constraint before its table, if that table is dropped too. The list of precedences that
an order is made from says just this of the objects that are dropped. It also names tables that are
not dropped at all, but nothing leads on from those, so they are in no cycle.
-/

namespace SchemaForward

namespace DropPlan

/-- The object of the first key has to go before that of the second: it is its child in some tree,
or an index or a constraint on that table. -/
inductive Precedes (trees : List ConflictTree) : ObjectKey → ObjectKey → Prop
  | below {tree : ConflictTree} (inTrees : tree ∈ trees) {child parent : DatabaseObject}
      (linked : (child, parent) ∈ tree.links) (differ : child.key ≠ parent.key) :
      Precedes trees child.key parent.key
  | owned {object table : DatabaseObject} (planned : object ∈ objects trees)
      (tablePlanned : table ∈ objects trees) (isOwned : object.kind ≠ .table)
      (isTable : table.kind = .table) {owner : String} (on : object.table = some owner)
      (named : Text.sameLetters owner table.name = true)
      (schemas : DatabaseObject.schemasAgree object.schema table.schema = true) :
      Precedes trees object.key table.key

/-- Schemas agree exactly if they are the same in upper case. -/
theorem schemasAgree_iff {first second : Option String} :
    DatabaseObject.schemasAgree first second = true ↔
      first.map Text.upper = second.map Text.upper := by
  cases first <;> cases second <;> simp [DatabaseObject.schemasAgree, Text.sameLetters]

/-- An object is owned by a table exactly if it is no table itself and says that it is on a table of
this name in this schema, whatever the case of letters. -/
theorem ownerKey?_eq_some_iff {object table : DatabaseObject} (isTable : table.kind = .table) :
    ownerKey? object = some table.key ↔ object.kind ≠ .table ∧ ∃ owner, object.table = some owner ∧
      Text.sameLetters owner table.name = true ∧
        DatabaseObject.schemasAgree object.schema table.schema = true := by
  have sameKey : ∀ owner : String,
      ({ object with kind := .table, name := owner, table := none } : DatabaseObject).key =
          table.key ↔
        Text.sameLetters owner table.name = true ∧
          DatabaseObject.schemasAgree object.schema table.schema = true := by
    intro owner
    rw [schemasAgree_iff, Text.sameLetters, beq_iff_eq]
    simp [DatabaseObject.key, isTable, and_comm]
  by_cases kind : object.kind = .table
  · simp [ownerKey?, kind]
  · simp [ownerKey?, kind, sameKey]

/-- An owner is a table. -/
theorem kind_of_ownerKey? {object : DatabaseObject} {owner : ObjectKey}
    (isOwner : ownerKey? object = some owner) : owner.kind = .table := by
  simp only [ownerKey?] at isOwner
  split at isOwner
  · cases isOwner
  · obtain ⟨name, -, rfl⟩ := Option.map_eq_some_iff.mp isOwner
    rfl

variable {trees : List ConflictTree}

/-- Both ends of a link are dropped. -/
theorem mem_keys_of_mem_links {tree : ConflictTree} (inTrees : tree ∈ trees)
    {link : DatabaseObject × DatabaseObject} (linked : link ∈ tree.links) :
    link.1.key ∈ (objects trees).map DatabaseObject.key ∧
      link.2.key ∈ (objects trees).map DatabaseObject.key := by
  have inTree := (ConflictTree.parent_child_sublist linked).subset
  exact ⟨(mem_keys_objects trees _).mpr ⟨tree, inTrees, List.mem_map_of_mem (inTree (by simp))⟩,
    (mem_keys_objects trees _).mpr ⟨tree, inTrees, List.mem_map_of_mem (inTree (by simp))⟩⟩

/-- Whatever precedes something is dropped, and so is what it precedes. -/
theorem Precedes.planned {first second : ObjectKey} (precedes : Precedes trees first second) :
    first ∈ (objects trees).map DatabaseObject.key ∧
      second ∈ (objects trees).map DatabaseObject.key := by
  cases precedes with
  | below inTrees linked differ => exact mem_keys_of_mem_links inTrees linked
  | owned planned tablePlanned isOwned isTable on named schemas =>
    exact ⟨List.mem_map_of_mem planned, List.mem_map_of_mem tablePlanned⟩

/-- Nothing has to be dropped before itself: a link between equal keys is left out, and the key of
an owner is that of a table, unlike those of what it owns. -/
theorem Precedes.ne {first second : ObjectKey} (precedes : Precedes trees first second) :
    first ≠ second := by
  cases precedes with
  | below inTrees linked differ => exact differ
  | owned planned tablePlanned isOwned isTable on named schemas =>
    intro same
    exact isOwned ((congrArg ObjectKey.kind same).trans isTable)

/-- A link of a tree gives a precedence of the child before its parent, unless both have the same
key. -/
theorem mem_dependencePrecedences {first second : ObjectKey} :
    (first, second) ∈ dependencePrecedences trees ↔ ∃ tree ∈ trees, ∃ link ∈ tree.links,
      link.1.key = first ∧ link.2.key = second ∧ first ≠ second := by
  simp only [dependencePrecedences, List.mem_filter, List.mem_map, List.mem_flatMap,
    Prod.mk.injEq, bne_iff_ne, ne_eq]
  constructor
  · rintro ⟨⟨link, ⟨tree, inTrees, linked⟩, rfl, rfl⟩, differ⟩
    exact ⟨tree, inTrees, link, linked, rfl, rfl, differ⟩
  · rintro ⟨tree, inTrees, link, linked, rfl, rfl, differ⟩
    exact ⟨⟨link, ⟨tree, inTrees, linked⟩, rfl, rfl⟩, differ⟩

/-- Everything that is dropped and has an owner goes before the table of that name, whether or not
this table is dropped too. -/
theorem mem_ownerPrecedences {planned : List DatabaseObject} {first second : ObjectKey} :
    (first, second) ∈ ownerPrecedences planned ↔
      ∃ object ∈ planned, object.key = first ∧ ownerKey? object = some second := by
  simp only [ownerPrecedences, List.mem_filterMap, Option.map_eq_some_iff, Prod.mk.injEq]
  constructor
  · rintro ⟨object, isPlanned, owner, isOwner, rfl, rfl⟩
    exact ⟨object, isPlanned, rfl, isOwner⟩
  · rintro ⟨object, isPlanned, rfl, isOwner⟩
    exact ⟨object, isPlanned, second, isOwner, rfl, rfl⟩

/-- The first of a precedence is dropped. -/
theorem mem_keys_of_mem_precedences {first second : ObjectKey}
    (member : (first, second) ∈ precedences trees) :
    first ∈ (objects trees).map DatabaseObject.key := by
  rcases List.mem_append.mp member with dependence | ownership
  · obtain ⟨tree, inTrees, link, linked, rfl, -, -⟩ := mem_dependencePrecedences.mp dependence
    exact (mem_keys_of_mem_links inTrees linked).1
  · obtain ⟨object, isPlanned, rfl, -⟩ := mem_ownerPrecedences.mp ownership
    exact List.mem_map_of_mem isPlanned

/-- Of what is dropped, the list of precedences says what has to go first. There are two kinds: what
lies below another in a tree, and what a table owns. For an object that is not dropped the list may
say more, since its owner is only looked for among the dropped. -/
theorem mem_precedences_iff {first second : ObjectKey}
    (planned : second ∈ (objects trees).map DatabaseObject.key) :
    (first, second) ∈ precedences trees ↔ Precedes trees first second := by
  rw [precedences, List.mem_append]
  constructor
  · rintro (dependence | ownership)
    · obtain ⟨tree, inTrees, link, linked, rfl, rfl, differ⟩ :=
        mem_dependencePrecedences.mp dependence
      exact .below inTrees linked differ
    · obtain ⟨object, isPlanned, rfl, isOwner⟩ := mem_ownerPrecedences.mp ownership
      obtain ⟨table, tablePlanned, rfl⟩ := List.mem_map.mp planned
      have isTable : table.kind = .table := kind_of_ownerKey? isOwner
      obtain ⟨isOwned, owner, on, named, schemas⟩ := (ownerKey?_eq_some_iff isTable).mp isOwner
      exact .owned isPlanned tablePlanned isOwned isTable on named schemas
  · intro precedes
    cases precedes with
    | below inTrees linked differ =>
      exact Or.inl (mem_dependencePrecedences.mpr ⟨_, inTrees, _, linked, rfl, rfl, differ⟩)
    | owned isPlanned tablePlanned isOwned isTable on named schemas =>
      have isOwner := (ownerKey?_eq_some_iff isTable).mpr ⟨isOwned, _, on, named, schemas⟩
      exact Or.inr (mem_ownerPrecedences.mpr ⟨_, isPlanned, rfl, isOwner⟩)

/-- What has to go first is in the list of precedences. -/
theorem Precedes.mem {first second : ObjectKey} (precedes : Precedes trees first second) :
    (first, second) ∈ precedences trees :=
  (mem_precedences_iff precedes.planned.2).mpr precedes

/-- A chain in the list of precedences that ends with something dropped is a chain of what has to go
first: all along it, what precedes something is dropped. -/
theorem transGen_precedes {first second : ObjectKey}
    (planned : second ∈ (objects trees).map DatabaseObject.key)
    (chain : Relation.TransGen (fun first second => (first, second) ∈ precedences trees)
      first second) : Relation.TransGen (Precedes trees) first second := by
  induction chain using Relation.TransGen.head_induction_on with
  | single member => exact .single ((mem_precedences_iff planned).mp member)
  | head member chain inductionHypothesis =>
    obtain ⟨_, next, -⟩ := Relation.TransGen.head'_iff.mp chain
    exact .head ((mem_precedences_iff (mem_keys_of_mem_precedences next)).mp member)
      inductionHypothesis

/-- If nothing has to go before itself, the list of precedences has no cycle. -/
theorem acyclic_precedences
    (acyclic : ∀ key, ¬ Relation.TransGen (Precedes trees) key key) :
    Acyclic (precedences trees) := by
  intro key cycle
  obtain ⟨_, next, -⟩ := Relation.TransGen.head'_iff.mp cycle
  exact acyclic key (transGen_precedes (mem_keys_of_mem_precedences next) cycle)

/-- Nothing has to go before itself if keys can be ranked so that all precedences ascend. Along a
chain of precedences the rank only rises, so no chain comes back to where it started. -/
theorem acyclic_of_rank (rank : ObjectKey → Nat)
    (ascends : ∀ precedence ∈ precedences trees, rank precedence.1 < rank precedence.2)
    (key : ObjectKey) : ¬ Relation.TransGen (Precedes trees) key key := by
  have ascendsAlong : ∀ first second, Relation.TransGen (Precedes trees) first second →
      rank first < rank second := by
    intro first second chain
    induction chain with
    | single precedes => exact ascends _ precedes.mem
    | tail _ precedes inductionHypothesis =>
      exact inductionHypothesis.trans (ascends _ precedes.mem)
  exact fun cycle => lt_irrefl _ (ascendsAlong key key cycle)

end DropPlan

end SchemaForward
