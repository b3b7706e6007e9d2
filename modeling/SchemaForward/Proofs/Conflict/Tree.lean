import SchemaForward.Conflict.Tree

/-!
# Objects and links of conflict trees

The objects of a tree are its root and the objects of the trees below, and its links are those of
the root to its children and the links below. Depth plays no part in either. Each object of a tree
is led to from the root by links, and a parent stands before its children.

The objects strictly below the roots of a forest are counted apart from the roots themselves: when
a tree is grown, its root is known beforehand and all the others are new.
-/

namespace SchemaForward

namespace ConflictTree

/-- What holds of a tree once it holds of the trees below its root holds of every tree. -/
@[elab_as_elim]
theorem inductionOn {motive : ConflictTree → Prop} (tree : ConflictTree)
    (node : ∀ root below, (∀ tree ∈ below, motive tree) → motive (.node root below)) :
    motive tree :=
  match tree with
  | .node root below => node root below fun tree _ => inductionOn tree node

mutual

/-- The depth at which an outline starts does not change its objects. -/
theorem map_outlineFrom (depth : Nat) (tree : ConflictTree) :
    (tree.outlineFrom depth).map (·.2) = tree.objects := by
  match tree with
  | .node root below =>
    simp only [objects, outline, outlineFrom, List.map_cons, map_outlineBelow]

/-- The objects of neighbouring trees are those of each tree in turn. -/
theorem map_outlineBelow (depth : Nat) (trees : List ConflictTree) :
    (outlineBelow depth trees).map (·.2) = trees.flatMap objects := by
  match trees with
  | [] => rfl
  | tree :: rest =>
    simp only [outlineBelow, List.map_append, List.flatMap_cons, map_outlineFrom,
      map_outlineBelow]

end

/-- The objects of a tree are its root and then those of the trees below it, one after the other. -/
@[simp]
theorem objects_node (root : DatabaseObject) (below : List ConflictTree) :
    (node root below).objects = root :: below.flatMap objects := by
  simp only [objects, outline, outlineFrom, List.map_cons, map_outlineBelow]

/-- The links below an object are, for each tree there, the one to its root and those within it. The
recursion of the definition goes through both at once. -/
theorem linksUnder_eq (parent : DatabaseObject) (trees : List ConflictTree) :
    linksUnder parent trees = trees.flatMap fun tree => (tree.object, parent) :: tree.links := by
  induction trees with
  | nil => rfl
  | cons tree rest inductionHypothesis =>
    simp [linksUnder, inductionHypothesis]

/-- The links of a tree are those to the roots below its own, and those within the trees of these
roots. -/
@[simp]
theorem links_node (root : DatabaseObject) (below : List ConflictTree) :
    (node root below).links = below.flatMap fun tree => (tree.object, root) :: tree.links :=
  linksUnder_eq root below

/-- A tree has its root among its objects. -/
theorem object_mem_objects (tree : ConflictTree) : tree.object ∈ tree.objects := by
  cases tree with
  | node root below => simp [object]

/-- A parent stands before its children among the objects of a tree. The objects are listed in
preorder, so everything below an object comes behind it. -/
theorem parent_child_sublist {tree : ConflictTree} {link : DatabaseObject × DatabaseObject}
    (member : link ∈ tree.links) : [link.2, link.1].Sublist tree.objects := by
  induction tree using inductionOn with
  | node root below inductionHypothesis =>
    simp only [links_node, List.mem_flatMap, List.mem_cons] at member
    obtain ⟨tree, inBelow, rfl | inTree⟩ := member
    · rw [objects_node]
      refine List.Sublist.cons_cons root (List.singleton_sublist.mpr ?_)
      exact List.mem_flatMap.mpr ⟨tree, inBelow, tree.object_mem_objects⟩
    · have inside : tree.objects.Sublist (below.flatMap objects) := by
        rw [List.flatMap_def]
        exact List.sublist_flatten_of_mem (List.mem_map_of_mem inBelow)
      rw [objects_node]
      exact ((inductionHypothesis tree inBelow inTree).trans inside).cons root

/-- A property of the root that links pass on from parent to child is one of all objects. The
induction is on the tree: each child gets the property through its link from the root. -/
theorem of_mem_objects (property : DatabaseObject → Prop) {tree : ConflictTree}
    (root : property tree.object)
    (passed : ∀ link ∈ tree.links, property link.2 → property link.1) :
    ∀ object ∈ tree.objects, property object := by
  induction tree using inductionOn with
  | node top below inductionHypothesis =>
    intro object member
    simp only [objects_node, List.mem_cons, List.mem_flatMap] at member
    rcases member with rfl | ⟨tree, inBelow, inTree⟩
    · exact root
    · have linked : ∀ link ∈ (tree.object, top) :: tree.links,
          link ∈ (node top below).links := by
        intro link inLinks
        rw [links_node, List.mem_flatMap]
        exact ⟨tree, inBelow, inLinks⟩
      have child : property tree.object := passed _ (linked _ List.mem_cons_self) root
      exact inductionHypothesis tree inBelow child
        (fun link inLinks => passed link (linked link (List.mem_cons_of_mem _ inLinks)))
        object inTree

/-- The objects of a forest without the roots of its trees. -/
def objectsBelow (trees : List ConflictTree) : List DatabaseObject :=
  trees.flatMap fun tree => tree.dependents.flatMap objects

/-- Below the roots of no trees there is nothing. -/
@[simp]
theorem objectsBelow_nil : objectsBelow [] = [] := by
  rw [objectsBelow, List.flatMap_nil]

/-- Below the root of the first tree are the trees that it was made of, and the others are left as
they are. -/
@[simp]
theorem objectsBelow_node (root : DatabaseObject) (below rest : List ConflictTree) :
    objectsBelow (node root below :: rest) = below.flatMap objects ++ objectsBelow rest := by
  rw [objectsBelow, List.flatMap_cons, dependents, objectsBelow]

/-- What is below the roots of neighbouring forests is what is below those of each. -/
@[simp]
theorem objectsBelow_append (first second : List ConflictTree) :
    objectsBelow (first ++ second) = objectsBelow first ++ objectsBelow second :=
  List.flatMap_append

/-- The objects of a forest are its roots and what is below them, in some order. Tree by tree, the
root comes first and what is below it next; only the order between the trees is another one. -/
theorem perm_roots_objectsBelow (trees : List ConflictTree) :
    (trees.flatMap objects).Perm (trees.map object ++ objectsBelow trees) := by
  induction trees with
  | nil => exact List.Perm.refl _
  | cons tree rest inductionHypothesis =>
    cases tree with
    | node root below =>
      simp only [List.flatMap_cons, objects_node, objectsBelow_node, List.map_cons, object,
        List.cons_append]
      refine List.Perm.cons root ?_
      refine (List.Perm.append_left _ inductionHypothesis).trans ?_
      rw [← List.append_assoc, ← List.append_assoc]
      exact List.perm_append_comm.append_right _

end ConflictTree

end SchemaForward
