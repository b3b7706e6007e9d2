import SchemaForward.Statement.DatabaseObject
import SchemaForward.Text.Letters

/-!
# Conflict trees

An existing object in the way of a script, with everything that depends on it: the children of an
object must be dropped before it. A tree can be laid out as an outline, its objects in preorder with
their depths.
-/

namespace SchemaForward

/-- An object with the trees of its dependents. -/
inductive ConflictTree where
  | node (object : DatabaseObject) (dependents : List ConflictTree)
  deriving Repr, Inhabited

namespace ConflictTree

/-- The object at the root. -/
def object : ConflictTree → DatabaseObject
  | .node root _ => root

/-- The trees below the root. -/
def dependents : ConflictTree → List ConflictTree
  | .node _ below => below

mutual

/-- The objects of a tree in preorder, each with its depth. -/
def outlineFrom (depth : Nat) : ConflictTree → List (Nat × DatabaseObject)
  | .node root below => (depth, root) :: outlineBelow (depth + 1) below

/-- The objects of neighbouring trees in preorder, each with its depth. -/
def outlineBelow (depth : Nat) : List ConflictTree → List (Nat × DatabaseObject)
  | [] => []
  | tree :: rest => outlineFrom depth tree ++ outlineBelow depth rest

end

/-- The outline of a tree. -/
def outline (tree : ConflictTree) : List (Nat × DatabaseObject) :=
  tree.outlineFrom 0

/-- The objects of a tree in preorder. -/
def objects (tree : ConflictTree) : List DatabaseObject :=
  tree.outline.map (·.2)

/-- The number of objects in a tree. -/
def size (tree : ConflictTree) : Nat :=
  tree.outline.length

mutual

/-- The pairs of a child and its parent in a tree. -/
def links : ConflictTree → List (DatabaseObject × DatabaseObject)
  | .node root below => linksUnder root below

/-- The pairs of a child and its parent in the trees below an object. -/
def linksUnder (parent : DatabaseObject) :
    List ConflictTree → List (DatabaseObject × DatabaseObject)
  | [] => []
  | tree :: rest => (tree.object, parent) :: (links tree ++ linksUnder parent rest)

end

/-- The forest that an outline describes, each tree with its depth. An object takes the deeper trees
that follow it as its dependents. -/
def forest (outline : List (Nat × DatabaseObject)) : List (Nat × ConflictTree) :=
  outline.foldr
    (fun entry later =>
      let below := later.takeWhile fun tree => entry.1 < tree.1
      (entry.1, .node entry.2 (below.map (·.2))) :: later.dropWhile fun tree => entry.1 < tree.1)
    []

/-- One line of a tree: a table below the root would lose its rows. -/
def line (entry : Nat × DatabaseObject) : String :=
  let margin := String.ofList (List.replicate (entry.1 * 2) ' ')
  let note :=
    if entry.1 != 0 && entry.2.kind == .table then " (dependent table, data will be lost)" else ""
  margin ++ entry.2.describe ++ note ++ "\n"

/-- A tree as indented text, one object a line. -/
def render (tree : ConflictTree) : String :=
  String.join (tree.outline.map line)

end ConflictTree

end SchemaForward
