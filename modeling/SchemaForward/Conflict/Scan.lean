import SchemaForward.Conflict.Tree
import SchemaForward.Target.Basic

/-!
# Looking for conflicts

Every object that a script creates is looked up in the target, in order. What stands in its way is
the root of a conflict tree. The tree is grown depth first: an object's dependents are asked for,
those whose key is not yet in the tree become its children, and then each child is grown in turn.
The cancel flag is looked at before each object of the script, and nowhere else.
-/

namespace SchemaForward

namespace Scan

/-- The first object of each key that was not seen before, and the keys seen by then. -/
def unseen : List ObjectKey → List DatabaseObject → List DatabaseObject × List ObjectKey
  | seen, [] => ([], seen)
  | seen, object :: rest =>
    if seen.contains object.key then unseen seen rest
    else
      let (others, last) := unseen (object.key :: seen) rest
      (object :: others, last)

/-- The error of a scan that failed at an object. -/
def failure (object : DatabaseObject) (error : Failure) : Failure :=
  .scanFailed object error.message

/-- The ending of a question about an object. -/
def answered {σ α : Type} (object : DatabaseObject) (result : Reply α × Session σ) :
    Ending α × Session σ :=
  match result.1 with
  | .answer value => (.finished value, result.2)
  | .failure error => (.failed (failure object error), result.2)
  | .crash => (.crashed, result.2)

/-- The trees of objects in order, each grown with the keys seen by the ones before. -/
def growEach {σ : Type}
    (grow : DatabaseObject → List ObjectKey → Session σ →
      Ending (ConflictTree × List ObjectKey) × Session σ) :
    List DatabaseObject → List ObjectKey → Session σ →
      Ending (List ConflictTree × List ObjectKey) × Session σ
  | [], seen, session => (.finished ([], seen), session)
  | object :: rest, seen, session =>
    Ending.andThen (grow object seen session) fun grown next =>
      Ending.andThen (growEach grow rest grown.2 next) fun others final =>
        (.finished (grown.1 :: others.1, others.2), final)

/-- The tree of an object, and the keys seen by then. Objects on as many levels as given are asked
about, from that of the root on. Every level has a key that was not seen before, so that no object
is left out if there are more levels than keys to be reported. -/
def grow {σ : Type} (target : Target σ) :
    Nat → DatabaseObject → List ObjectKey → Session σ →
      Ending (ConflictTree × List ObjectKey) × Session σ
  | 0, object, seen, session => (.finished (.node object [], seen), session)
  | levels + 1, object, seen, session =>
    Ending.andThen (answered object (target.dependentsIn object session)) fun found next =>
      let children := unseen seen found
      Ending.andThen (growEach (grow target levels) children.1 children.2 next)
        fun below final => (.finished (.node object below.1, below.2), final)

/-- The conflict tree of an existing object. Below it lie no more levels than the target has
objects. -/
def treeOf {σ : Type} (target : Target σ) (root : DatabaseObject) (session : Session σ) :
    Ending (ConflictTree × List ObjectKey) × Session σ :=
  grow target (target.size session.target + 1) root [root.key] session

/-- The conflicts of one subject: none, or one. -/
def inspect {σ : Type} (target : Target σ) (subject : DatabaseObject) (session : Session σ) :
    Ending (List ConflictTree) × Session σ :=
  Ending.andThen (answered subject (target.findIn subject session)) fun found next =>
    match found with
    | none => (.finished [], next)
    | some root =>
      Ending.andThen (treeOf target root next) fun grown final => (.finished [grown.1], final)

/-- What a scan has come to: the conflicts found so far and the number of objects done. -/
structure State where
  found : List ConflictTree
  done : Nat

/-- The conflicts of subjects in order, with the progress made through a job of the given size. -/
def run {σ : Type} (target : Target σ) (jobSize : Nat) :
    List DatabaseObject → State → Session σ → Ending Unit × State × Session σ
  | [], state, session => (.finished (), state, session)
  | subject :: rest, state, session =>
    if session.cancelled then (.cancelled, state, session)
    else
      match inspect target subject session with
      | (.finished conflicts, next) =>
        run target jobSize rest ⟨state.found ++ conflicts, state.done + 1⟩
          (next.publish .find jobSize (state.done + 1))
      | (.cancelled, next) => (.cancelled, state, next)
      | (.failed error, next) => (.failed error, state, next)
      | (.crashed, next) => (.crashed, state, next)

end Scan

end SchemaForward
