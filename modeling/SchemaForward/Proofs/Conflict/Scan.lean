import SchemaForward.Dialect.Known
import SchemaForward.Proofs.Conflict.Closure
import SchemaForward.Proofs.Conflict.Lookups
import SchemaForward.Proofs.Conflict.Order

/-!
# Scans of a catalogue

A scan that runs to its end has found one tree for each subject that a lookup answered with an
object, in the order of the subjects: the closure of that object. What is planned to be dropped is
therefore what the found objects reach, nothing more and nothing less. A scan that does not run to
its end was cancelled, or the target has failed or not come back.
-/

namespace SchemaForward

namespace Catalogue

variable {σ : Type} {target : Target σ} (catalogue : Catalogue target)

/-- The trees are those of subjects: one for each subject that was answered with an object, in
order, with that object as its root and as the closure of it. -/
structure Conflicts (subjects : List DatabaseObject) (trees : List ConflictTree) : Prop where
  found : ∃ answers : List (Option DatabaseObject),
    List.Forall₂ catalogue.Answers subjects answers ∧
      trees.map ConflictTree.object = answers.filterMap id
  closed : ∀ tree ∈ trees, catalogue.IsClosure tree

variable {catalogue}

/-- The trees of one subject come before those of the subjects behind it. A subject has one tree or
none, so the trees are as many as there were answers with an object. -/
theorem Conflicts.cons {subject : DatabaseObject} {subjects : List DatabaseObject}
    {first rest : List ConflictTree} (one : catalogue.Conflicts [subject] first)
    (others : catalogue.Conflicts subjects rest) :
    catalogue.Conflicts (subject :: subjects) (first ++ rest) := by
  obtain ⟨⟨answers, answered, roots⟩, closed⟩ := one
  obtain ⟨⟨laterAnswers, laterAnswered, laterRoots⟩, laterClosed⟩ := others
  refine ⟨⟨answers ++ laterAnswers, ?_, ?_⟩, ?_⟩
  · exact List.rel_append answered laterAnswered
  · rw [List.map_append, List.filterMap_append, roots, laterRoots]
  · intro tree member
    rcases List.mem_append.mp member with here | later
    · exact closed tree here
    · exact laterClosed tree later

/-- The root of every tree was the answer to a lookup. The subject is one of those that were looked
up, and the answer was given in some state of the catalogue. -/
theorem Conflicts.exists_answer {subjects : List DatabaseObject} {trees : List ConflictTree}
    (conflicts : catalogue.Conflicts subjects trees) {tree : ConflictTree} (member : tree ∈ trees) :
    ∃ subject ∈ subjects, catalogue.Answers subject (some tree.object) := by
  obtain ⟨answers, answered, roots⟩ := conflicts.found
  have isRoot : tree.object ∈ answers.filterMap id := by
    rw [← roots]
    exact List.mem_map_of_mem member
  have inAnswers : some tree.object ∈ answers := by
    simpa using isRoot
  obtain ⟨position, inRange, same⟩ := List.getElem_of_mem inAnswers
  have lengths : subjects.length = answers.length := answered.length_eq
  refine ⟨subjects[position], List.getElem_mem _, ?_⟩
  rw [← same]
  exact answered.get (lengths ▸ inRange) inRange

/-- Every object of a tree is one that the target mentions. -/
theorem Conflicts.mentions {subjects : List DatabaseObject} {trees : List ConflictTree}
    (conflicts : catalogue.Conflicts subjects trees) {tree : ConflictTree} (member : tree ∈ trees) :
    ∀ object ∈ tree.objects, catalogue.Mentions object := by
  obtain ⟨subject, -, answered⟩ := conflicts.exists_answer member
  refine ConflictTree.of_mem_objects catalogue.Mentions (Or.inl ⟨subject, answered⟩) ?_
  intro link inLinks _
  exact Or.inr ⟨link.2, (conflicts.closed tree member).linked link inLinks⟩

end Catalogue

namespace Scan

variable {σ : Type} {target : Target σ} {catalogue : Catalogue target}

/-- A subject has a tree if its lookup is answered with an object, and none otherwise. That tree is
the closure of the object. The catalogue still holds when both have been asked for. -/
theorem settles_inspect (subject : DatabaseObject) (session : Session σ)
    (holds : catalogue.holds session.target) :
    catalogue.Settles (catalogue.Conflicts [subject]) (inspect target subject session) := by
  refine (catalogue.settles_findIn subject session holds).andThen ?_
  intro found next holdsNext answered
  cases found with
  | none =>
    refine ⟨holdsNext, ⟨[none], ?_, rfl⟩, by simp⟩
    exact List.Forall₂.cons answered List.Forall₂.nil
  | some root =>
    refine (Catalogue.settles_treeOf root next holdsNext).andThen ?_
    intro grown final holdsFinal ⟨same, closed⟩
    refine ⟨holdsFinal, ⟨[some root], ?_, by simp [same]⟩, by simpa using closed⟩
    exact List.Forall₂.cons answered List.Forall₂.nil

/-- How a scan of a catalogue may end: with what is to be shown of a finished one, cancelled, or for
a reason of the target's own. -/
def EndsAs (catalogue : Catalogue target) (finished : Prop) (ending : Ending Unit)
    (session : Session σ) : Prop :=
  match ending with
  | .finished () => finished
  | .cancelled => session.cancelled = true
  | .failed error => catalogue.FailsWith error
  | .crashed => catalogue.Crashes

/-- An ending is good for whatever follows from what it is good for. Endings that are caused from
outside stay as they are. -/
theorem EndsAs.imp {weaker stronger : Prop} {ending : Ending Unit} {session : Session σ}
    (ends : EndsAs catalogue stronger ending session) (follows : stronger → weaker) :
    EndsAs catalogue weaker ending session := by
  cases ending with
  | finished => exact follows ends
  | cancelled => exact ends
  | failed error => exact ends
  | crashed => exact ends

/-- A run over subjects adds their trees to those that were found before. Nothing is promised where
it is cut short, by cancellation, by a failure of the target or by a call that never comes back; but
these are the only ways of that. -/
theorem run_ends (jobSize : Nat) (subjects : List DatabaseObject) (state : State)
    (session : Session σ) (holds : catalogue.holds session.target) :
    EndsAs catalogue
      (∃ trees, catalogue.Conflicts subjects trees ∧
        (run target jobSize subjects state session).2.1.found = state.found ++ trees)
      (run target jobSize subjects state session).1
      (run target jobSize subjects state session).2.2 := by
  induction subjects generalizing state session with
  | nil => exact ⟨[], ⟨⟨[], List.Forall₂.nil, rfl⟩, by simp⟩, by simp [run]⟩
  | cons subject rest inductionHypothesis =>
    by_cases stopped : session.cancelled = true
    · simp [run, stopped, EndsAs]
    · have settled := settles_inspect subject session holds
      rcases inspected : inspect target subject session with ⟨ending, next⟩
      rw [inspected] at settled
      obtain ⟨holdsNext, good⟩ := settled
      rw [run, if_neg stopped, inspected]
      cases ending with
      | cancelled => exact False.elim good
      | failed error => exact good
      | crashed => exact good
      | finished first =>
        have holdsLater :
            catalogue.holds (next.publish .find jobSize (state.done + 1)).target := by
          simpa using holdsNext
        refine (inductionHypothesis ⟨state.found ++ first, state.done + 1⟩ _ holdsLater).imp ?_
        rintro ⟨others, conflicts, foundOthers⟩
        exact ⟨first ++ others, good.cons conflicts, by rw [foundOthers, List.append_assoc]⟩

end Scan

namespace FixedCatalogue

/-- A table of a name. -/
def tableOf (name : String) : DatabaseObject :=
  { kind := .table, name }

/-- The script that creates the table of a name. -/
def creationOf (name : String) : List Statement :=
  [{ kind := .create, subject := some (tableOf name), text := "CREATE TABLE " ++ name }]

/-- The base table and another depend on each other, and the base table on itself. A leaf depends on
the other table. -/
def ring : FixedCatalogue where
  objects := ["base", "other", "leaf"].map tableOf
  dependencies := [(tableOf "base", tableOf "other"), (tableOf "base", tableOf "base"),
    (tableOf "other", tableOf "base"), (tableOf "other", tableOf "leaf")]

end FixedCatalogue

namespace Clearance

variable {σ : Type} {target : Target σ}

/-- The keys of the drops planned for the conflicts of a script are those that the found objects
reach. -/
theorem mem_keys_plan {catalogue : Catalogue target} {clearance : Clearance}
    {subjects : List DatabaseObject}
    (conflicts : catalogue.Conflicts subjects clearance.conflicts) {steps : List DropStep}
    (planned : clearance.plan = .ok steps) (key : ObjectKey) :
    key ∈ steps.map (·.object.key) ↔
      ∃ tree ∈ clearance.conflicts, catalogue.Reaches tree.object.key key := by
  rw [DropPlan.mem_keys_ofTrees planned]
  constructor
  · rintro ⟨tree, member, inTree⟩
    exact ⟨tree, member, ((conflicts.closed tree member).exact key).mp inTree⟩
  · rintro ⟨tree, member, reached⟩
    exact ⟨tree, member, ((conflicts.closed tree member).exact key).mpr reached⟩

/-- A scan of a script ends with the conflicts of its subjects, unless it is cut short. Its
conflicts are those that the run over its subjects has found, since there were none before. -/
theorem find_ends (catalogue : Catalogue target) (dialect : Dialect) (statements : List Statement)
    (session : Session σ) (holds : catalogue.holds session.target) :
    Scan.EndsAs catalogue
      (catalogue.Conflicts (ofScript dialect statements).subjects
        ((ofScript dialect statements).find target session).2.1.conflicts)
      ((ofScript dialect statements).find target session).1
      ((ofScript dialect statements).find target session).2.2 := by
  have holdsBegun : catalogue.holds
      (session.publish .find (ofScript dialect statements).jobSize 0).target := by
    simpa using holds
  have ends := Scan.run_ends (ofScript dialect statements).jobSize
    (ofScript dialect statements).subjects ⟨[], 0⟩ _ holdsBegun
  rw [find, if_neg (by simp [ofScript])]
  rcases ran : Scan.run target (ofScript dialect statements).jobSize
    (ofScript dialect statements).subjects ⟨[], (ofScript dialect statements).progress⟩
    (session.publish .find (ofScript dialect statements).jobSize 0) with ⟨ending, state, next⟩
  have started : (ofScript dialect statements).progress = 0 := rfl
  rw [started] at ran
  rw [ran] at ends
  cases ending with
  | cancelled => exact ends
  | failed error => exact ends
  | crashed => exact ends
  | finished =>
    obtain ⟨trees, conflicts, found⟩ := ends
    have same : trees = state.found := by
      simpa using found.symm
    subst same
    exact conflicts

/-- A scan of a target with a catalogue ends by itself: it finishes, is cancelled, or stops because
the target failed or did not come back. When it finishes, there is one tree for each subject that a
lookup answered with an object, in order and with that object as its root; a tree holds no key
twice, its children are reported as dependents of their parents, and its keys are those that its
root reaches. The keys of the drops that are then planned are those that the found objects reach. -/
theorem find_finds_closures (catalogue : Catalogue target) (dialect : Dialect)
    (statements : List Statement) (session : Session σ) (holds : catalogue.holds session.target) :
    let clearance := ofScript dialect statements
    let result := clearance.find target session
    (result.1 = .cancelled → result.2.2.cancelled = true) ∧
      (∀ error, result.1 = .failed error → catalogue.FailsWith error) ∧
      (result.1 = .crashed → catalogue.Crashes) ∧
      (result.1 = .finished () →
        (∃ answers : List (Option DatabaseObject),
          Scan.lookups target clearance.jobSize clearance.subjects 0
              (session.publish .find clearance.jobSize 0) = answers.map Reply.answer ∧
            result.2.1.conflicts.map ConflictTree.object = answers.filterMap id) ∧
        (∀ tree ∈ result.2.1.conflicts,
          (tree.objects.map DatabaseObject.key).Nodup ∧
            (∀ link ∈ tree.links, link.1 ∈ catalogue.dependents link.2) ∧
            ∀ key, key ∈ tree.objects.map DatabaseObject.key ↔
              catalogue.Reaches tree.object.key key) ∧
        ∀ steps, result.2.1.plan = .ok steps → ∀ key,
          key ∈ steps.map (·.object.key) ↔
            ∃ tree ∈ result.2.1.conflicts, catalogue.Reaches tree.object.key key) := by
  intro clearance result
  have ends := find_ends catalogue dialect statements session holds
  refine ⟨?_, ?_, ?_, ?_⟩
  · intro cancelled
    rwa [show ((ofScript dialect statements).find target session).1 = _ from cancelled] at ends
  · intro error failed
    rwa [show ((ofScript dialect statements).find target session).1 = _ from failed] at ends
  · intro crashed
    rwa [show ((ofScript dialect statements).find target session).1 = _ from crashed] at ends
  · intro finished
    rw [show ((ofScript dialect statements).find target session).1 = _ from finished] at ends
    have conflicts : catalogue.Conflicts clearance.subjects result.2.1.conflicts := ends
    refine ⟨roots_of_find finished, ?_, ?_⟩
    · intro tree member
      have closed := conflicts.closed tree member
      exact ⟨closed.distinct, closed.linked, closed.exact⟩
    · intro steps planned key
      exact mem_keys_plan conflicts planned key

/-- Two tables that depend on each other, one of them on itself too, are found together with what
depends on them. -/
theorem find_finds_ring :
    let fixed := FixedCatalogue.ring
    let result := (ofScript Dialect.Known.generic (FixedCatalogue.creationOf "base")).find
      FixedCatalogue.calls (Session.start fixed)
    result.1 = .finished () ∧
      result.2.1.conflicts.map ConflictTree.object = [FixedCatalogue.tableOf "base"] ∧
      ∀ tree ∈ result.2.1.conflicts,
        tree.objects = ["base", "other", "leaf"].map FixedCatalogue.tableOf ∧
          ∀ key, key ∈ tree.objects.map DatabaseObject.key ↔
            fixed.catalogue.Reaches tree.object.key key := by
  intro fixed result
  have finished : result.1 = .finished () := by
    decide +kernel
  have found := (find_finds_closures fixed.catalogue Dialect.Known.generic
    (FixedCatalogue.creationOf "base") (Session.start fixed) ⟨rfl, rfl, rfl⟩).2.2.2 finished
  have objects : ∀ tree ∈ result.2.1.conflicts,
      tree.objects = ["base", "other", "leaf"].map FixedCatalogue.tableOf := by
    decide +kernel
  refine ⟨finished, by decide +kernel, ?_⟩
  intro tree member
  exact ⟨objects tree member, (found.2.1 tree member).2.2⟩

end Clearance

end SchemaForward
