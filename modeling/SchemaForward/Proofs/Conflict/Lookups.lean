import SchemaForward.Conflict.Clearance

/-!
# Lookups of a scan

A scan looks up its subjects one after the other. What a lookup is answered with depends on the
session it is made in, and so on all that was asked before. The replies listed here are those of the
very lookups that a scan makes. If it finishes, all of them are answers, and the objects among the
answers are the roots of its trees, in the same order. This holds of every target.
-/

namespace SchemaForward

/-- Work that goes on with a value has finished only if both parts have. The value of the first part
and the session it left are what the second part went on from. -/
theorem Ending.andThen_finished {σ α β : Type} {result : Ending α × Session σ}
    {continuation : α → Session σ → Ending β × Session σ} {value : β}
    (finished : (andThen result continuation).1 = .finished value) :
    ∃ first, result.1 = .finished first ∧ (continuation first result.2).1 = .finished value := by
  rcases result with ⟨ending, between⟩
  cases ending with
  | finished first => exact ⟨first, rfl, finished⟩
  | cancelled => cases finished
  | failed error => cases finished
  | crashed => cases finished

namespace Scan

variable {σ : Type} {target : Target σ}

/-- Work goes on from a reply only if that was an answer, and with the value that it brought. A
failure or a call that did not come back has no value to go on with. -/
theorem answer_of_answered {α : Type} {object : DatabaseObject} {result : Reply α × Session σ}
    {value : α} (finished : (answered object result).1 = .finished value) :
    result.1 = .answer value := by
  rcases result with ⟨reply, session⟩
  cases reply with
  | answer other =>
    cases finished
    rfl
  | failure error => cases finished
  | crash => cases finished

/-- The replies to the lookups of subjects, in the sessions in which a scan makes them. -/
def lookups (target : Target σ) (jobSize : Nat) :
    List DatabaseObject → Nat → Session σ → List (Reply (Option DatabaseObject))
  | [], _, _ => []
  | subject :: rest, done, session =>
    (target.findIn subject session).1 ::
      lookups target jobSize rest (done + 1)
        ((inspect target subject session).2.publish .find jobSize (done + 1))

/-- A tree that was grown has the object it was grown from as its root. However few levels there
are, the tree stands for the object itself; what is left out lies below it. -/
theorem object_of_grow {levels : Nat} {object : DatabaseObject} {seen : List ObjectKey}
    {session : Session σ} {grown : ConflictTree × List ObjectKey}
    (finished : (grow target levels object seen session).1 = .finished grown) :
    grown.1.object = object := by
  cases levels with
  | zero =>
    cases finished
    rfl
  | succ levels =>
    obtain ⟨found, -, rest⟩ := Ending.andThen_finished finished
    obtain ⟨below, -, last⟩ := Ending.andThen_finished rest
    cases last
    rfl

/-- The root of what stands in the way of a subject is the answer to its lookup. It has one tree if
there is such an object, and none if the answer is that there is none. -/
theorem roots_of_inspect {subject : DatabaseObject} {session : Session σ}
    {trees : List ConflictTree}
    (finished : (inspect target subject session).1 = .finished trees) :
    ∃ found, (target.findIn subject session).1 = .answer found ∧
      trees.map ConflictTree.object = found.toList := by
  obtain ⟨found, isAnswer, rest⟩ := Ending.andThen_finished finished
  refine ⟨found, answer_of_answered isAnswer, ?_⟩
  cases found with
  | none =>
    cases rest
    rfl
  | some root =>
    obtain ⟨grown, isGrown, last⟩ := Ending.andThen_finished rest
    cases last
    simp [object_of_grow isGrown]

/-- The roots of the trees that a finished run adds are the objects its lookups were answered with,
in order. -/
theorem roots_of_run (jobSize : Nat) (subjects : List DatabaseObject) (state : State)
    (session : Session σ)
    (finished : (run target jobSize subjects state session).1 = .finished ()) :
    ∃ answers : List (Option DatabaseObject),
      lookups target jobSize subjects state.done session = answers.map Reply.answer ∧
        (run target jobSize subjects state session).2.1.found.map ConflictTree.object =
          state.found.map ConflictTree.object ++ answers.filterMap id := by
  induction subjects generalizing state session with
  | nil => exact ⟨[], rfl, by simp [run]⟩
  | cons subject rest inductionHypothesis =>
    rw [run] at finished ⊢
    by_cases stopped : session.cancelled = true
    · rw [if_pos stopped] at finished
      cases finished
    · rw [if_neg stopped] at finished ⊢
      rcases inspected : inspect target subject session with ⟨ending, next⟩
      rw [inspected] at finished
      cases ending with
      | cancelled => cases finished
      | failed error => cases finished
      | crashed => cases finished
      | finished trees =>
        obtain ⟨found, answered, roots⟩ := roots_of_inspect (congrArg Prod.fst inspected)
        obtain ⟨answers, replies, others⟩ := inductionHypothesis _ _ finished
        refine ⟨found :: answers, ?_, ?_⟩
        · rw [lookups, inspected, answered, replies, List.map_cons]
        · rw [others, List.map_append, roots, List.append_assoc]
          cases found <;> rfl

end Scan

namespace Clearance

/-- The roots of the conflicts that a finished scan of a script leaves are the objects its lookups
were answered with. -/
theorem roots_of_find {σ : Type} {target : Target σ} {dialect : Dialect}
    {statements : List Statement} {session : Session σ}
    (finished : ((ofScript dialect statements).find target session).1 = .finished ()) :
    let clearance := ofScript dialect statements
    ∃ answers : List (Option DatabaseObject),
      Scan.lookups target clearance.jobSize clearance.subjects 0
          (session.publish .find clearance.jobSize 0) = answers.map Reply.answer ∧
        (clearance.find target session).2.1.conflicts.map ConflictTree.object =
          answers.filterMap id := by
  intro clearance
  have notStarted : ¬ clearance.started = true := Bool.false_ne_true
  have noProgress : clearance.progress = 0 := rfl
  change (clearance.find target session).1 = .finished () at finished
  rw [find, if_neg notStarted] at finished ⊢
  rw [noProgress] at finished ⊢
  rcases ran : Scan.run target clearance.jobSize clearance.subjects ⟨[], 0⟩
    (session.publish .find clearance.jobSize 0) with ⟨ending, state, next⟩
  rw [ran] at finished
  cases ending with
  | finished =>
    have roots := Scan.roots_of_run clearance.jobSize clearance.subjects ⟨[], 0⟩
      (session.publish .find clearance.jobSize 0) (congrArg Prod.fst ran)
    rwa [ran] at roots
  | cancelled => cases finished
  | failed error => cases finished
  | crashed => cases finished

end Clearance

end SchemaForward
