import SchemaForward.Proofs.Deployment.Stages

/-!
# Approval before drops, drops before the script

Whatever the target replies, whenever cancellation is asked for and whatever the gate decides, a run
delivers the drops that were approved and then the script. Without an approval there are none, and
the script waits for the last of them. The plan that is carried out is made anew from the conflicts;
it is the one that the gate was shown.

The account is by stages: the first sends nothing, each of the others delivers its own statements,
and a stage begins only if the one before it has finished.
-/

namespace SchemaForward

namespace DeploymentReport

/-- The run has done all of its work. -/
def isCompleted (report : DeploymentReport) : Bool :=
  match report.outcome with
  | .completed => true
  | _ => false

/-- A report is complete exactly if its outcome says so. The test reads nothing else of the report,
so the summaries of the stages cannot contradict it. -/
theorem isCompleted_iff {report : DeploymentReport} :
    report.isCompleted = true ↔ report.outcome = .completed := by
  unfold isCompleted
  cases report.outcome <;> simp

/-- The statements of the drops that the gate has agreed to. -/
def approved (report : DeploymentReport) : List String :=
  if report.decision = some .drop then report.drops.map DropStep.statement else []

/-- Two reports agree on what was found and what the gate said about it. -/
def SameAnswer (first second : DeploymentReport) : Prop :=
  first.conflicts = second.conflicts ∧ first.drops = second.drops ∧
    first.decision = second.decision

/-- Runs that got the same answer have the same statements approved. What was done with them later
does not count here. -/
theorem SameAnswer.approved_eq {first second : DeploymentReport}
    (same : first.SameAnswer second) : first.approved = second.approved := by
  simp only [approved, same.2.1, same.2.2]

end DeploymentReport

namespace Deployment

variable {σ : Type}

/-- The texts of a script that are run. -/
def script (statements : List Statement) : List String :=
  (runnable statements).map Statement.text

/-- A stage delivers what its work delivers, or nothing at all. It delivers nothing if the flag is
set when its turn comes, and then it is not complete either. -/
theorem runStage_delivers {α : Type} (stage : Stage)
    {work : Session σ → StageReport α × Session σ} {texts : List String} {session : Session σ}
    (delivers : Delivers texts session (work session).1.ending.isFinished (work session).2) :
    let result := runStage stage work session
    Delivers texts session result.1.isFinished result.2.2 := by
  intro result
  rw [show result = runStage stage work session from rfl, runStage]
  split
  · exact Delivers.nothing texts rfl
  · rcases worked : work session with ⟨⟨ending, jobSize, progress⟩, next⟩
    rw [worked] at delivers
    cases ending <;> exact delivers

/-- A run over statements delivers their texts. -/
theorem runStatements_delivers (target : Target σ) (jobSize : Nat) (statements : List Statement)
    (done : Nat) (session : Session σ) :
    let result := runStatements target jobSize statements done session
    Delivers (statements.map Statement.text) session result.1.ending.isFinished result.2 :=
  (sending_runStatements target jobSize statements done session).2.delivers

/-- The work of the third stage delivers the script. -/
theorem executeWork_delivers (target : Target σ) (statements : List Statement)
    (session : Session σ) :
    let result := executeWork target statements session
    Delivers (script statements) session result.1.ending.isFinished result.2 :=
  (runStatements_delivers target _ (runnable statements) 0 _).of_sent_eq
    (Session.sent_publish _ _ _ _)

/-- The third stage delivers the script and leaves the answer of the gate as it is. The run is
completed exactly if all of the script was accepted; that is what completes this stage. -/
theorem execute_delivers (target : Target σ) (statements : List Statement)
    (report : DeploymentReport) (session : Session σ) (stillOpen : report.outcome = .completed) :
    let result := execute target statements report session
    Delivers (script statements) session result.1.isCompleted result.2 ∧
      result.1.SameAnswer report := by
  have delivers := runStage_delivers .execute
    (executeWork_delivers target statements session)
  rw [execute]
  rcases staged : runStage .execute (executeWork target statements) session with
    ⟨ending, status, next⟩
  rw [staged] at delivers
  have completed : report.isCompleted = true := DeploymentReport.isCompleted_iff.mpr stillOpen
  cases ending with
  | finished => exact ⟨completed ▸ delivers, rfl, rfl, rfl⟩
  | cancelled => exact ⟨delivers, rfl, rfl, rfl⟩
  | failed error => exact ⟨delivers, rfl, rfl, rfl⟩
  | crashed => exact ⟨delivers, rfl, rfl, rfl⟩

/-- The work of the second stage delivers the planned drops. -/
theorem resolveWork_delivers (target : Target σ) {clearance : Clearance} (jobSize : Nat)
    (session : Session σ) {steps : List DropStep} (planned : clearance.plan = .ok steps) :
    let result := resolveWork target clearance jobSize session
    Delivers (steps.map DropStep.statement) session result.1.ending.isFinished result.2 :=
  Clearance.drop_delivers session planned

/-- The second stage delivers the planned drops, and if it finished the third one the script. What
is accepted of both together is then a prefix of the drops and the script, put one behind the other.
The answer of the gate was recorded before and stays what it is. -/
theorem resolve_delivers (target : Target σ) (statements : List Statement) {clearance : Clearance}
    (report : DeploymentReport) (session : Session σ) {steps : List DropStep}
    (planned : clearance.plan = .ok steps) (stillOpen : report.outcome = .completed) :
    let result := resolve target statements clearance report session
    Delivers (steps.map DropStep.statement ++ script statements) session result.1.isCompleted
        result.2 ∧
      result.1.SameAnswer report := by
  have delivers := runStage_delivers .resolve
    (resolveWork_delivers target report.drops.length session planned)
  rw [resolve]
  rcases staged : runStage .resolve (resolveWork target clearance report.drops.length) session with
    ⟨ending, status, next⟩
  rw [staged] at delivers
  cases ending with
  | finished =>
    obtain ⟨deliversScript, same⟩ := execute_delivers target statements
      { report with resolve := status } next stillOpen
    exact ⟨delivers.andThen deliversScript, same⟩
  | cancelled => exact ⟨delivers.unfinished _, rfl, rfl, rfl⟩
  | failed error => exact ⟨delivers.unfinished _, rfl, rfl, rfl⟩
  | crashed => exact ⟨delivers.unfinished _, rfl, rfl, rfl⟩

/-- What a run has done, and the gate's part in it: it delivered what was approved and then the
script, the decision is the gate's own about the conflicts and drops of the report, and without
conflicts there is none. -/
structure Follows (gate : Gate) (statements : List Statement) (before : Session σ)
    (result : DeploymentReport × Session σ) : Prop where
  delivers : Delivers (result.1.approved ++ script statements) before result.1.isCompleted result.2
  decided : ∀ decision, result.1.decision = some decision →
    result.1.conflicts ≠ [] ∧ decision = (gate result.1.conflicts result.1.drops).decision
  agreed : result.1.outcome = .completed →
    result.1.conflicts = [] ∨ result.1.decision = some .drop ∨ result.1.decision = some .keep

/-- A run that stopped without a decision and has sent nothing. -/
theorem Follows.of_undecided {gate : Gate} {statements : List Statement} {before after : Session σ}
    {report : DeploymentReport} (quiet : after.sent = before.sent)
    (undecided : report.decision = none) (closed : report.isCompleted = false) :
    Follows gate statements before (report, after) where
  delivers := closed ▸ Delivers.nothing _ quiet
  decided := by simp [undecided]
  agreed completed := by
    rw [DeploymentReport.isCompleted_iff.mpr completed] at closed
    cases closed

/-- A run that went on with the gate's answer about the conflicts and drops of a report. What it
delivers follows from the answer alone: the drops if they are approved, and then the script. -/
theorem Follows.of_answer {gate : Gate} {statements : List Statement} {before : Session σ}
    {result : DeploymentReport × Session σ} (decided : DeploymentReport)
    (same : result.1.SameAnswer decided) (conflicting : decided.conflicts ≠ [])
    (answered : decided.decision = some (gate decided.conflicts decided.drops).decision)
    (delivers : Delivers (decided.approved ++ script statements) before result.1.isCompleted
      result.2)
    (agreed : result.1.outcome = .completed →
      decided.decision = some .drop ∨ decided.decision = some .keep) :
    Follows gate statements before result where
  delivers := same.approved_eq ▸ delivers
  decided decision isDecision := by
    rw [same.1, same.2.1]
    rw [same.2.2, answered] at isDecision
    exact ⟨conflicting, (Option.some.inj isDecision).symm⟩
  agreed completed := Or.inr (same.2.2 ▸ agreed completed)

/-- The decision is the gate's, and drops begin only if it is to drop. Without a plan of drops the
gate is not asked and nothing is sent. Otherwise the three decisions lead to the drops and the
script, to the script alone, and to nothing. -/
theorem consult_follows (target : Target σ) (statements : List Statement) (gate : Gate)
    {clearance : Clearance} (report : DeploymentReport) (session : Session σ)
    (stillOpen : report.outcome = .completed) (undecided : report.decision = none)
    (sameConflicts : report.conflicts = clearance.conflicts)
    (conflicting : clearance.conflicts ≠ []) :
    Follows gate statements session
      (consult target statements gate clearance report session) := by
  cases planned : clearance.plan with
  | error error =>
    rw [consult, planned]
    exact Follows.of_undecided rfl undecided rfl
  | ok steps =>
    let answer := gate clearance.conflicts steps
    let decided := { report with drops := steps, decision := some answer.decision }
    let next := (session.record (.decision answer.decision)).cancelIf answer.cancels
    have quiet : next.sent = session.sent := by
      simp [next, Event.sent?]
    have isAnswer : decided.decision =
        some (gate decided.conflicts decided.drops).decision := by
      simp only [decided, answer, sameConflicts]
    have stillConflicting : decided.conflicts ≠ [] := sameConflicts ▸ conflicting
    cases answered : answer.decision with
    | drop =>
      have goesOn : consult target statements gate clearance report session =
          resolve target statements clearance decided next := by
        simp only [consult, planned, decided, next, answer, answered]
      obtain ⟨delivers, same⟩ := resolve_delivers target statements decided next
        planned stillOpen
      rw [goesOn]
      refine Follows.of_answer decided same stillConflicting isAnswer ?_ fun _ => Or.inl ?_
      · rw [DeploymentReport.approved, if_pos (congrArg some answered)]
        exact delivers.of_sent_eq quiet
      · exact congrArg some answered
    | keep =>
      have goesOn : consult target statements gate clearance report session =
          execute target statements decided next := by
        simp only [consult, planned, decided, next, answer, answered]
      obtain ⟨delivers, same⟩ := execute_delivers target statements decided next
        stillOpen
      rw [goesOn]
      refine Follows.of_answer decided same stillConflicting isAnswer ?_ fun _ => Or.inr ?_
      · rw [DeploymentReport.approved, if_neg (by simp [decided, answered])]
        exact delivers.of_sent_eq quiet
      · exact congrArg some answered
    | cancel =>
      have stops : consult target statements gate clearance report session =
          ({ decided with outcome := .cancelled .resolve }, next) := by
        simp only [consult, planned, decided, next, answer, answered]
      rw [stops]
      refine Follows.of_answer decided ⟨rfl, rfl, rfl⟩ stillConflicting isAnswer
        (Delivers.nothing _ quiet) ?_
      intro completed
      cases completed

/-- The first stage sends nothing, however it ends. -/
theorem sent_findStage (target : Target σ) (clearance : Clearance) (session : Session σ) :
    (runStage .find (findWork target clearance) session).2.2.sent = session.sent := by
  have quiet := Clearance.sent_find target clearance session
  rw [runStage, findWork]
  split
  · rfl
  · rcases found : clearance.find target session with ⟨ending, scanned, next⟩
    rw [found] at quiet
    cases ending <;> exact quiet

/-- A run follows the gate, whatever its target does. A search that does not run to its end sends
nothing and decides nothing. If it finds no conflicts, the script is run without the gate. -/
theorem run_follows (target : Target σ) (dialect : Dialect) (statements : List Statement)
    (gate : Gate) (session : Session σ) :
    Follows gate statements session (run target dialect statements gate session) := by
  have quiet := sent_findStage target (.ofScript dialect statements) session
  rw [run]
  rcases staged : runStage .find (findWork target (.ofScript dialect statements)) session with
    ⟨ending, status, next⟩
  rw [staged] at quiet
  cases ending with
  | cancelled => exact Follows.of_undecided quiet rfl rfl
  | failed error => exact Follows.of_undecided quiet rfl rfl
  | crashed => exact Follows.of_undecided quiet rfl rfl
  | finished clearance =>
    let report : DeploymentReport := { find := status, conflicts := clearance.conflicts }
    change Follows gate statements session
      (if clearance.conflicts.isEmpty then execute target statements report next
      else consult target statements gate clearance report next)
    split
    · rename_i noConflicts
      obtain ⟨delivers, same⟩ := execute_delivers target statements report next rfl
      refine ⟨?_, ?_, fun _ => Or.inl ?_⟩
      · rw [same.approved_eq]
        exact delivers.of_sent_eq quiet
      · intro decision isDecision
        rw [same.2.2] at isDecision
        cases isDecision
      · rw [same.1]
        exact List.isEmpty_iff.mp noConflicts
    · rename_i conflicting
      have consulted := consult_follows target statements gate report next rfl rfl rfl
        (by simpa using conflicting)
      exact ⟨consulted.delivers.of_sent_eq quiet, consulted.decided, consulted.agreed⟩

/-- A run sends some of the first of the approved drops and then of the script, and all but the last
of what it sends was accepted. Finding sends nothing, and nothing of the script is sent before all
approved drops were accepted. A completed run has sent everything, everything was accepted, and
there were no conflicts or the gate has agreed. Approved drops are those that the gate was shown and
decided to drop; otherwise there are none. -/
theorem run_keeps_to_approval (target : Target σ) (dialect : Dialect) (statements : List Statement)
    (gate : Gate) (session : Session σ) :
    let result := run target dialect statements gate session
    let drops := result.1.approved
    let texts := script statements
    (runStage .find (findWork target (.ofScript dialect statements)) session).2.2.sent =
        session.sent ∧
      (∀ decision, result.1.decision = some decision →
        decision = (gate result.1.conflicts result.1.drops).decision) ∧
      ∃ sent, result.2.sent = session.sent ++ sent ∧
        sent.map Prod.fst <+: drops ++ texts ∧
        (∀ statement ∈ sent.dropLast, statement.2 = true) ∧
        (drops.length < sent.length →
          sent.take drops.length = drops.map fun statement => (statement, true)) ∧
        (result.1.outcome = .completed →
          sent = (drops ++ texts).map (fun statement => (statement, true)) ∧
            (result.1.conflicts = [] ∨ result.1.decision = some .drop ∨
              result.1.decision = some .keep)) := by
  intro result drops texts
  have follows := run_follows target dialect statements gate session
  obtain ⟨sent, sentAfter, sends⟩ := follows.delivers
  refine ⟨sent_findStage target _ session, fun decision isDecision => ?_, sent, sentAfter,
    sends.isPrefix, sends.accepted_dropLast, fun longer => ?_, fun completed => ⟨?_, ?_⟩⟩
  · exact (follows.decided decision isDecision).2
  · have firstOnes := sends.take_eq longer
    rwa [List.take_left] at firstOnes
  · exact sends.eq_of_complete (DeploymentReport.isCompleted_iff.mpr completed)
  · exact follows.agreed completed

end Deployment

end SchemaForward
