import SchemaForward.Deployment
import SchemaForward.Proofs.Conflict.Delivery

/-!
# Stages of a run

A stage is started if the cancel flag is not set when its turn comes, and completed if its work runs
to its end. The work of each stage first opens it with a report of progress. Then the first stage
scans and the others send statements; none of them decides anything, and only the first one looks
anything up.
-/

namespace SchemaForward

open Session (Steps)

/-- A stage as a list, if it was started. -/
def StageSummary.ifStarted (status : StageSummary) (stage : Stage) : List Stage :=
  if status.started then [stage] else []

namespace DeploymentReport

/-- What a report says about a stage. -/
def summary (report : DeploymentReport) : Stage → StageSummary
  | .find => report.find
  | .resolve => report.resolve
  | .execute => report.execute

/-- The stages that were started, in their order. -/
def startedStages (report : DeploymentReport) : List Stage :=
  [Stage.find, .resolve, .execute].filter fun stage => (report.summary stage).started

/-- The stages that were started, one after the other. Each of the three is either there or left
out, and their order is fixed. -/
theorem startedStages_eq (report : DeploymentReport) :
    report.startedStages = report.find.ifStarted .find ++ report.resolve.ifStarted .resolve ++
      report.execute.ifStarted .execute := by
  simp only [startedStages, List.filter_cons, List.filter_nil, summary, StageSummary.ifStarted]
  split_ifs <;> rfl

end DeploymentReport

namespace Deployment

variable {σ α : Type}

section Stage

variable (stage : Stage) (work : Session σ → StageReport α × Session σ) (session : Session σ)

/-- A stage is started exactly if the flag is not set when its turn comes. -/
theorem started_runStage : (runStage stage work session).2.1.started = !session.cancelled := by
  rw [runStage]
  split
  · simp [*]
  · rcases work session with ⟨⟨ending, jobSize, progress⟩, next⟩
    cases ending <;> simp [*]

/-- A stage is completed exactly if it has brought something back. -/
theorem completed_runStage :
    (runStage stage work session).2.1.completed = (runStage stage work session).1.isFinished := by
  rw [runStage]
  split
  · rfl
  · rcases work session with ⟨⟨ending, jobSize, progress⟩, next⟩
    cases ending <;> rfl

/-- A stage leaves the session as its work does, or as it was. -/
theorem session_runStage : (runStage stage work session).2.2 =
    if session.cancelled then session else (work session).2 := by
  rw [runStage]
  split
  · rfl
  · rcases work session with ⟨⟨ending, jobSize, progress⟩, next⟩
    cases ending <;> rfl

variable {stage work session}

/-- A stage takes the steps of its work. -/
theorem steps_runStage {allowed : Event → Prop}
    (steps : session.cancelled = false → Steps allowed session (work session).2) :
    Steps allowed session (runStage stage work session).2.2 := by
  rw [session_runStage]
  split
  · exact Steps.refl session
  · exact steps (by simp_all)

/-- A stage whose work opens it is opened exactly if it is started. -/
theorem opened_runStage
    (opens : (work session).2.seen Event.opened? = session.seen Event.opened? ++ [stage]) :
    (runStage stage work session).2.2.seen Event.opened? =
      session.seen Event.opened? ++ (runStage stage work session).2.1.ifStarted stage := by
  rw [session_runStage, StageSummary.ifStarted, started_runStage]
  cases session.cancelled with
  | true => simp
  | false => exact opens

end Stage

section Work

variable (target : Target σ)

/-- The script is sent as drops are. The two recursions differ in what they report of a statement
that failed, and agree in when they stop and in what they count. -/
theorem sending_runStatements (jobSize : Nat) (statements : List Statement) (done : Nat)
    (session : Session σ) :
    let result := runStatements target jobSize statements done session
    result.1.jobSize = jobSize ∧
      Sending target .execute jobSize (statements.map Statement.text) done session result.1.ending
        result.1.progress result.2 := by
  induction statements generalizing done session with
  | nil => exact ⟨rfl, .finished done session⟩
  | cons statement rest inductionHypothesis =>
    rw [runStatements]
    split
    · exact ⟨rfl, .cancelled _ done ‹_›⟩
    · rename_i notSet
      have unset : session.cancelled = false := by simpa using notSet
      rcases executed : target.executeIn statement.text session with ⟨reply, next⟩
      cases reply with
      | answer =>
        obtain ⟨sameSize, later⟩ := inductionHypothesis (done + 1)
          (next.publish .execute jobSize (done + 1))
        exact ⟨sameSize, .accepted unset executed later⟩
      | failure error => exact ⟨rfl, .refused _ done unset executed _⟩
      | crash => exact ⟨rfl, .vanished _ done unset executed⟩

/-- Statements are sent one after the other, each only while the flag is not set. -/
theorem steps_runStatements (jobSize : Nat) (statements : List Statement) (done : Nat)
    (session : Session σ) :
    Steps Event.InSending session (runStatements target jobSize statements done session).2 :=
  (sending_runStatements target jobSize statements done session).2.steps

/-- Executing a script opens the third stage and sends the script. -/
theorem steps_executeWork (statements : List Statement) (session : Session σ)
    (unset : session.cancelled = false) :
    Steps (·.OfSending .execute) session (executeWork target statements session).2 := by
  have opening : Steps (·.OfSending .execute) session
      (session.publish .execute (runnable statements).length 0) :=
    Steps.single (session.step_publish .execute _ 0 (Or.inl rfl) fun _ => unset)
  exact opening.trans ((steps_runStatements target _ _ _ _).mono fun _ => Or.inr)

/-- Running the script opens its stage once, at the start and whatever comes of the statements. The
statements themselves open nothing. -/
theorem opened_executeWork (statements : List Statement) (session : Session σ) :
    (executeWork target statements session).2.seen Event.opened? =
      session.seen Event.opened? ++ [.execute] := by
  have unseen := (steps_runStatements target (runnable statements).length (runnable statements) 0
    (session.publish .execute (runnable statements).length 0)).seen_eq
    Event.opened? rfl fun _ => Event.InSending.opened?_eq_none
  rw [Session.seen_publish rfl] at unseen
  exact unseen

/-- The work of the first stage leaves the session as the scan leaves it. What is made of the scan's
ending is a matter of the report alone. -/
theorem session_findWork (clearance : Clearance) (session : Session σ) :
    (findWork target clearance session).2 = (clearance.find target session).2.2 := by
  rw [findWork]

end Work

variable (target : Target σ) (dialect : Dialect) (statements : List Statement)
  (session : Session σ)

/-- The first stage of a run. -/
def findStage : Ending Clearance × StageSummary × Session σ :=
  runStage .find (findWork target (.ofScript dialect statements)) session

/-- The second stage of a run. -/
def resolveStage (clearance : Clearance) (drops : List DropStep) :
    Ending Unit × StageSummary × Session σ :=
  runStage .resolve (resolveWork target clearance drops.length) session

/-- The third stage of a run. -/
def executeStage : Ending Unit × StageSummary × Session σ :=
  runStage .execute (executeWork target statements) session

/-- What a stage leaves behind: it is opened if it was started, decides nothing, and looks things up
only if it is the first one. -/
structure Leaves (stage : Stage) (status : StageSummary) (before after : Session σ) : Prop where
  steps : Steps (fun _ => True) before after
  opened : after.seen Event.opened? = before.seen Event.opened? ++ status.ifStarted stage
  decided : after.seen Event.decided? = before.seen Event.decided?
  looked : stage ≠ .find → after.seen Event.lookedUp? = before.seen Event.lookedUp?

/-- The first stage leaves what any stage leaves. It is the only one that looks anything up, so the
condition on lookups does not concern it. -/
theorem findStage_leaves :
    Leaves .find (findStage target dialect statements session).2.1 session
      (findStage target dialect statements session).2.2 := by
  have steps : Steps Clearance.IsSearch session
      (findStage target dialect statements session).2.2 := by
    refine steps_runStage fun unset => ?_
    rw [session_findWork]
    exact Clearance.steps_find target _ session unset
  refine ⟨steps.mono fun _ _ => trivial, ?_, steps.seen_eq _ rfl ?_, fun other => absurd rfl other⟩
  · refine opened_runStage ?_
    rw [session_findWork]
    exact Clearance.opened_find target _ session rfl
  · rintro event (opens | inScan)
    · exact Event.decided?_eq_none_of_opened? opens
    · exact inScan.decided?_eq_none

/-- A stage that is opened and sends statements decides nothing and looks nothing up. -/
theorem Leaves.of_sending {stage : Stage} {status : StageSummary} {before after : Session σ}
    (steps : Steps (·.OfSending stage) before after)
    (opened : after.seen Event.opened? = before.seen Event.opened? ++ status.ifStarted stage) :
    Leaves stage status before after where
  steps := steps.mono fun _ _ => trivial
  opened := opened
  decided := steps.seen_eq _ rfl fun _ => Event.OfSending.decided?_eq_none
  looked _ := steps.seen_eq _ rfl fun _ => Event.OfSending.lookedUp?_eq_none

/-- The stage of drops leaves what any stage leaves. A plan is needed for this, since without one
the stage would fail before it is opened. -/
theorem resolveStage_leaves {clearance : Clearance} {drops : List DropStep}
    (ready : clearance.finished = true) (planned : clearance.plan = .ok drops) :
    Leaves .resolve (resolveStage target session clearance drops).2.1 session
      (resolveStage target session clearance drops).2.2 :=
  Leaves.of_sending
    (steps_runStage fun unset => Clearance.steps_drop target clearance session unset)
    (opened_runStage (Clearance.opened_drop target session ready planned))

/-- The stage of the script leaves what any stage leaves, and it looks nothing up. -/
theorem executeStage_leaves :
    Leaves .execute (executeStage target statements session).2.1 session
      (executeStage target statements session).2.2 :=
  Leaves.of_sending
    (steps_runStage fun unset => steps_executeWork target statements session unset)
    (opened_runStage (opened_executeWork target statements session))

end Deployment

end SchemaForward
