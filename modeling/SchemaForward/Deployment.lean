import SchemaForward.Conflict.Clearance

/-!
# Applying a script

A script is applied in three stages: find what is in its way, drop that if a gate decides so, and
execute the script. The gate is asked only if there are conflicts, and it may keep them or call the
whole run off. A stage begins only after the one before it has run to its end without an error and
while nobody has asked for cancellation. A stage whose work vanishes without a word has failed.
-/

namespace SchemaForward

/-- What is known about a stage: whether it was started and has ended, how much work it had, how
much of it was done, and whether it ran to its end. -/
structure StageSummary where
  started : Bool := false
  finished : Bool := false
  jobSize : Nat := 0
  progress : Nat := 0
  completed : Bool := false
  deriving DecidableEq, Repr, Inhabited

/-- How a run ended. -/
inductive DeploymentOutcome where
  | completed
  | cancelled (stage : Stage)
  | failed (stage : Stage) (error : Failure)
  deriving DecidableEq, Repr, Inhabited

/-- All that a run has produced. -/
structure DeploymentReport where
  find : StageSummary := {}
  resolve : StageSummary := {}
  execute : StageSummary := {}
  conflicts : List ConflictTree := []
  drops : List DropStep := []
  decision : Option Decision := none
  outcome : DeploymentOutcome := .completed

/-- The answer of a gate, and whether cancellation was asked for while it was thinking. -/
structure GateAnswer where
  decision : Decision
  cancels : Bool
  deriving DecidableEq, Repr, Inhabited

/-- Someone who decides about conflicts and the drops planned for them. -/
abbrev Gate := List ConflictTree → List DropStep → GateAnswer

namespace Deployment

/-- What a stage reports at its end. -/
structure StageReport (α : Type) where
  ending : Ending α
  jobSize : Nat
  progress : Nat

/-- Runs the work of a stage, unless cancellation was asked for before. -/
def runStage {σ α : Type} (stage : Stage) (work : Session σ → StageReport α × Session σ)
    (session : Session σ) : Ending α × StageSummary × Session σ :=
  if session.cancelled then (.cancelled, {}, session)
  else
    let (report, next) := work session
    let reported : StageSummary :=
      { started := true, finished := true, jobSize := report.jobSize,
        progress := report.progress }
    match report.ending with
    | .finished value => (.finished value, { reported with completed := true }, next)
    | .cancelled => (.cancelled, reported, next)
    | .failed error => (.failed error, reported, next)
    | .crashed =>
      (.failed (.invalidState (.stageVanished stage)), { started := true, finished := true },
        next)

/-- The outcome of a run that stopped at a stage. -/
def stopped {α : Type} (stage : Stage) : Ending α → DeploymentOutcome
  | .failed error => .failed stage error
  | .crashed => .failed stage (.invalidState (.stageVanished stage))
  | _ => .cancelled stage

/-- The work of the first stage: a scan, which hands on the clearance. -/
def findWork {σ : Type} (target : Target σ) (clearance : Clearance) (session : Session σ) :
    StageReport Clearance × Session σ :=
  let (ending, scanned, next) := clearance.find target session
  let handed : Ending Clearance := match ending with
    | .finished () => .finished scanned
    | .cancelled => .cancelled
    | .failed error => .failed error
    | .crashed => .crashed
  (⟨handed, scanned.jobSize, scanned.progress⟩, next)

/-- The work of the second stage: the planned drops. -/
def resolveWork {σ : Type} (target : Target σ) (clearance : Clearance) (jobSize : Nat)
    (session : Session σ) : StageReport Unit × Session σ :=
  let (ending, after, next) := clearance.drop target session
  (⟨ending, jobSize, after.dropped⟩, next)

/-- The error of a statement of the script that failed. -/
def executionFailure (statement : Statement) (error : Failure) : Failure :=
  let subject := match statement.subject with
    | some object => .object object
    | none => .script
  .executionFailed subject statement.text error.reportedMessage

/-- Runs statements in order, with the number of those done so far. -/
def runStatements {σ : Type} (target : Target σ) (jobSize : Nat) :
    List Statement → Nat → Session σ → StageReport Unit × Session σ
  | [], done, session => (⟨.finished (), jobSize, done⟩, session)
  | statement :: rest, done, session =>
    if session.cancelled then (⟨.cancelled, jobSize, done⟩, session)
    else
      match target.executeIn statement.text session with
      | (.answer (), next) =>
        runStatements target jobSize rest (done + 1)
          (next.publish .execute jobSize (done + 1))
      | (.failure error, next) =>
        (⟨.failed (executionFailure statement error), jobSize, done⟩, next)
      | (.crash, next) => (⟨.crashed, jobSize, done⟩, next)

/-- The statements of a script that are run: all but its comment lines. -/
def runnable (statements : List Statement) : List Statement :=
  statements.filter fun statement => !statement.isCommentOnly

/-- The work of the third stage: the script. -/
def executeWork {σ : Type} (target : Target σ) (statements : List Statement)
    (session : Session σ) : StageReport Unit × Session σ :=
  let job := runnable statements
  runStatements target job.length job 0 (session.publish .execute job.length 0)

/-- The third stage, which ends the run. -/
def execute {σ : Type} (target : Target σ) (statements : List Statement)
    (report : DeploymentReport) (session : Session σ) : DeploymentReport × Session σ :=
  match runStage .execute (executeWork target statements) session with
  | (.finished (), status, next) => ({ report with execute := status }, next)
  | (ending, status, next) =>
    ({ report with execute := status, outcome := stopped .execute ending }, next)

/-- The second stage, and the third if it ran to its end. -/
def resolve {σ : Type} (target : Target σ) (statements : List Statement) (clearance : Clearance)
    (report : DeploymentReport) (session : Session σ) : DeploymentReport × Session σ :=
  match runStage .resolve (resolveWork target clearance report.drops.length) session with
  | (.finished (), status, next) =>
    execute target statements { report with resolve := status } next
  | (ending, status, next) =>
    ({ report with resolve := status, outcome := stopped .resolve ending }, next)

/-- The decision about conflicts, and what follows from it. -/
def consult {σ : Type} (target : Target σ) (statements : List Statement) (gate : Gate)
    (clearance : Clearance) (report : DeploymentReport) (session : Session σ) :
    DeploymentReport × Session σ :=
  match clearance.plan with
  | .error error => ({ report with outcome := .failed .resolve error }, session)
  | .ok drops =>
    let answer := gate clearance.conflicts drops
    let next := (session.record (.decision answer.decision)).cancelIf answer.cancels
    let decided := { report with drops, decision := some answer.decision }
    match answer.decision with
    | .drop => resolve target statements clearance decided next
    | .keep => execute target statements decided next
    | .cancel => ({ decided with outcome := .cancelled .resolve }, next)

/-- Applies a script to a target. -/
def run {σ : Type} (target : Target σ) (dialect : Dialect) (statements : List Statement)
    (gate : Gate) (session : Session σ) : DeploymentReport × Session σ :=
  match runStage .find (findWork target (.ofScript dialect statements)) session with
  | (.finished clearance, status, next) =>
    let report : DeploymentReport := { find := status, conflicts := clearance.conflicts }
    if clearance.conflicts.isEmpty then execute target statements report next
    else consult target statements gate clearance report next
  | (ending, status, next) => ({ find := status, outcome := stopped .find ending }, next)

end Deployment

end SchemaForward
