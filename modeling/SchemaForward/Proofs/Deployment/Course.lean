import SchemaForward.Proofs.Deployment.Stages

/-!
# The course of a run

A run takes one of seven courses. It stops in its first stage, or finds nothing in its way, or finds
conflicts that cannot be planned for; otherwise the gate is asked, and calls the run off, keeps the
conflicts, or has them dropped, which may stop the run or not. Where the way is free the third stage
ends the run. Each course says what its report holds, so that a property of all runs is a short case
analysis.

Every course is made of steps that heed the cancel flag. It opens the stages that its report calls
started, asks the gate as often as its report holds a decision, and looks things up in its first
stage alone.
-/

namespace SchemaForward

open Session (Steps)

namespace Deployment

variable {σ α : Type} (target : Target σ) (dialect : Dialect) (statements : List Statement)
  (gate : Gate) (session : Session σ)

/-- The session after the gate has answered. -/
def afterAnswer (answer : GateAnswer) : Session σ :=
  (session.record (.decision answer.decision)).cancelIf answer.cancels

/-- The third stage ends a run: it is completed, or stopped there. Nothing else of the report
changes: what was found, planned and decided stays in it. -/
theorem execute_eq (report : DeploymentReport) (stillOpen : report.outcome = .completed) :
    execute target statements report session =
      ({ report with
          execute := (executeStage target statements session).2.1
          outcome := if (executeStage target statements session).1.isFinished then .completed
            else stopped .execute (executeStage target statements session).1 },
        (executeStage target statements session).2.2) := by
  rw [execute, ← executeStage]
  rcases executeStage target statements session with ⟨ending, status, next⟩
  cases ending <;> simp [Ending.isFinished, ← stillOpen]

/-- The first stage has handed on a clearance with conflicts, and drops are planned for them. -/
structure Asks (clearance : Clearance) (status : StageSummary) (next : Session σ)
    (drops : List DropStep) : Prop where
  found : findStage target dialect statements session = (.finished clearance, status, next)
  conflicting : clearance.conflicts ≠ []
  planned : clearance.plan = .ok drops

/-- The courses that a run may take, each with the report and the session it ends with. -/
inductive Course : DeploymentReport × Session σ → Prop where
  | unfound {ending : Ending Clearance} {status : StageSummary} {next : Session σ}
      (searched : findStage target dialect statements session = (ending, status, next))
      (unfinished : ending.isFinished = false) :
      Course ({ find := status, outcome := stopped .find ending }, next)
  | unhindered {clearance : Clearance} {status : StageSummary} {next : Session σ}
      (found : findStage target dialect statements session = (.finished clearance, status, next))
      (free : clearance.conflicts = []) :
      Course (execute target statements { find := status } next)
  | unplanned {clearance : Clearance} {status : StageSummary} {next : Session σ} {error : Failure}
      (found : findStage target dialect statements session = (.finished clearance, status, next))
      (conflicting : clearance.conflicts ≠ []) (unplannable : clearance.plan = .error error) :
      Course ({ find := status, conflicts := clearance.conflicts,
                outcome := .failed .resolve error }, next)
  | calledOff {clearance : Clearance} {status : StageSummary} {next : Session σ}
      {drops : List DropStep}
      (asks : Asks target dialect statements session clearance status next drops)
      (answered : (gate clearance.conflicts drops).decision = .cancel) :
      Course ({ find := status, conflicts := clearance.conflicts, drops, decision := some .cancel,
                outcome := .cancelled .resolve },
        afterAnswer next (gate clearance.conflicts drops))
  | kept {clearance : Clearance} {status : StageSummary} {next : Session σ}
      {drops : List DropStep}
      (asks : Asks target dialect statements session clearance status next drops)
      (answered : (gate clearance.conflicts drops).decision = .keep) :
      Course (execute target statements
        { find := status, conflicts := clearance.conflicts, drops, decision := some .keep }
        (afterAnswer next (gate clearance.conflicts drops)))
  | unresolved {clearance : Clearance} {status : StageSummary} {next : Session σ}
      {drops : List DropStep} {ending : Ending Unit} {resolution : StageSummary} {last : Session σ}
      (asks : Asks target dialect statements session clearance status next drops)
      (answered : (gate clearance.conflicts drops).decision = .drop)
      (dropped : resolveStage target (afterAnswer next (gate clearance.conflicts drops)) clearance
        drops = (ending, resolution, last))
      (unfinished : ending.isFinished = false) :
      Course ({ find := status, resolve := resolution, conflicts := clearance.conflicts, drops,
                decision := some .drop, outcome := stopped .resolve ending }, last)
  | resolved {clearance : Clearance} {status : StageSummary} {next : Session σ}
      {drops : List DropStep} {resolution : StageSummary} {last : Session σ}
      (asks : Asks target dialect statements session clearance status next drops)
      (answered : (gate clearance.conflicts drops).decision = .drop)
      (dropped : resolveStage target (afterAnswer next (gate clearance.conflicts drops)) clearance
        drops = (.finished (), resolution, last)) :
      Course (execute target statements
        { find := status, resolve := resolution, conflicts := clearance.conflicts, drops,
          decision := some .drop } last)

/-- Every run takes one of the courses. The cases follow those of the run: how the search ended,
whether there was anything to ask the gate about, what it answered, and how the drops ended. -/
theorem run_course :
    Course target dialect statements gate session
      (run target dialect statements gate session) := by
  rw [run, ← findStage]
  rcases searched : findStage target dialect statements session with ⟨ending, status, next⟩
  cases ending with
  | cancelled => exact .unfound searched rfl
  | failed error => exact .unfound searched rfl
  | crashed => exact .unfound searched rfl
  | finished clearance =>
    dsimp only
    split
    · rename_i empty
      have free : clearance.conflicts = [] := List.isEmpty_iff.mp empty
      rw [free]
      exact .unhindered searched free
    · rename_i nonempty
      have conflicting : clearance.conflicts ≠ [] := by simpa using nonempty
      rw [consult]
      cases planned : clearance.plan with
      | error error => exact .unplanned searched conflicting planned
      | ok drops =>
        have asks : Asks target dialect statements session clearance status next drops :=
          ⟨searched, conflicting, planned⟩
        have goesOn : afterAnswer next (gate clearance.conflicts drops) =
            (next.record (.decision (gate clearance.conflicts drops).decision)).cancelIf
              (gate clearance.conflicts drops).cancels := rfl
        dsimp only
        rw [← goesOn]
        cases answered : (gate clearance.conflicts drops).decision with
        | cancel => exact .calledOff asks answered
        | keep => exact .kept asks answered
        | drop =>
          dsimp only
          rw [resolve, ← resolveStage]
          rcases dropped : resolveStage target
            (afterAnswer next (gate clearance.conflicts drops)) clearance drops with
            ⟨ending, resolution, last⟩
          cases ending with
          | finished => exact .resolved asks answered dropped
          | cancelled => exact .unresolved asks answered dropped rfl
          | failed error => exact .unresolved asks answered dropped rfl
          | crashed => exact .unresolved asks answered dropped rfl

variable {target dialect statements gate session}

/-- A clearance that the first stage hands on is ready to drop, and comes from its search. It has
its conflicts from that search and has dropped nothing so far. A run hands it on as it is. -/
theorem of_findStage_finished {clearance : Clearance} {status : StageSummary} {next : Session σ}
    (found : findStage target dialect statements session = (.finished clearance, status, next)) :
    session.cancelled = false ∧ clearance.finished = true ∧ clearance.dialect = dialect ∧
      ((Clearance.ofScript dialect statements).find target session).1 = .finished () ∧
      clearance = ((Clearance.ofScript dialect statements).find target session).2.1 := by
  rw [findStage, runStage] at found
  split at found
  · cases found
  · rename_i unset
    rw [findWork] at found
    have ready := Clearance.of_find_finished target (.ofScript dialect statements) session
    rcases searched : (Clearance.ofScript dialect statements).find target session with
      ⟨ending, scanned, last⟩
    rw [searched] at found ready
    cases ending with
    | finished =>
      cases found
      obtain ⟨finished, sameDialect⟩ := ready rfl
      exact ⟨by simpa using unset, finished, sameDialect, rfl, rfl⟩
    | cancelled => cases found
    | failed error => cases found
    | crashed => cases found

/-- Nothing was dropped yet when the gate is asked. -/
theorem Asks.untouched {clearance : Clearance} {status : StageSummary} {next : Session σ}
    {drops : List DropStep}
    (asks : Asks target dialect statements session clearance status next drops) :
    clearance.dropped = 0 := by
  rw [(of_findStage_finished asks.found).2.2.2.2, Clearance.dropped_find]
  rfl

/-- What is left behind between two moments of a run: steps that open stages and make decisions, and
no lookups but those of the first stage. -/
structure Records (target : Target σ) (dialect : Dialect) (statements : List Statement)
    (stages : List Stage) (decisions : List Decision) (before after : Session σ) : Prop where
  steps : Steps (fun _ => True) before after
  opened : after.seen Event.opened? = before.seen Event.opened? ++ stages
  decided : after.seen Event.decided? = before.seen Event.decided? ++ decisions
  looked : after.seen Event.lookedUp? =
    (findStage target dialect statements before).2.2.seen Event.lookedUp?

/-- The first stage records itself. -/
theorem records_findStage {ending : Ending Clearance} {status : StageSummary} {next : Session σ}
    (searched : findStage target dialect statements session = (ending, status, next)) :
    Records target dialect statements (status.ifStarted .find) [] session next := by
  have leaves := findStage_leaves target dialect statements session
  rw [searched] at leaves
  exact ⟨leaves.steps, leaves.opened, by rw [leaves.decided, List.append_nil], by rw [searched]⟩

namespace Records

variable {stages : List Stage} {decisions : List Decision} {between last : Session σ}

/-- A later stage adds itself to what is recorded. -/
theorem stage {stage : Stage} {status : StageSummary}
    (records : Records target dialect statements stages decisions session between)
    (leaves : Leaves stage status between last) (later : stage ≠ .find) :
    Records target dialect statements (stages ++ status.ifStarted stage) decisions session
      last where
  steps := records.steps.trans leaves.steps
  opened := by rw [leaves.opened, records.opened, List.append_assoc]
  decided := by rw [leaves.decided, records.decided]
  looked := by rw [leaves.looked later, records.looked]

/-- The gate's answer adds its decision to what is recorded. Nothing is opened, looked up or sent by
that, even if cancellation is asked for with the answer. -/
theorem afterAnswer (records : Records target dialect statements stages decisions session between)
    (answer : GateAnswer) :
    Records target dialect statements stages (decisions ++ [answer.decision]) session
      (afterAnswer between answer) := by
  have step : Session.Step (fun _ => True) between
      (Deployment.afterAnswer between answer) :=
    Session.Step.record between.target _ _ trivial (by simp) (by
      simp [Event.begins, Event.opened?, Event.lookedUp?, Event.sent?])
  have seen : ∀ {α : Type} (view : Event → Option α), view .cancelled = none →
      (Deployment.afterAnswer between answer).seen view =
        between.seen view ++ (view (.decision answer.decision)).toList := by
    intro α view blind
    rw [Deployment.afterAnswer, Session.seen_cancelIf blind, Session.seen_record]
  refine ⟨records.steps.trans (Steps.single step), ?_, ?_, ?_⟩
  · rw [seen _ rfl, records.opened]
    exact List.append_nil _
  · rw [seen _ rfl, records.decided, List.append_assoc]
    rfl
  · rw [seen _ rfl, records.looked]
    exact List.append_nil _

/-- The third stage ends what is recorded. It opens its stage if it is started, and decides nothing.
-/
theorem execute (records : Records target dialect statements stages decisions session between)
    {report : DeploymentReport} (stillOpen : report.outcome = .completed)
    (recorded : stages = report.find.ifStarted .find ++ report.resolve.ifStarted .resolve)
    (decided : decisions = report.decision.toList) :
    let result := execute target statements report between
    Records target dialect statements result.1.startedStages result.1.decision.toList session
      result.2 := by
  intro result
  rw [show result = _ from execute_eq target statements between report stillOpen,
    DeploymentReport.startedStages_eq, ← decided]
  subst recorded
  exact records.stage (executeStage_leaves target statements between) (by simp)

end Records

/-- The gate is asked after the first stage alone. -/
theorem Asks.records {clearance : Clearance} {status : StageSummary} {next : Session σ}
    {drops : List DropStep}
    (asks : Asks target dialect statements session clearance status next drops)
    (answer : GateAnswer) :
    Records target dialect statements (status.ifStarted .find) [answer.decision] session
      (afterAnswer next answer) :=
  (records_findStage asks.found).afterAnswer answer

/-- A run opens the stages that its report calls started, asks the gate as often as the report holds
a decision, and looks up nothing after its first stage. -/
theorem Course.records {result : DeploymentReport × Session σ}
    (course : Course target dialect statements gate session result) :
    Records target dialect statements result.1.startedStages result.1.decision.toList session
      result.2 := by
  cases course with
  | unfound searched unfinished =>
    rw [DeploymentReport.startedStages_eq]
    simpa [StageSummary.ifStarted] using records_findStage searched
  | unhindered found free =>
    exact (records_findStage found).execute rfl (by simp [StageSummary.ifStarted]) rfl
  | unplanned found conflicting unplannable =>
    rw [DeploymentReport.startedStages_eq]
    simpa [StageSummary.ifStarted] using records_findStage found
  | @calledOff clearance status next drops asks answered =>
    have records := asks.records (gate clearance.conflicts drops)
    rw [answered] at records
    rw [DeploymentReport.startedStages_eq]
    simpa [StageSummary.ifStarted] using records
  | @kept clearance status next drops asks answered =>
    have records := asks.records (gate clearance.conflicts drops)
    rw [answered] at records
    exact records.execute rfl (by simp [StageSummary.ifStarted]) rfl
  | @unresolved clearance status next drops ending resolution last asks answered dropped =>
    have ready := (of_findStage_finished asks.found).2.1
    have leaves := resolveStage_leaves target
      (afterAnswer next (gate clearance.conflicts drops)) ready asks.planned
    rw [dropped] at leaves
    have records := (asks.records (gate clearance.conflicts drops)).stage leaves (by simp)
    rw [answered] at records
    rw [DeploymentReport.startedStages_eq]
    simpa [StageSummary.ifStarted] using records
  | @resolved clearance status next drops resolution last asks answered dropped =>
    have ready := (of_findStage_finished asks.found).2.1
    have leaves := resolveStage_leaves target
      (afterAnswer next (gate clearance.conflicts drops)) ready asks.planned
    rw [dropped] at leaves
    have records := (asks.records (gate clearance.conflicts drops)).stage leaves (by simp)
    rw [answered] at records
    exact records.execute rfl rfl rfl

end Deployment

end SchemaForward
