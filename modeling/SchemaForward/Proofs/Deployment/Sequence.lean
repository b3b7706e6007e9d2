import SchemaForward.Proofs.Deployment.Course

/-!
# The order of the stages

Whatever the target does, whatever the gate answers and whenever cancellation is asked for, a stage
is started only if what has to come before it is done, and a run that stops at a stage has neither
completed that stage nor started a later one. The gate is asked once at most, and exactly if the
search has found conflicts for which drops can be planned. That it is asked about the conflicts and
drops of the report is a matter of what a run may depend on: of a gate that answers differently
elsewhere a run is none the wiser.
-/

namespace SchemaForward

namespace Stage

/-- The place of a stage in a run. -/
def place : Stage → Nat
  | .find => 0
  | .resolve => 1
  | .execute => 2

end Stage

namespace DeploymentOutcome

/-- The stage at which a run was cancelled or has failed. -/
def stage? : DeploymentOutcome → Option Stage
  | .completed => none
  | .cancelled stage => some stage
  | .failed stage _ => some stage

end DeploymentOutcome

namespace DeploymentReport

/-- The stages of a report are in order: each was started only on what came before it, and a report
of a run that stopped somewhere knows of nothing behind that place. -/
structure InOrder (report : DeploymentReport) : Prop where
  unfound : report.find.completed = false →
    report.conflicts = [] ∧ report.drops = [] ∧ report.decision = none
  resolving : report.resolve.started = true →
    report.find.completed = true ∧ report.conflicts ≠ [] ∧ report.decision = some .drop
  executing : report.execute.started = true →
    report.find.completed = true ∧
      (report.conflicts = [] ∨ report.decision = some .keep ∨
        report.decision = some .drop ∧ report.resolve.completed = true)
  stopped : ∀ stage, report.outcome.stage? = some stage →
    (report.summary stage).completed = false ∧
      ∀ later, stage.place < later.place → (report.summary later).started = false
  completed : report.outcome = .completed ↔ report.execute.completed = true

end DeploymentReport

namespace Deployment

open DeploymentReport (InOrder)

variable {σ α : Type} {target : Target σ} {dialect : Dialect} {statements : List Statement}
  {gate : Gate} {session : Session σ}

/-- A run that stopped at a stage is cancelled or has failed there. -/
theorem stage?_stopped (stage : Stage) (ending : Ending α) :
    (stopped stage ending).stage? = some stage := by
  cases ending <;> rfl

/-- An outcome that names a stage is not the completed one. So a run that has stopped anywhere is
told from a completed one by its outcome alone. -/
theorem ne_completed_of_stage? {outcome : DeploymentOutcome} {stage : Stage}
    (stopped : outcome.stage? = some stage) : outcome ≠ .completed := by
  rintro rfl
  cases stopped

/-- A report of a search that ran to its end says so. -/
theorem completed_of_found {clearance : Clearance} {status : StageSummary} {next : Session σ}
    (found : findStage target dialect statements session = (.finished clearance, status, next)) :
    status.completed = true := by
  have completed := completed_runStage .find (findWork target (.ofScript dialect statements))
    session
  rw [← findStage, found] at completed
  exact completed

/-- The stages are in order after the third one if they were before it and the way is free. The way
is free if there were no conflicts, if they are to be kept, or if they were dropped to the last. The
third stage is not started if the flag is set by then, and that is in order too. -/
theorem inOrder_execute {report : DeploymentReport} (stillOpen : report.outcome = .completed)
    (found : report.find.completed = true)
    (resolving : report.resolve.started = true →
      report.conflicts ≠ [] ∧ report.decision = some .drop)
    (free : report.conflicts = [] ∨ report.decision = some .keep ∨
      report.decision = some .drop ∧ report.resolve.completed = true) :
    InOrder (execute target statements report session).1 := by
  have completed := completed_runStage .execute (executeWork target statements) session
  rw [← executeStage] at completed
  rw [execute_eq target statements session report stillOpen]
  refine ⟨?_, fun started => ⟨found, resolving started⟩, fun _ => ⟨found, free⟩, ?_, ?_⟩
  · intro unfound
    rw [show report.find.completed = false from unfound] at found
    cases found
  · intro stage stops
    cases finished : (executeStage target statements session).1.isFinished with
    | true => simp [finished, DeploymentOutcome.stage?] at stops
    | false =>
      simp only [finished, Bool.false_eq_true, if_false, stage?_stopped, Option.some.injEq] at stops
      subst stops
      refine ⟨completed.trans finished, fun later isLater => ?_⟩
      cases later <;> exact absurd isLater (by decide)
  · dsimp only
    rw [completed]
    cases finished : (executeStage target statements session).1.isFinished with
    | true => simp
    | false => simpa using ne_completed_of_stage? (stage?_stopped .execute _)

/-- A run that stopped before its third stage has its stages in order if the ones before are. What
is asked of the third stage holds of a run in which it was not started. The outcome names the stage
in which the run has stopped. -/
theorem inOrder_of_unexecuted {report : DeploymentReport} {stage : Stage}
    (stops : report.outcome.stage? = some stage) (unexecuted : report.execute = {})
    (uncompleted : (report.summary stage).completed = false)
    (idle : stage = .find → report.resolve.started = false)
    (unfound : report.find.completed = false →
      report.conflicts = [] ∧ report.drops = [] ∧ report.decision = none)
    (resolving : report.resolve.started = true →
      report.find.completed = true ∧ report.conflicts ≠ [] ∧ report.decision = some .drop) :
    InOrder report := by
  refine ⟨unfound, resolving, by simp [unexecuted], fun other stopsThere => ?_, ?_⟩
  · obtain rfl : stage = other := Option.some.inj (stops.symm.trans stopsThere)
    refine ⟨uncompleted, fun later isLater => ?_⟩
    cases later with
    | find => exact absurd isLater (Nat.not_lt_zero _)
    | execute => exact congrArg StageSummary.started unexecuted
    | resolve =>
      cases stage with
      | find => exact idle rfl
      | resolve => exact absurd isLater (by decide)
      | execute => exact absurd isLater (by decide)
  · simp [ne_completed_of_stage? stops, unexecuted]

/-- Whatever course a run takes, its stages are in order. The courses that reach the third stage
differ in what made the way free; all others stop before it. -/
theorem Course.inOrder {result : DeploymentReport × Session σ}
    (course : Course target dialect statements gate session result) : InOrder result.1 := by
  cases course with
  | unfound searched unfinished =>
    have completed := completed_runStage .find (findWork target (.ofScript dialect statements))
      session
    rw [← findStage, searched] at completed
    exact inOrder_of_unexecuted (stage?_stopped .find _) rfl (completed.trans unfinished)
      (fun _ => rfl) (fun _ => ⟨rfl, rfl, rfl⟩) (by simp)
  | unhindered found free =>
    exact inOrder_execute rfl (completed_of_found found) (by simp) (Or.inl rfl)
  | @unplanned clearance status next error found conflicting unplannable =>
    have completed := completed_of_found found
    have stops : (DeploymentOutcome.failed .resolve error).stage? = some .resolve := rfl
    exact inOrder_of_unexecuted stops rfl rfl (fun _ => rfl) (by simp [completed]) (by simp)
  | calledOff asks answered =>
    have completed := completed_of_found asks.found
    have stops : (DeploymentOutcome.cancelled .resolve).stage? = some .resolve := rfl
    exact inOrder_of_unexecuted stops rfl rfl (fun _ => rfl) (by simp [completed]) (by simp)
  | kept asks answered =>
    exact inOrder_execute rfl (completed_of_found asks.found) (by simp) (Or.inr (Or.inl rfl))
  | @unresolved clearance status next drops ending resolution last asks answered dropped stopped =>
    have completed := completed_of_found asks.found
    have uncompleted := completed_runStage .resolve (resolveWork target clearance drops.length)
      (afterAnswer next (gate clearance.conflicts drops))
    rw [← resolveStage, dropped] at uncompleted
    exact inOrder_of_unexecuted (stage?_stopped .resolve _) rfl (uncompleted.trans stopped)
      (by simp) (by simp [completed]) (fun _ => ⟨completed, asks.conflicting, rfl⟩)
  | @resolved clearance status next drops resolution last asks answered dropped =>
    have completed := completed_runStage .resolve (resolveWork target clearance drops.length)
      (afterAnswer next (gate clearance.conflicts drops))
    rw [← resolveStage, dropped] at completed
    exact inOrder_execute rfl (completed_of_found asks.found)
      (fun _ => ⟨asks.conflicting, rfl⟩) (Or.inr (Or.inr ⟨rfl, completed⟩))

variable {clearance : Clearance} {status : StageSummary} {next : Session σ} {drops : List DropStep}

/-- The drops are planned for the conflicts alone. -/
theorem Asks.planned_conflicts
    (asks : Asks target dialect statements session clearance status next drops) :
    DropPlan.ofTrees dialect clearance.conflicts = .ok drops := by
  rw [← (of_findStage_finished asks.found).2.2.1]
  exact asks.planned

/-- There is only one thing that a gate can be asked about. -/
theorem Asks.unique {clearance' : Clearance} {status' : StageSummary} {next' : Session σ}
    {drops' : List DropStep}
    (asks : Asks target dialect statements session clearance status next drops)
    (asks' : Asks target dialect statements session clearance' status' next' drops') :
    clearance = clearance' ∧ drops = drops' := by
  have same := asks.found.symm.trans asks'.found
  simp only [Prod.mk.injEq, Ending.finished.injEq] at same
  obtain ⟨rfl, -, -⟩ := same
  exact ⟨rfl, Except.ok.inj (asks.planned.symm.trans asks'.planned)⟩

/-- The report of a run whose gate was asked is about what the gate was asked about. -/
structure ReportsOn (gate : Gate) (clearance : Clearance) (drops : List DropStep)
    (report : DeploymentReport) : Prop where
  completed : report.find.completed = true
  sameConflicts : report.conflicts = clearance.conflicts
  sameDrops : report.drops = drops
  decision : report.decision = some (gate clearance.conflicts drops).decision

/-- The third stage changes nothing about what was reported on. -/
theorem ReportsOn.execute {report : DeploymentReport}
    (reports : ReportsOn gate clearance drops report) (stillOpen : report.outcome = .completed)
    (between : Session σ) :
    ReportsOn gate clearance drops (execute target statements report between).1 := by
  rw [execute_eq target statements between report stillOpen]
  exact ⟨reports.completed, reports.sameConflicts, reports.sameDrops, reports.decision⟩

/-- The search of a run has found conflicts for which drops can be planned. -/
def IsPlannable (dialect : Dialect) (report : DeploymentReport) : Prop :=
  report.find.completed = true ∧ report.conflicts ≠ [] ∧
    ∃ drops, DropPlan.ofTrees dialect report.conflicts = .ok drops

/-- A run either reports on what its gate was asked about, or there was nothing to ask. There is
nothing to ask if the search did not run to its end, if it found no conflicts, or if their drops
cannot be planned. -/
theorem Course.reportsOn_or {result : DeploymentReport × Session σ}
    (course : Course target dialect statements gate session result) :
    (∃ clearance status next drops,
      Asks target dialect statements session clearance status next drops ∧
        ReportsOn gate clearance drops result.1) ∨
      result.1.decision = none ∧ ¬ IsPlannable dialect result.1 ∧
        ∀ clearance status next drops,
          ¬ Asks target dialect statements session clearance status next drops := by
  cases course with
  | @unfound ending status next searched unfinished =>
    have completed := completed_runStage .find (findWork target (.ofScript dialect statements))
      session
    rw [← findStage, searched] at completed
    refine Or.inr ⟨rfl, fun plannable => ?_, fun clearance _ _ _ asks => ?_⟩
    · exact absurd (plannable.1.symm.trans (completed.trans unfinished)) (by simp)
    · have same := searched.symm.trans asks.found
      cases same
      cases unfinished
  | @unhindered clearance status next found free =>
    refine Or.inr ?_
    rw [execute_eq target statements next _ rfl]
    refine ⟨rfl, fun plannable => plannable.2.1 rfl, fun _ _ _ _ asks => ?_⟩
    have same := found.symm.trans asks.found
    cases same
    exact asks.conflicting free
  | @unplanned clearance status next error found conflicting unplannable =>
    refine Or.inr ⟨rfl, fun plannable => ?_, fun _ _ _ _ asks => ?_⟩
    · obtain ⟨-, -, drops, planned⟩ := plannable
      rw [Clearance.plan, (of_findStage_finished found).2.2.1] at unplannable
      exact absurd (unplannable.symm.trans planned) (by simp)
    · have same := found.symm.trans asks.found
      cases same
      exact absurd (unplannable.symm.trans asks.planned) (by simp)
  | calledOff asks answered =>
    exact Or.inl ⟨_, _, _, _, asks, completed_of_found asks.found, rfl, rfl, by rw [answered]⟩
  | kept asks answered =>
    refine Or.inl ⟨_, _, _, _, asks, ReportsOn.execute ?_ rfl _⟩
    exact ⟨completed_of_found asks.found, rfl, rfl, by rw [answered]⟩
  | unresolved asks answered dropped stopped =>
    exact Or.inl ⟨_, _, _, _, asks, completed_of_found asks.found, rfl, rfl, by rw [answered]⟩
  | resolved asks answered dropped =>
    refine Or.inl ⟨_, _, _, _, asks, ReportsOn.execute ?_ rfl _⟩
    exact ⟨completed_of_found asks.found, rfl, rfl, by rw [answered]⟩

/-- A run depends on its gate only for what the gate is asked about. It is a function, and may say
anything about conflicts that do not come up. Another one that answers alike where it matters makes
the same run, event by event. -/
theorem run_congr {other : Gate}
    (alike : ∀ clearance status next drops,
      Asks target dialect statements session clearance status next drops →
        other clearance.conflicts drops = gate clearance.conflicts drops) :
    run target dialect statements other session = run target dialect statements gate session := by
  rw [run, run, ← findStage]
  rcases searched : findStage target dialect statements session with ⟨ending, status, next⟩
  cases ending with
  | cancelled => rfl
  | failed error => rfl
  | crashed => rfl
  | finished clearance =>
    dsimp only
    split
    · rfl
    · rename_i nonempty
      rw [consult, consult]
      cases planned : clearance.plan with
      | error error => rfl
      | ok drops =>
        dsimp only
        rw [alike clearance status next drops ⟨searched, by simpa using nonempty, planned⟩]

/-- What is said of the gate of a run: it is asked exactly if the search has found conflicts for
which drops can be planned, the decision is the one it makes about the conflicts and drops of the
report, and any gate that answers alike about those makes the same run. -/
structure ConsultsGate (target : Target σ) (dialect : Dialect) (statements : List Statement)
    (gate : Gate) (session : Session σ) (report : DeploymentReport) : Prop where
  asked : report.decision.isSome = true ↔ IsPlannable dialect report
  decided : ∀ decision, report.decision = some decision →
    DropPlan.ofTrees dialect report.conflicts = .ok report.drops ∧
      decision = (gate report.conflicts report.drops).decision
  alike : ∀ other : Gate,
    (report.decision.isSome = true →
      other report.conflicts report.drops = gate report.conflicts report.drops) →
    run target dialect statements other session = run target dialect statements gate session

/-- Whatever course a run takes, the gate has its part in it and no other. It is asked exactly if
the search ran to its end with conflicts whose drops can be planned, it is asked about these, and
what it says about anything else does not matter. -/
theorem Course.consultsGate {result : DeploymentReport × Session σ}
    (course : Course target dialect statements gate session result) :
    ConsultsGate target dialect statements gate session result.1 := by
  rcases course.reportsOn_or with ⟨clearance, status, next, drops, asks, reports⟩ |
    ⟨undecided, unplannable, unasked⟩
  · have planned : DropPlan.ofTrees dialect result.1.conflicts = .ok result.1.drops := by
      rw [reports.sameConflicts, reports.sameDrops]
      exact asks.planned_conflicts
    refine ⟨?_, fun decision isDecision => ⟨planned, ?_⟩, fun other alike => run_congr ?_⟩
    · refine iff_of_true (by simp [reports.decision]) ⟨reports.completed, ?_, _, planned⟩
      rw [reports.sameConflicts]
      exact asks.conflicting
    · rw [reports.sameConflicts, reports.sameDrops]
      exact (Option.some.inj (reports.decision.symm.trans isDecision)).symm
    · intro clearance' status' next' drops' asks'
      obtain ⟨rfl, rfl⟩ := asks.unique asks'
      rw [← reports.sameConflicts, ← reports.sameDrops]
      exact alike (by simp [reports.decision])
  · refine ⟨iff_of_false (by simp [undecided]) unplannable, by simp [undecided], ?_⟩
    exact fun other _ => run_congr fun clearance status next drops asks =>
      absurd asks (unasked clearance status next drops)

/-- The first stage is completed exactly if nobody has asked for cancellation before it and its
search runs to its end. -/
theorem completed_findStage_iff :
    (findStage target dialect statements session).2.1.completed = true ↔
      session.cancelled = false ∧
        ((Clearance.ofScript dialect statements).find target session).1 = .finished () := by
  rw [findStage, completed_runStage, runStage, findWork]
  cases session.cancelled with
  | true => simp [Ending.isFinished]
  | false =>
    rcases (Clearance.ofScript dialect statements).find target session with ⟨ending, scanned, next⟩
    cases ending <;> simp [Ending.isFinished]

/-- A report tells of the first stage what it has come to, and of a search that ran to its end what
it has found. -/
theorem Course.find_and_conflicts {result : DeploymentReport × Session σ}
    (course : Course target dialect statements gate session result) :
    result.1.find = (findStage target dialect statements session).2.1 ∧
      (result.1.find.completed = true → result.1.conflicts =
        ((Clearance.ofScript dialect statements).find target session).2.1.conflicts) := by
  have conflicts : ∀ {clearance : Clearance} {status : StageSummary} {next : Session σ},
      findStage target dialect statements session = (.finished clearance, status, next) →
        clearance.conflicts =
          ((Clearance.ofScript dialect statements).find target session).2.1.conflicts :=
    fun found => congrArg Clearance.conflicts (of_findStage_finished found).2.2.2.2
  cases course with
  | unfound searched unfinished =>
    have completed := completed_runStage .find (findWork target (.ofScript dialect statements))
      session
    rw [← findStage, searched] at completed
    refine ⟨by rw [searched], fun isCompleted => ?_⟩
    exact absurd (isCompleted.symm.trans (completed.trans unfinished)) (by simp)
  | unhindered found free =>
    rw [execute_eq target statements _ _ rfl]
    exact ⟨by rw [found], fun _ => free.symm.trans (conflicts found)⟩
  | unplanned found => exact ⟨by rw [found], fun _ => conflicts found⟩
  | calledOff asks => exact ⟨by rw [asks.found], fun _ => conflicts asks.found⟩
  | kept asks =>
    rw [execute_eq target statements _ _ rfl]
    exact ⟨by rw [asks.found], fun _ => conflicts asks.found⟩
  | unresolved asks => exact ⟨by rw [asks.found], fun _ => conflicts asks.found⟩
  | resolved asks =>
    rw [execute_eq target statements _ _ rfl]
    exact ⟨by rw [asks.found], fun _ => conflicts asks.found⟩

/-- In every run the first stage is completed exactly if its search runs to its end, and the
conflicts of the report are then those of the search. The stages are in order, and the events of the
session show the started ones being opened in that order. The gate is asked at most once, exactly if
there are conflicts that can be planned for, and about the conflicts and drops of the report. -/
theorem run_keeps_stages_in_order (target : Target σ) (dialect : Dialect)
    (statements : List Statement) (gate : Gate) (session : Session σ) :
    let result := run target dialect statements gate session
    let search := (Clearance.ofScript dialect statements).find target session
    (result.1.find.completed = true ↔ session.cancelled = false ∧ search.1 = .finished ()) ∧
      (result.1.find.completed = true → result.1.conflicts = search.2.1.conflicts) ∧
      result.1.InOrder ∧
      result.2.seen Event.opened? = session.seen Event.opened? ++ result.1.startedStages ∧
      result.2.seen Event.decided? = session.seen Event.decided? ++ result.1.decision.toList ∧
      ConsultsGate target dialect statements gate session result.1 := by
  intro result search
  have course := run_course target dialect statements gate session
  have records := course.records
  obtain ⟨sameFind, sameConflicts⟩ := course.find_and_conflicts
  refine ⟨?_, sameConflicts, course.inOrder, records.opened, records.decided,
    course.consultsGate⟩
  rw [show result.1.find = _ from sameFind]
  exact completed_findStage_iff

end Deployment

end SchemaForward
