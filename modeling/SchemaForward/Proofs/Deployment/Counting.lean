import SchemaForward.Proofs.Conflict.Counting
import SchemaForward.Proofs.Conflict.Replies
import SchemaForward.Proofs.Conflict.Scan
import SchemaForward.Proofs.Deployment.Sequence

/-!
# Progress and the report

Progress is told twice: while a run is under way, and by its report at the end. What is told at the
end is what was told last. Each stage that was started is noted as one that was opened and counted
up to the progress that the report has for it, and in a stage that sends statements those counted
are the ones that the target has accepted. Of a stage whose work vanished the report knows only that
it was started, so nothing is said about a run with such a stage but that the target did not come
back.
-/

namespace SchemaForward

namespace Event

/-- The progress that an event reports. -/
def reported? : Event → Option Progress
  | .progress report => some report
  | _ => none

end Event

namespace Note

/-- The progress that a note is about. -/
def report? : Note → Option Progress
  | .reported report => some report
  | .accepted => none

/-- The number of statements accepted in a stage. A statement belongs to the stage that was reported
on last; given is the one before the notes. -/
def acceptedIn (stage : Stage) : Option Stage → List Note → Nat
  | _, [] => 0
  | _, .reported report :: rest => acceptedIn stage (some report.stage) rest
  | current, .accepted :: rest =>
    (if current = some stage then 1 else 0) + acceptedIn stage current rest

/-- The reports of a stage count up by one. They begin at nothing done, which is the report that
opens the stage. -/
theorem reports_ofStage (stage : Stage) (jobSize done : Nat) :
    (ofStage stage jobSize done).filterMap report? =
      (List.range (done + 1)).map fun count => ⟨stage, jobSize, count⟩ := by
  have counted : ∀ begun units, (counting stage jobSize begun units).filterMap report? =
      (List.range' (begun + 1) units).map fun count => ⟨stage, jobSize, count⟩ := by
    intro begun units
    induction units generalizing begun with
    | zero => rfl
    | succ units inductionHypothesis =>
      have unreported : stage.unit.filterMap report? = [] := by cases stage <;> rfl
      rw [counting_succ, List.filterMap_append, List.filterMap_append, inductionHypothesis,
        unreported]
      rfl
  rw [List.range_eq_range', List.range'_succ, List.map_cons, ← counted]
  rfl

/-- One unit of work adds what it has accepted to the count of its own stage, and nothing to that of
another one. A closure is a unit of which nothing is accepted. -/
theorem acceptedIn_unit (wanted stage : Stage) (rest : List Note) :
    acceptedIn wanted (some stage) (stage.unit ++ rest) =
      (if stage = wanted then stage.unit.length else 0) + acceptedIn wanted (some stage) rest := by
  cases stage <;> simp [Stage.unit, acceptedIn]

/-- All statements noted in a stage are its own. Each unit reports its own stage before the next one
begins, so no statement is taken for that of another stage. -/
theorem acceptedIn_counting (wanted stage : Stage) (jobSize begun units : Nat) (rest : List Note) :
    acceptedIn wanted (some stage) (counting stage jobSize begun units ++ rest) =
      (if stage = wanted then units * stage.unit.length else 0) +
        acceptedIn wanted (some stage) rest := by
  induction units generalizing begun with
  | zero => simp [counting]
  | succ units inductionHypothesis =>
    rw [counting_succ, List.append_assoc, List.append_assoc, acceptedIn_unit, List.singleton_append,
      acceptedIn, inductionHypothesis]
    split
    · rw [Nat.succ_mul, Nat.add_left_comm, Nat.add_assoc]
    · rw [Nat.zero_add, Nat.zero_add]

end Note

/-- The progress published last is the last one reported. -/
theorem Session.published_eq {σ : Type} (session : Session σ) :
    session.published = (session.seen Event.reported?).getLast?.getD .initial := by
  rw [published, seen, List.getLast?_filterMap]
  congr 2

/-- What is reported are the reports among the notes. -/
theorem Event.filterMap_reported? (events : List Event) :
    events.filterMap reported? = (events.filterMap note?).filterMap Note.report? := by
  rw [List.filterMap_filterMap]
  congr 1
  funext event
  rcases event with _ | _ | _ | ⟨_, _ | _⟩ | _ | _ <;> rfl

/-- The target does not come back from some call. -/
def Target.Crashes {σ : Type} (target : Target σ) : Prop :=
  Scan.Vanishes target ∨ ∃ statement state, (target.execute statement state).reply = .crash

namespace StageSummary

/-- What a report shows of a stage as progress. -/
def shown (status : StageSummary) (stage : Stage) : Progress :=
  ⟨stage, status.jobSize, status.progress⟩

/-- The notes of a stage that a summary stands for. -/
def notes (status : StageSummary) (stage : Stage) : List Note :=
  if status.started then Note.ofStage stage status.jobSize status.progress else []

/-- A stage that was not started leaves no notes. Its summary is the empty one. -/
@[simp]
theorem notes_empty (stage : Stage) : ({} : StageSummary).notes stage = [] :=
  rfl

/-- What a summary has for progress is what was accepted in the stage, if it sends statements. A
search sends none, so for it the number is zero whatever its progress. -/
theorem acceptedIn_notes {status : StageSummary} (idle : status.started = false → status = {})
    (wanted stage : Stage) (current : Option Stage) (rest : List Note) :
    ∃ last, Note.acceptedIn wanted current (status.notes stage ++ rest) =
      (if stage = wanted then status.progress * stage.unit.length else 0) +
        Note.acceptedIn wanted last rest := by
  rw [notes]
  split
  · refine ⟨some stage, ?_⟩
    rw [Note.ofStage, List.cons_append, Note.acceptedIn, Note.acceptedIn_counting]
  · rename_i notStarted
    refine ⟨current, ?_⟩
    rw [idle (by simpa using notStarted), List.nil_append, Nat.zero_mul, ite_self, Nat.zero_add]

end StageSummary

namespace DeploymentReport

/-- The work of a stage has vanished without a word. -/
def Vanished (report : DeploymentReport) (stage : Stage) : Prop :=
  report.outcome = .failed stage (.invalidState (.stageVanished stage))

/-- The notes that a report stands for. -/
def notes (report : DeploymentReport) : List Note :=
  report.startedStages.flatMap fun stage => (report.summary stage).notes stage

/-- The progress that a report stands for: each stage that was started, counted up by one to what
was done of it. -/
def reports (report : DeploymentReport) : List Progress :=
  report.startedStages.flatMap fun stage =>
    (List.range ((report.summary stage).progress + 1)).map fun done =>
      ⟨stage, (report.summary stage).jobSize, done⟩

/-- What a report shows of the stage that was started last. -/
def shown? (report : DeploymentReport) : Option Progress :=
  report.startedStages.getLast?.map fun stage => (report.summary stage).shown stage

/-- The size of a stage: the objects to look up, the drops or the statements to run. -/
def jobSize (report : DeploymentReport) (statements : List Statement) : Stage → Nat
  | .find => (statements.flatMap Statement.createdObjects).length
  | .resolve => report.drops.length
  | .execute => (Deployment.runnable statements).length

/-- The notes of a report are those of its three summaries, one after the other. A stage that was
not started may be asked as well, because its summary stands for no notes. -/
theorem notes_eq (report : DeploymentReport) :
    report.notes = report.find.notes .find ++ report.resolve.notes .resolve ++
      report.execute.notes .execute := by
  have one : ∀ stage, (((report.summary stage).ifStarted stage).flatMap fun stage =>
      (report.summary stage).notes stage) = (report.summary stage).notes stage := by
    intro stage
    rw [StageSummary.ifStarted, StageSummary.notes]
    split
    · simp [StageSummary.notes, *]
    · rfl
  rw [notes, startedStages_eq, List.flatMap_append, List.flatMap_append]
  exact congrArg₂ _ (congrArg₂ _ (one .find) (one .resolve)) (one .execute)

/-- The reports among the notes are the progress that a report stands for. Statements that were
accepted stand between them and are passed over. -/
theorem filterMap_report?_notes (report : DeploymentReport) :
    report.notes.filterMap Note.report? = report.reports := by
  rw [notes, List.filterMap_flatMap]
  refine List.flatMap_congr fun stage member => ?_
  have started : (report.summary stage).started = true := (List.mem_filter.mp member).2
  rw [StageSummary.notes, if_pos started, Note.reports_ofStage]

/-- What is reported last is what a report shows of the stage that was started last. A stage that
was started has reported at least that it was opened. If none was, nothing is reported and nothing
is shown. -/
theorem getLast?_reports (report : DeploymentReport) : report.reports.getLast? = report.shown? := by
  have last : ∀ stage, ((List.range ((report.summary stage).progress + 1)).map fun done =>
      (⟨stage, (report.summary stage).jobSize, done⟩ : Progress)).getLast? =
        some ((report.summary stage).shown stage) := by
    intro stage
    rw [List.getLast?_map, List.getLast?_range, if_neg (Nat.succ_ne_zero _)]
    rfl
  rw [reports, shown?, List.getLast?_flatMap, ← List.head?_reverse]
  simp only [last]
  cases report.startedStages.reverse <;> rfl

/-- The statements accepted in a stage are those that a report has for its progress. -/
theorem acceptedIn_notes {report : DeploymentReport}
    (idle : ∀ stage, (report.summary stage).started = false → report.summary stage = {})
    (stage : Stage) : Note.acceptedIn stage none report.notes =
      (report.summary stage).progress * stage.unit.length := by
  obtain ⟨afterFind, found⟩ := StageSummary.acceptedIn_notes (idle .find) stage .find none
    (report.resolve.notes .resolve ++ report.execute.notes .execute)
  obtain ⟨afterResolve, resolved⟩ := StageSummary.acceptedIn_notes (idle .resolve) stage .resolve
    afterFind (report.execute.notes .execute)
  obtain ⟨afterExecute, executed⟩ := StageSummary.acceptedIn_notes (idle .execute) stage .execute
    afterResolve []
  rw [List.append_nil] at executed
  have total := found.trans (congrArg _ (resolved.trans (congrArg _ executed)))
  rw [notes_eq, List.append_assoc]
  refine total.trans ?_
  cases stage <;> simp [Note.acceptedIn, summary]

end DeploymentReport

namespace Deployment

variable {σ α : Type} {target : Target σ} {dialect : Dialect} {statements : List Statement}
  {gate : Gate} {session : Session σ} {stage : Stage} {jobSize : Nat}

/-- The work of a stage has vanished, as its ending has it. -/
def Vanishes (stage : Stage) (ending : Ending α) : Prop :=
  stopped stage ending = .failed stage (.invalidState (.stageVanished stage))

/-- What is told of a stage: a summary that stands for what was noted, unless its work vanished
because the target did not come back. -/
structure Tells (target : Target σ) (stage : Stage) (jobSize : Nat) (before : Session σ)
    (ending : Ending α) (status : StageSummary) (after : Session σ) : Prop where
  crashes : Vanishes stage ending → target.Crashes
  notes : ¬ Vanishes stage ending →
    after.seen Event.note? = before.seen Event.note? ++ status.notes stage
  size : ¬ Vanishes stage ending → status.started = true → status.jobSize = jobSize
  complete : status.completed = true → status.progress = status.jobSize
  idle : status.started = false → status = {}

/-- The summary of a stage stands for what its work has counted. There are two exceptions. A stage
that was skipped stands for nothing, and one that nothing came back from has lost its count; the
latter takes a call that crashes. -/
theorem tells_runStage {work : Session σ → StageReport α × Session σ}
    (crashes : Vanishes stage (work session).1.ending → target.Crashes)
    (size : (work session).1.jobSize = jobSize)
    (counts : CountsUp stage jobSize session (work session).1.ending.isFinished
      (work session).1.progress (work session).2) :
    let result := runStage stage work session
    Tells target stage jobSize session result.1 result.2.1 result.2.2 := by
  intro result
  have undone : ∀ {holds : Prop}, false = true → holds := fun impossible =>
    absurd impossible Bool.false_ne_true
  rw [show result = runStage stage work session from rfl, runStage]
  split
  · refine ⟨fun vanished => ?_, fun _ => (List.append_nil _).symm, fun _ => undone, undone,
      fun _ => rfl⟩
    cases vanished
  · rcases worked : work session with ⟨⟨ending, reportedSize, progress⟩, next⟩
    rw [worked] at crashes size counts
    obtain rfl : reportedSize = jobSize := size
    have begun : ∀ {holds : Prop}, true = false → holds := fun impossible =>
      undone impossible.symm
    cases ending with
    | finished value =>
      exact ⟨crashes, fun _ => counts.notes, fun _ _ => rfl, fun _ => counts.all rfl, begun⟩
    | cancelled => exact ⟨crashes, fun _ => counts.notes, fun _ _ => rfl, undone, begun⟩
    | failed error => exact ⟨crashes, fun _ => counts.notes, fun _ _ => rfl, undone, begun⟩
    | crashed =>
      exact ⟨fun _ => crashes rfl, fun spoken => absurd rfl spoken,
        fun spoken => absurd rfl spoken, undone, begun⟩

/-- The search of a script counts the objects that the script creates. An error of a search is about
an object and never says that a stage vanished, which is how the two kinds of failure are told
apart. -/
theorem tells_findStage (target : Target σ) (dialect : Dialect) (statements : List Statement)
    (session : Session σ) :
    let result := findStage target dialect statements session
    Tells target .find (statements.flatMap Statement.createdObjects).length session result.1
      result.2.1 result.2.2 := by
  have fresh : (Clearance.ofScript dialect statements).started = false := rfl
  have replied := Clearance.replied_find target fresh session
  obtain ⟨sameSize, counts⟩ := Clearance.find_countsUp target fresh rfl session
  rcases searched : (Clearance.ofScript dialect statements).find target session with
    ⟨ending, scanned, next⟩
  rw [searched] at replied sameSize counts
  refine tells_runStage ?_ (by rw [findWork, searched]; exact sameSize) ?_
  · rw [findWork, searched]
    intro vanished
    cases ending with
    | finished => cases vanished
    | cancelled => cases vanished
    | failed error =>
      obtain ⟨object, cause, rfl⟩ := replied.eq_failure
      cases vanished
    | crashed => exact Or.inl replied.vanishes
  · rw [findWork, searched]
    cases ending <;> exact counts

/-- Work that sends statements vanishes only if the target does not come back. A statement that
fails is no crash, and its error names the statement and not a stage. -/
theorem crashes_of_sending {statements : List String} {done last : Nat} {final : Session σ}
    {ending : Ending Unit}
    (sending : Sending target stage jobSize statements done session ending last final)
    {here : Stage} (vanished : Vanishes here ending) : target.Crashes := by
  cases ending with
  | finished => cases vanished
  | cancelled => cases vanished
  | failed error =>
    obtain ⟨subject, statement, cause, rfl⟩ := sending.eq_executionFailed
    cases vanished
  | crashed => exact Or.inr sending.exists_crash

/-- The drops are counted as the target accepts them. The size of the job is the number of planned
drops, and the count begins at nothing, as nothing was dropped before the stage. -/
theorem tells_resolveStage (target : Target σ) {clearance : Clearance} {drops : List DropStep}
    (ready : clearance.finished = true) (planned : clearance.plan = .ok drops)
    (untouched : clearance.dropped = 0) (session : Session σ) :
    let result := resolveStage target session clearance drops
    Tells target .resolve drops.length session result.1 result.2.1 result.2.2 := by
  refine tells_runStage (fun vanished => ?_) rfl
    (Clearance.drop_countsUp ready planned untouched session)
  rw [resolveWork, Clearance.drop, if_pos ready, planned] at vanished
  obtain ⟨last, sending, -⟩ := Clearance.sending_runDrops target drops.length drops 0
    clearance.dropped (session.publish .resolve drops.length 0)
  exact crashes_of_sending sending vanished

/-- The statements of the script are counted as the target accepts them. The size of the job is the
number of statements in the script. -/
theorem tells_executeStage (target : Target σ) (statements : List Statement)
    (session : Session σ) :
    let result := executeStage target statements session
    Tells target .execute (runnable statements).length session result.1 result.2.1 result.2.2 := by
  obtain ⟨sameSize, sending⟩ := sending_runStatements target (runnable statements).length
    (runnable statements) 0 (session.publish .execute (runnable statements).length 0)
  obtain ⟨units, counted, counts⟩ := sending.counts rfl
  refine tells_runStage (crashes_of_sending sending) sameSize ?_
  rw [executeWork, counted, Nat.zero_add]
  rw [List.length_map] at counts
  exact counts.opened

end Deployment

namespace DeploymentReport

open Deployment

variable {σ α : Type} {target : Target σ} {statements : List Statement}
  {before between after : Session σ} {report : DeploymentReport}

/-- A report accounts for what happened between two moments of a session: it stands for what was
noted, unless a stage of it has vanished because the target did not come back. -/
structure Accounts (target : Target σ) (statements : List Statement) (before : Session σ)
    (report : DeploymentReport) (after : Session σ) : Prop where
  crashes : ∀ stage, report.Vanished stage → target.Crashes
  notes : (∀ stage, ¬ report.Vanished stage) →
    after.seen Event.note? = before.seen Event.note? ++ report.notes
  size : (∀ stage, ¬ report.Vanished stage) → ∀ stage, (report.summary stage).started = true →
    (report.summary stage).jobSize = report.jobSize statements stage
  complete : ∀ stage, (report.summary stage).completed = true →
    (report.summary stage).progress = (report.summary stage).jobSize
  idle : ∀ stage, (report.summary stage).started = false → report.summary stage = {}

/-- In a completed run no stage has vanished, since a stage that vanishes ends its run as a failure.
-/
theorem not_vanished_of_completed (stillOpen : report.outcome = .completed) (stage : Stage) :
    ¬ report.Vanished stage := by
  rw [Vanished, stillOpen]
  exact nofun

/-- A run that was stopped in a stage has only that one to vanish, and whether it did is seen from
how the stage ended. Every other stage has either come to its end or was not reached. -/
theorem vanished_iff_of_stopped {here : Stage} {ending : Ending α}
    (stops : report.outcome = stopped here ending) (stage : Stage) :
    report.Vanished stage ↔ stage = here ∧ Vanishes here ending := by
  rw [Vanished, stops]
  constructor
  · intro vanished
    obtain rfl : stage = here := by cases ending <;> cases vanished <;> rfl
    exact ⟨rfl, vanished⟩
  · rintro ⟨rfl, vanishes⟩
    exact vanishes

/-- A run in which nothing has happened yet is accounted for. -/
theorem Accounts.refl (session : Session σ) : Accounts target statements session {} session where
  crashes stage vanished := absurd vanished (not_vanished_of_completed rfl stage)
  notes _ := (List.append_nil _).symm
  size _ stage started := by cases stage <;> cases started
  complete stage completed := by cases stage <;> cases completed
  idle stage _ := by cases stage <;> rfl

/-- A stage adds its summary to a report of what came before. The notes of its work come behind
those of the stages before, and its size, progress and completion are its own. Summaries of other
stages are taken over as they were. -/
theorem Accounts.step {later : DeploymentReport} {here : Stage} {ending : Ending α}
    (accounts : report.Accounts target statements before between)
    (stillOpen : report.outcome = .completed)
    (tells : Tells target here (later.jobSize statements here) between ending (later.summary here)
      after)
    (others : ∀ stage, stage ≠ here → later.summary stage = report.summary stage ∧
      ((report.summary stage).started = true →
        later.jobSize statements stage = report.jobSize statements stage))
    (notes : later.notes = report.notes ++ (later.summary here).notes here)
    (vanished : ∀ stage, later.Vanished stage ↔ stage = here ∧ Vanishes here ending) :
    later.Accounts target statements before after := by
  have spoken : (∀ stage, ¬ later.Vanished stage) → ¬ Vanishes here ending :=
    fun none vanishes => none here ((vanished here).mpr ⟨rfl, vanishes⟩)
  refine ⟨fun stage isVanished => tells.crashes ((vanished stage).mp isVanished).2, ?_, ?_, ?_, ?_⟩
  · intro none
    rw [tells.notes (spoken none), accounts.notes (not_vanished_of_completed stillOpen), notes,
      List.append_assoc]
  · intro none stage started
    by_cases isHere : stage = here
    · subst isHere
      exact tells.size (spoken none) started
    · obtain ⟨same, sameSize⟩ := others stage isHere
      rw [same] at started ⊢
      rw [sameSize started]
      exact accounts.size (not_vanished_of_completed stillOpen) stage started
  · intro stage completed
    by_cases isHere : stage = here
    · subst isHere
      exact tells.complete completed
    · rw [(others stage isHere).1] at completed ⊢
      exact accounts.complete stage completed
  · intro stage notStarted
    by_cases isHere : stage = here
    · subst isHere
      exact tells.idle notStarted
    · rw [(others stage isHere).1] at notStarted ⊢
      exact accounts.idle stage notStarted

/-- What is not noted changes no account. -/
theorem Accounts.of_seen_eq (accounts : report.Accounts target statements before between)
    (quiet : after.seen Event.note? = between.seen Event.note?) :
    report.Accounts target statements before after :=
  ⟨accounts.crashes, fun none => quiet.trans (accounts.notes none), accounts.size,
    accounts.complete, accounts.idle⟩

end DeploymentReport

namespace Deployment

variable {σ α : Type} {target : Target σ} {dialect : Dialect} {statements : List Statement}
  {gate : Gate} {session : Session σ} {clearance : Clearance} {status : StageSummary}
  {next : Session σ}

open DeploymentReport (Accounts)

/-- The first stage is accounted for in every report that says no more of the other two. It starts
from the empty report, in which no stage was started and nothing was noted. -/
theorem accounts_findStage {report : DeploymentReport} {ending : Ending Clearance}
    (searched : findStage target dialect statements session = (ending, status, next))
    (sameFind : report.find = status) (unresolved : report.resolve = {})
    (unexecuted : report.execute = {})
    (vanished : ∀ stage, report.Vanished stage ↔ stage = .find ∧ Vanishes .find ending) :
    report.Accounts target statements session next := by
  subst sameFind
  have tells := tells_findStage target dialect statements session
  rw [searched] at tells
  refine (Accounts.refl session).step rfl tells (fun stage other => ⟨?_, ?_⟩) ?_ vanished
  · cases stage with
    | find => exact absurd rfl other
    | resolve => exact unresolved
    | execute => exact unexecuted
  · intro started
    cases stage <;> cases started
  · rw [DeploymentReport.notes_eq, unresolved, unexecuted, StageSummary.notes_empty,
      StageSummary.notes_empty, List.append_nil, List.append_nil]
    rfl

/-- A search that ran to its end is accounted for, whatever else the report has to say. -/
theorem accounts_of_found {report : DeploymentReport}
    (found : findStage target dialect statements session = (.finished clearance, status, next))
    (sameFind : report.find = status) (unresolved : report.resolve = {})
    (unexecuted : report.execute = {}) (spoken : ∀ stage, ¬ report.Vanished stage) :
    report.Accounts target statements session next :=
  accounts_findStage found sameFind unresolved unexecuted fun stage =>
    iff_of_false (spoken stage) fun vanishes => nomatch vanishes.2

/-- The second stage is accounted for after the first. The number of drops is taken from the plan,
both for the size of its job and in the report. -/
theorem accounts_resolveStage {report later : DeploymentReport} {drops : List DropStep}
    {between last : Session σ} {ending : Ending Unit}
    (accounts : report.Accounts target statements session between)
    (stillOpen : report.outcome = .completed) (unresolved : report.resolve = {})
    (unexecuted : report.execute = {}) (ready : clearance.finished = true)
    (planned : clearance.plan = .ok drops) (untouched : clearance.dropped = 0)
    (dropped : resolveStage target between clearance drops = (ending, later.resolve, last))
    (sameFind : later.find = report.find) (sameExecute : later.execute = report.execute)
    (sameDrops : later.drops = drops)
    (vanished : ∀ stage, later.Vanished stage ↔ stage = .resolve ∧ Vanishes .resolve ending) :
    later.Accounts target statements session last := by
  subst sameDrops
  have tells := tells_resolveStage target ready planned untouched between
  rw [dropped] at tells
  refine accounts.step stillOpen tells (fun stage other => ⟨?_, ?_⟩) ?_ vanished
  · cases stage with
    | find => exact sameFind
    | resolve => exact absurd rfl other
    | execute => exact sameExecute
  · intro started
    cases stage with
    | find => rfl
    | resolve => exact absurd rfl other
    | execute => rfl
  · rw [DeploymentReport.notes_eq, DeploymentReport.notes_eq, sameFind, sameExecute, unresolved,
      unexecuted, StageSummary.notes_empty, StageSummary.notes_empty, List.append_nil,
      List.append_nil, List.append_nil]
    rfl

/-- The third stage is accounted for at the end. The run is complete if the script is, and otherwise
stopped there. A script that ran to its end has not vanished, nor has any other stage. -/
theorem accounts_execute {report : DeploymentReport} {between : Session σ}
    (accounts : report.Accounts target statements session between)
    (stillOpen : report.outcome = .completed) (unexecuted : report.execute = {}) :
    let result := execute target statements report between
    result.1.Accounts target statements session result.2 := by
  intro result
  rw [show result = _ from execute_eq target statements between report stillOpen]
  refine accounts.step stillOpen (tells_executeStage target statements between)
    (fun stage other => ⟨?_, ?_⟩) ?_ fun stage => ?_
  · cases stage with
    | find => rfl
    | resolve => rfl
    | execute => exact absurd rfl other
  · intro _
    cases stage <;> rfl
  · rw [DeploymentReport.notes_eq, DeploymentReport.notes_eq, unexecuted, StageSummary.notes_empty,
      List.append_nil]
    rfl
  · cases finished : (executeStage target statements between).1.isFinished with
    | true =>
      refine iff_of_false (DeploymentReport.not_vanished_of_completed rfl stage) ?_
      rintro ⟨-, vanishes⟩
      rw [Vanishes] at vanishes
      cases ended : (executeStage target statements between).1 with
      | finished => rw [ended] at vanishes; cases vanishes
      | _ => rw [ended] at finished; cases finished
    | false => exact DeploymentReport.vanished_iff_of_stopped rfl stage

/-- The gate's answer is not noted. -/
theorem note_afterAnswer (session : Session σ) (answer : GateAnswer) :
    (afterAnswer session answer).seen Event.note? = session.seen Event.note? := by
  rw [afterAnswer, Session.seen_cancelIf rfl, Session.seen_record]
  exact List.append_nil _

/-- The first stage is accounted for when the gate is asked. -/
theorem Asks.accounts {drops : List DropStep}
    (asks : Asks target dialect statements session clearance status next drops)
    (answer : GateAnswer) :
    Accounts target statements session { find := status } (afterAnswer next answer) :=
  (accounts_of_found asks.found rfl rfl rfl
    (DeploymentReport.not_vanished_of_completed rfl)).of_seen_eq (note_afterAnswer next answer)

/-- Drops that cannot be planned are those of constraints whose table is not known. Nothing else can
go wrong in writing a drop down, so a failure to plan never looks like a stage that vanished. -/
theorem eq_unownedConstraint_of_drops {objects : List DatabaseObject} {error : Failure}
    (unplannable : DropPlan.drops dialect objects = .error error) :
    ∃ object, error = .invalidState (.unownedConstraint object) := by
  induction objects with
  | nil => cases unplannable
  | cons object rest inductionHypothesis =>
    rw [DropPlan.drops] at unplannable
    split at unplannable
    · rename_i cause unwritten
      cases unplannable
      rw [DropPlan.drop] at unwritten
      split at unwritten
      · cases unwritten
      · cases unwritten
        exact ⟨object, rfl⟩
    · split at unplannable
      · rename_i cause failed
        cases unplannable
        exact inductionHypothesis failed
      · cases unplannable

/-- Whatever course a run takes, its report accounts for what was noted. Each course is put together
from its stages in their order, and those that it does not reach are accounted for as not started.
-/
theorem Course.accounts {result : DeploymentReport × Session σ}
    (course : Course target dialect statements gate session result) :
    result.1.Accounts target statements session result.2 := by
  cases course with
  | unfound searched unfinished =>
    exact accounts_findStage searched rfl rfl rfl (DeploymentReport.vanished_iff_of_stopped rfl)
  | unhindered found free =>
    exact accounts_execute (accounts_of_found found rfl rfl rfl
      (DeploymentReport.not_vanished_of_completed rfl)) rfl rfl
  | unplanned found conflicting unplannable =>
    refine accounts_of_found found rfl rfl rfl fun stage vanished => ?_
    obtain ⟨object, rfl⟩ := eq_unownedConstraint_of_drops unplannable
    cases vanished
  | calledOff asks answered =>
    refine (accounts_of_found asks.found rfl rfl rfl fun stage vanished => ?_).of_seen_eq
      (note_afterAnswer _ _)
    cases vanished
  | kept asks answered =>
    exact accounts_execute ((accounts_of_found asks.found rfl rfl rfl
      (DeploymentReport.not_vanished_of_completed rfl)).of_seen_eq (note_afterAnswer _ _)) rfl rfl
  | @unresolved clearance status next drops ending resolution last asks answered dropped =>
    have ready := (of_findStage_finished asks.found).2.1
    have asked := asks.accounts (gate clearance.conflicts drops)
    exact accounts_resolveStage asked rfl rfl rfl ready asks.planned asks.untouched dropped rfl rfl
      rfl (DeploymentReport.vanished_iff_of_stopped rfl)
  | @resolved clearance status next drops resolution last asks answered dropped =>
    have ready := (of_findStage_finished asks.found).2.1
    have asked := asks.accounts (gate clearance.conflicts drops)
    refine accounts_execute ?_ rfl rfl
    refine accounts_resolveStage asked rfl rfl rfl ready asks.planned asks.untouched dropped rfl rfl
      rfl fun stage => ?_
    exact iff_of_false (DeploymentReport.not_vanished_of_completed rfl stage) nofun

/-- In every run in which no stage vanishes, progress is told alike while it is under way and by the
report. Each stage that was started is counted up by one to its progress in the report, in the order
of the stages; so what is published last is what the report shows of the stage started last. In a
stage that sends statements the progress is the number of statements accepted in it, and a completed
stage has done all of its work. Only a target that does not come back can make a stage vanish. -/
theorem run_publishes_reported_progress (target : Target σ) (dialect : Dialect)
    (statements : List Statement) (gate : Gate) (session : Session σ) :
    let result := run target dialect statements gate session
    let report := result.1
    (∀ stage, report.Vanished stage → target.Crashes) ∧
      ((∀ stage, ¬ report.Vanished stage) → ∃ events,
        result.2.events = session.events ++ events ∧
          events.filterMap Event.reported? = report.reports ∧
          result.2.published = report.shown?.getD session.published ∧
          (session.seen Event.reported? = [] → session.published = ⟨.find, 0, 0⟩) ∧
          (∀ stage, Note.acceptedIn stage none (events.filterMap Event.note?) =
            if stage = .find then 0 else (report.summary stage).progress) ∧
          ∀ stage,
            ((report.summary stage).started = true →
              (report.summary stage).jobSize = report.jobSize statements stage) ∧
            ((report.summary stage).completed = true →
              (report.summary stage).progress = (report.summary stage).jobSize)) := by
  intro result report
  have course := run_course target dialect statements gate session
  have accounts := course.accounts
  refine ⟨accounts.crashes, fun spoken => ?_⟩
  obtain ⟨events, heeds⟩ := course.records.steps.exists_heeds
  -- Everything else is read off the notes, which are those that the report stands for.
  have noted : events.filterMap Event.note? = report.notes := by
    have notes := accounts.notes spoken
    rw [Session.seen_of_append heeds.appended] at notes
    exact List.append_cancel_left notes
  have reported : events.filterMap Event.reported? = report.reports := by
    rw [Event.filterMap_reported?, noted, report.filterMap_report?_notes]
  refine ⟨events, heeds.appended, reported, ?_, ?_, ?_, fun stage => ⟨accounts.size spoken stage,
    accounts.complete stage⟩⟩
  · rw [Session.published_eq, Session.seen_of_append heeds.appended, reported,
      List.getLast?_append, report.getLast?_reports, Session.published_eq]
    cases report.shown? <;> rfl
  · intro unreported
    rw [Session.published_eq, unreported]
    rfl
  · intro stage
    rw [noted, DeploymentReport.acceptedIn_notes accounts.idle]
    cases stage with
    | find => rfl
    | resolve => exact Nat.mul_one _
    | execute => exact Nat.mul_one _

/-- Of three tables to be dropped the second one is locked. One drop is counted, and there the
progress stands. -/
theorem run_publishes_halted_progress :
    let locked := FixedCatalogue.ring.refusingStatement "other" "locked"
    let result := run FixedCatalogue.calls Dialect.Known.generic (FixedCatalogue.creationOf "base")
      (fun _ _ => ⟨.drop, false⟩) (Session.start locked)
    (∀ stage, ¬ result.1.Vanished stage) ∧
      result.2.seen Event.reported? =
        [⟨.find, 1, 0⟩, ⟨.find, 1, 1⟩, ⟨.resolve, 3, 0⟩, ⟨.resolve, 3, 1⟩] ∧
      result.2.published = ⟨.resolve, 3, 1⟩ ∧
      Note.acceptedIn .resolve none (result.2.seen Event.note?) = 1 := by
  intro locked result
  have halted : result.1.outcome = .failed .resolve (.executionFailed
      (.object (FixedCatalogue.tableOf "other")) "DROP TABLE other" "locked") := by
    decide +kernel
  have spoken : ∀ stage, ¬ result.1.Vanished stage := by
    intro stage vanished
    cases halted.symm.trans vanished
  obtain ⟨-, agrees⟩ := run_publishes_reported_progress FixedCatalogue.calls Dialect.Known.generic
    (FixedCatalogue.creationOf "base") (fun _ _ => ⟨.drop, false⟩) (Session.start locked)
  obtain ⟨events, appended, reported, published, -, accepted, -⟩ := agrees spoken
  have all : result.2.events = events := appended
  refine ⟨spoken, ?_, ?_, ?_⟩
  · rw [Session.seen, all, reported]
    decide +kernel
  · rw [show result.2.published = _ from published]
    decide +kernel
  · rw [Session.seen, all, accepted]
    decide +kernel

end Deployment

end SchemaForward
