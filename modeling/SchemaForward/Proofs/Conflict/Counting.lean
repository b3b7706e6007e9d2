import SchemaForward.Proofs.Conflict.Delivery

/-!
# Counting progress

Work that reports its progress counts up by one. In a stage that sends statements a unit of work is
a statement that the target has accepted, and it is counted next thing; in a search it is a subject,
with all that depends on what stands in its way. Nothing else is counted, and nothing twice.

What is kept of the events are notes, of reports and of accepted statements. The notes of a stage
are fixed by its size and by how much of it was done, whatever stopped it: the report that opens it,
and then those of the units one after the other.
-/

namespace SchemaForward

/-- What is noted of progress: a report, or a statement that the target has accepted. -/
inductive Note where
  | reported (progress : Progress)
  | accepted
  deriving DecidableEq, Repr

/-- What an event says about progress. -/
def Event.note? : Event → Option Note
  | .progress report => some (.reported report)
  | .execute _ true => some .accepted
  | _ => none

/-- What is noted of a unit of work before it is counted. A search sends no statements. -/
def Stage.unit : Stage → List Note
  | .find => []
  | .resolve => [.accepted]
  | .execute => [.accepted]

namespace Note

/-- The notes of some units of work in a row, with others done before. -/
def counting (stage : Stage) (jobSize begun units : Nat) : List Note :=
  (List.range' begun units).flatMap fun done =>
    stage.unit ++ [.reported ⟨stage, jobSize, done + 1⟩]

/-- Counting by one more unit notes the first unit and its report, and then counts on from there.
This is the form in which the recursion of a stage meets it. -/
theorem counting_succ (stage : Stage) (jobSize begun units : Nat) :
    counting stage jobSize begun (units + 1) =
      stage.unit ++ [.reported ⟨stage, jobSize, begun + 1⟩] ++
        counting stage jobSize (begun + 1) units := by
  rw [counting, List.range'_succ, List.flatMap_cons, counting]

/-- The notes of a stage of which so much was done. -/
def ofStage (stage : Stage) (jobSize done : Nat) : List Note :=
  .reported ⟨stage, jobSize, 0⟩ :: counting stage jobSize 0 done

end Note

section Counts

variable {σ : Type} {stage : Stage} {jobSize total begun units : Nat} {complete : Bool}
  {before between after : Session σ}

/-- Of a number of units of work some are done between two moments of a session, all of them if the
work is complete, and each is counted. -/
structure Counts (stage : Stage) (jobSize total begun : Nat) (before : Session σ) (complete : Bool)
    (units : Nat) (after : Session σ) : Prop where
  within : units ≤ total
  all : complete = true → units = total
  notes : after.seen Event.note? =
    before.seen Event.note? ++ Note.counting stage jobSize begun units

namespace Counts

/-- Work that stops before the next unit has not counted it. -/
theorem stopped (quiet : after.seen Event.note? = before.seen Event.note?) :
    Counts stage jobSize total begun before false 0 after where
  within := Nat.zero_le _
  all incomplete := by cases incomplete
  notes := quiet.trans (List.append_nil _).symm

/-- No work is complete at once. -/
theorem nil (session : Session σ) : Counts stage jobSize 0 begun session true 0 session where
  within := Nat.le_refl 0
  all _ := rfl
  notes := (List.append_nil _).symm

/-- One unit is done and counted, and then others. -/
theorem cons (one : between.seen Event.note? = before.seen Event.note? ++
      (stage.unit ++ [.reported ⟨stage, jobSize, begun + 1⟩]))
    (rest : Counts stage jobSize total (begun + 1) between complete units after) :
    Counts stage jobSize (total + 1) begun before complete (units + 1) after where
  within := Nat.succ_le_succ rest.within
  all isComplete := congrArg Nat.succ (rest.all isComplete)
  notes := by rw [rest.notes, one, Note.counting_succ, List.append_assoc]

end Counts

/-- A stage has come so far between two moments of a session: it was opened, and its units were
counted up to what was done. -/
structure CountsUp (stage : Stage) (jobSize : Nat) (before : Session σ) (complete : Bool)
    (done : Nat) (after : Session σ) : Prop where
  within : done ≤ jobSize
  all : complete = true → done = jobSize
  notes : after.seen Event.note? = before.seen Event.note? ++ Note.ofStage stage jobSize done

/-- A stage counts from the report that opens it. -/
theorem Counts.opened
    (counts : Counts stage jobSize jobSize 0 (before.publish stage jobSize 0) complete units
      after) :
    CountsUp stage jobSize before complete units after where
  within := counts.within
  all := counts.all
  notes := by
    rw [counts.notes, Session.seen_publish rfl, List.append_assoc]
    rfl

end Counts

/-- A statement is noted if it was accepted. -/
theorem Target.note_executeIn {σ : Type} (target : Target σ) (statement : String)
    (session : Session σ) :
    (target.executeIn statement session).2.seen Event.note? = session.seen Event.note? ++
      if isAnswer (target.executeIn statement session).1 then [.accepted] else [] := by
  rw [executeIn, Session.seen_after rfl]
  cases (target.execute statement session.target).reply <;> rfl

/-- Work that sends statements counts those that were accepted. The count goes up only with an
answer and the report that follows it: a statement that was refused, or that nothing came back from,
ends the work uncounted. -/
theorem Sending.counts {σ : Type} {target : Target σ} {stage : Stage} {jobSize : Nat}
    {statements : List String} {done last : Nat} {session final : Session σ}
    {ending : Ending Unit}
    (sending : Sending target stage jobSize statements done session ending last final)
    (unit : stage.unit = [.accepted]) :
    ∃ units, last = done + units ∧
      Counts stage jobSize statements.length done session ending.isFinished units final := by
  have noted : ∀ {statement : String} {session next : Session σ} {reply : Reply Unit},
      target.executeIn statement session = (reply, next) → next.seen Event.note? =
        session.seen Event.note? ++ if Target.isAnswer reply then [.accepted] else [] := by
    intro statement session next reply executed
    have note := target.note_executeIn statement session
    rwa [executed] at note
  induction sending with
  | finished done session => exact ⟨0, rfl, .nil session⟩
  | cancelled statements done set => exact ⟨0, rfl, .stopped rfl⟩
  | refused rest done unset executed subject =>
    exact ⟨0, rfl, .stopped ((noted executed).trans (List.append_nil _))⟩
  | vanished rest done unset executed =>
    exact ⟨0, rfl, .stopped ((noted executed).trans (List.append_nil _))⟩
  | accepted unset executed later inductionHypothesis =>
    obtain ⟨units, counted, counts⟩ := inductionHypothesis
    refine ⟨units + 1, by rw [counted, Nat.add_assoc, Nat.add_comm 1], counts.cons ?_⟩
    rw [Session.seen_publish rfl, noted executed, List.append_assoc, unit]
    rfl

/-- A scan counts the subjects that it has inspected. A subject is inspected once its dependents are
collected. One at which the scan ended otherwise is not counted, although it was looked up. -/
theorem Scan.run_counts {σ : Type} (target : Target σ) (jobSize : Nat)
    (subjects : List DatabaseObject) (state : State) (session : Session σ) :
    let result := run target jobSize subjects state session
    ∃ units, result.2.1.done = state.done + units ∧
      Counts .find jobSize subjects.length state.done session result.1.isFinished units
        result.2.2 := by
  induction subjects generalizing state session with
  | nil => exact ⟨0, rfl, .nil session⟩
  | cons subject rest inductionHypothesis =>
    rw [run]
    split
    · exact ⟨0, rfl, .stopped rfl⟩
    · have quiet := seen_inspect target Event.note? rfl (fun _ => rfl) subject session
      rcases inspected : inspect target subject session with ⟨ending, next⟩
      rw [inspected] at quiet
      replace quiet : next.seen Event.note? = session.seen Event.note? :=
        quiet.trans (List.append_nil _)
      cases ending with
      | finished conflicts =>
        obtain ⟨units, counted, counts⟩ := inductionHypothesis
          ⟨state.found ++ conflicts, state.done + 1⟩ (next.publish .find jobSize (state.done + 1))
        refine ⟨units + 1, by rw [counted, Nat.add_assoc, Nat.add_comm 1], counts.cons ?_⟩
        rw [Session.seen_publish rfl, quiet]
        rfl
      | cancelled => exact ⟨0, rfl, .stopped quiet⟩
      | failed error => exact ⟨0, rfl, .stopped quiet⟩
      | crashed => exact ⟨0, rfl, .stopped quiet⟩

namespace Clearance

variable {σ : Type} (target : Target σ)

/-- A search that has not begun counts up to its progress. The size of its job is the number of its
subjects. If it ran to its end, the two are equal. -/
theorem find_countsUp {clearance : Clearance} (fresh : clearance.started = false)
    (nothing : clearance.progress = 0) (session : Session σ) :
    let result := clearance.find target session
    result.2.1.jobSize = clearance.jobSize ∧
      CountsUp .find clearance.jobSize session result.1.isFinished result.2.1.progress
        result.2.2 := by
  intro result
  obtain ⟨units, counted, counts⟩ := Scan.run_counts target clearance.jobSize clearance.subjects
    ⟨[], clearance.progress⟩ (session.publish .find clearance.jobSize 0)
  rw [show result = _ from find_eq target fresh session]
  refine ⟨congrArg List.length (clearance.subjects_scanned _ _), ?_⟩
  rw [progress_scanned, counted, nothing, Nat.zero_add]
  rw [nothing] at counts
  exact counts.opened

variable {target}

/-- The first time conflicts are dropped, the drops are counted up to their number. A later attempt
counts from the beginning again, which is why this is said of the first time only. -/
theorem drop_countsUp {clearance : Clearance} {steps : List DropStep}
    (ready : clearance.finished = true) (planned : clearance.plan = .ok steps)
    (untouched : clearance.dropped = 0) (session : Session σ) :
    let result := clearance.drop target session
    CountsUp .resolve steps.length session result.1.isFinished result.2.1.dropped result.2.2 := by
  intro result
  obtain ⟨last, sending, same⟩ := sending_runDrops target steps.length steps 0 0
    (session.publish .resolve steps.length 0)
  obtain ⟨units, counted, counts⟩ := sending.counts rfl
  rw [List.length_map] at counts
  rw [show result = clearance.drop target session from rfl, drop, if_pos ready, planned]
  dsimp only
  rw [untouched, same rfl, counted, Nat.zero_add]
  exact counts.opened

end Clearance

end SchemaForward
