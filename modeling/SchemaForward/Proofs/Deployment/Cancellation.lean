import SchemaForward.Proofs.Conflict.Replies
import SchemaForward.Proofs.Conflict.Scan
import SchemaForward.Proofs.Deployment.Approval
import SchemaForward.Proofs.Deployment.Sequence

/-!
# Cancellation of a run

The cancel flag may be set at any moment: before a run, during any call on the target, while the
gate is thinking, or by someone who watches the progress. From then on no stage is opened, nothing
is looked up and no statement is sent. What is under way goes on to its next look at the flag, and a
search asks about the dependents of what it has found until then. So a search that is cancelled
during a lookup, and has more to look up, is over with that lookup. It was cancelled if the target
has answered all that it was asked, and else ends as the target let it; either way nothing that it
found is kept. What the target was asked is the record of the run and no other.
-/

namespace SchemaForward

namespace Deployment

variable {σ : Type} {target : Target σ} {dialect : Dialect} {statements : List Statement}
  {gate : Gate} {session : Session σ}

/-- A run whose search does not run to its end is over with it. What the report says besides is the
summary of that search. No conflicts are in it, since they are only taken over from a search that
ran to its end. -/
theorem run_of_unfinished
    (unfinished : (findStage target dialect statements session).1.isFinished = false) :
    run target dialect statements gate session =
      ({ find := (findStage target dialect statements session).2.1
         outcome := stopped .find (findStage target dialect statements session).1 },
        (findStage target dialect statements session).2.2) := by
  rw [run, ← findStage]
  rcases searched : findStage target dialect statements session with ⟨ending, status, next⟩
  rw [searched] at unfinished
  cases ending with
  | finished clearance => cases unfinished
  | cancelled => rfl
  | failed error => rfl
  | crashed => rfl

/-- Nothing happens in a run that was cancelled before. -/
theorem run_of_cancelled (cancelled : session.cancelled = true) :
    run target dialect statements gate session =
      ({ outcome := .cancelled .find }, session) := by
  have skipped : findStage target dialect statements session = (.cancelled, {}, session) := by
    rw [findStage, runStage, if_pos cancelled]
  rw [run_of_unfinished (by rw [skipped]; rfl), skipped]
  rfl

/-- How a run ends whose search was begun and did not look up everything, by the calls of the run
with their replies and by the number of its lookups. It is cancelled with as many lookups done if
every call was answered. If one has failed, so has the run, with what the target said of the object
that was asked about and with one lookup fewer done; if one did not come back, nor did the search.
In no case is anything kept that was found, is the gate asked or is another stage started. -/
structure StopsInSearch (calls : List (Event × Reply Unit)) (lookups : Nat)
    (report : DeploymentReport) : Prop where
  answered : Scan.Answered calls →
    report.outcome = .cancelled .find ∧ report.find.progress = lookups
  failed : ∀ event cause, (event, .failure cause) ∈ calls →
    ∃ object, event.asked? = some object ∧
      report.outcome = .failed .find (Scan.failure object cause) ∧
      report.find.progress + 1 = lookups
  vanished : ∀ event, (event, .crash) ∈ calls →
    report.outcome = .failed .find (.invalidState (.stageVanished .find)) ∧
      report.find.progress = 0
  discarded : report.conflicts = [] ∧ report.drops = [] ∧ report.decision = none
  started : report.startedStages = [.find]

/-- The report of a run whose search did not run to its end tells how the search ended and how far
it came, if it came back. There is nothing else in it. -/
theorem report_of_unfinished (gate : Gate) (unset : session.cancelled = false)
    {ending : Ending Unit} {scanned : Clearance} {next : Session σ}
    (searched : (Clearance.ofScript dialect statements).find target session =
      (ending, scanned, next))
    (unfinished : ending.isFinished = false) :
    let result := run target dialect statements gate session
    result.2 = next ∧ result.1.outcome = stopped .find ending ∧
      result.1.find.progress = (if ending = .crashed then 0 else scanned.progress) ∧
      (result.1.conflicts = [] ∧ result.1.drops = [] ∧ result.1.decision = none) ∧
      result.1.startedStages = [.find] := by
  have staged : findStage target dialect statements session = runStage .find
      (findWork target (.ofScript dialect statements)) session := rfl
  rw [runStage, if_neg (by simp [unset]), findWork, searched] at staged
  cases ending with
  | finished => cases unfinished
  | cancelled | failed _ | crashed =>
    rw [run_of_unfinished (by rw [staged]; rfl), staged]
    exact ⟨rfl, rfl, rfl, ⟨rfl, rfl, rfl⟩, rfl⟩

/-- A search that has not looked up everything stops the run, which ends where the search did. The
calls of the search are all the calls of the run, so their replies decide how it ends. -/
theorem stopsInSearch (gate : Gate) {looked : List DatabaseObject} {events : List Event}
    (unset : session.cancelled = false)
    (lookups : (findStage target dialect statements session).2.2.seen Event.lookedUp? =
      session.seen Event.lookedUp? ++ looked)
    (more : looked.length < (statements.flatMap Statement.createdObjects).length)
    (happened : (run target dialect statements gate session).2.events =
      session.events ++ events) :
    StopsInSearch (target.replies session.target events) looked.length
        (run target dialect statements gate session).1 ∧
      (run target dialect statements gate session).2 =
        (findStage target dialect statements session).2.2 := by
  obtain ⟨made, looksUp⟩ := Clearance.find_looksUp target dialect statements session
  have fresh : (Clearance.ofScript dialect statements).started = false := rfl
  obtain ⟨record, follows, ends⟩ := Clearance.replied_find target fresh session
  have isSearch : (findStage target dialect statements session).2.2 =
      ((Clearance.ofScript dialect statements).find target session).2.2 := by
    rw [findStage, session_runStage, session_findWork, if_neg (by simp [unset])]
  rw [isSearch, looksUp.seen] at lookups
  obtain rfl : made = looked := List.append_cancel_left lookups
  rcases searched : (Clearance.ofScript dialect statements).find target session with
    ⟨ending, scanned, next⟩
  rw [searched] at looksUp follows ends
  have unfinished : ending.isFinished = false := by
    cases ending with
    | finished =>
      have all : made = statements.flatMap Statement.createdObjects := looksUp.all rfl
      exact absurd more (by simp [all])
    | _ => rfl
  obtain ⟨last, outcome, progress, discarded, started⟩ :=
    report_of_unfinished gate unset searched unfinished
  rw [last] at happened
  obtain rfl : events = record := List.append_cancel_left (happened.symm.trans follows.appended)
  refine ⟨⟨fun answered => ?_, fun event cause member => ?_, fun event member => ?_, discarded,
    started⟩, by rw [last, isSearch, searched]⟩
  · rcases ends.of_answered answered with ⟨value, rfl⟩ | rfl
    · cases unfinished
    · exact ⟨outcome, progress.trans ((looksUp.counted rfl).trans (Nat.zero_add _))⟩
  · obtain ⟨object, asked, rfl⟩ := ends.of_failure member
    refine ⟨object, asked, outcome, ?_⟩
    rw [progress]
    exact (looksUp.countedBut _ rfl).trans (Nat.zero_add _)
  · obtain rfl := ends.of_crash member
    exact ⟨outcome, progress⟩

/-- What happens in a run goes together with the cancel flag. -/
theorem exists_heeds_run (target : Target σ) (dialect : Dialect) (statements : List Statement)
    (gate : Gate) (session : Session σ) :
    ∃ events, session.Heeds events (run target dialect statements gate session).2 :=
  (run_course target dialect statements gate session).records.steps.exists_heeds

/-- The cancel flag is heeded in every run. It is set in the end exactly if it was before or if that
is among the events of the run. Set before, nothing happens. Set at any moment of the run, it is
followed by no event that opens a stage, looks something up or sends a statement; and the stages
that are opened are those that the report calls started. If it is set during a lookup and there is
more to look up, that lookup is the last one, nothing is sent and the run stops in its search: it is
cancelled if its calls, made as the record has them, were all answered, and otherwise ends by the
reply to the last of them. -/
theorem run_heeds_cancellation (target : Target σ) (dialect : Dialect)
    (statements : List Statement) (gate : Gate) (session : Session σ) :
    let result := run target dialect statements gate session
    (session.cancelled = true → result = ({ outcome := .cancelled .find }, session)) ∧
      ∃ events, result.2.events = session.events ++ events ∧
        (result.2.cancelled = true ↔ session.cancelled = true ∨ .cancelled ∈ events) ∧
        (∀ before after, events = before ++ .cancelled :: after →
          ∀ event ∈ after, event.begins = false) ∧
        events.filterMap Event.opened? = result.1.startedStages ∧
        ∀ before subject after, events = before ++ .find subject :: .cancelled :: after →
          (before.filterMap Event.lookedUp?).length + 1 <
              (statements.flatMap Statement.createdObjects).length →
            StopsInSearch (target.replies session.target events)
                ((before.filterMap Event.lookedUp?).length + 1) result.1 ∧
              events.filterMap Event.lookedUp? = before.filterMap Event.lookedUp? ++ [subject] ∧
              events.filterMap Event.sent? = [] := by
  intro result
  obtain ⟨events, heeds⟩ := exists_heeds_run target dialect statements gate session
  have records := (run_course target dialect statements gate session).records
  have halts : ∀ before after, events = before ++ .cancelled :: after →
      ∀ event ∈ after, event.begins = false := by
    rintro before after rfl event isLater
    have halting := (List.pairwise_append.mp heeds.halting).2.1
    exact (List.pairwise_cons.mp halting).1 event isLater rfl
  refine ⟨run_of_cancelled, events, heeds.appended, heeds.flagged, halts, ?_, ?_⟩
  · have opened := records.opened
    rw [Session.seen_of_append heeds.appended] at opened
    exact List.append_cancel_left opened
  · intro before subject after split more
    have unset : session.cancelled = false := by
      by_contra set
      have idle := heeds.idle (by simpa using set) (.find subject) (by simp [split])
      cases idle
    have silent : ∀ event ∈ after, event.begins = false :=
      halts (before ++ [.find subject]) after (by simp [split])
    have looked : events.filterMap Event.lookedUp? =
        before.filterMap Event.lookedUp? ++ [subject] := by
      have none : after.filterMap Event.lookedUp? = [] :=
        List.filterMap_eq_nil_iff.mpr fun event member =>
          Event.lookedUp?_eq_none_of_begins (silent event member)
      rw [split, List.filterMap_append]
      exact congrArg (List.filterMap Event.lookedUp? before ++ subject :: ·) none
    have lookups := records.looked
    rw [Session.seen_of_append heeds.appended, looked] at lookups
    obtain ⟨stops, sameEnd⟩ := stopsInSearch gate unset lookups.symm (by simpa using more)
      heeds.appended
    rw [List.length_append] at stops
    refine ⟨stops, looked, ?_⟩
    have quiet : result.2.sent = session.sent := by
      rw [show result.2 = _ from sameEnd]
      exact sent_findStage target _ session
    have sent := Session.seen_of_append heeds.appended Event.sent?
    exact List.append_cancel_left (sent.symm.trans (quiet.trans (List.append_nil _).symm))

/-- A target that holds nothing and counts lookups. While it makes the first one, someone asks for
cancellation. -/
def interrupted : Target Nat where
  size _ := 0
  find _ lookups := ⟨.answer none, lookups == 0, lookups + 1⟩
  dependents _ lookups := ⟨.answer [], false, lookups⟩
  execute _ lookups := ⟨.answer (), false, lookups⟩

/-- Of two tables that a script creates the first alone is looked up. As that is answered, the run
is cancelled with one lookup done. -/
theorem run_heeds_interruption :
    let script := FixedCatalogue.creationOf "first" ++ FixedCatalogue.creationOf "second"
    let result := run interrupted Dialect.Known.generic script (fun _ _ => ⟨.drop, false⟩)
      (Session.start 0)
    result.2.events =
        [.progress ⟨.find, 2, 0⟩, .find (FixedCatalogue.tableOf "first"), .cancelled,
          .progress ⟨.find, 2, 1⟩] ∧
      result.1.outcome = .cancelled .find ∧ result.1.find.progress = 1 ∧
      result.1.startedStages = [.find] := by
  intro script result
  have happened : result.2.events =
      [.progress ⟨.find, 2, 0⟩] ++ .find (FixedCatalogue.tableOf "first") :: .cancelled ::
        [.progress ⟨.find, 2, 1⟩] := by
    decide +kernel
  obtain ⟨-, events, appended, -, -, -, stops⟩ := run_heeds_cancellation interrupted
    Dialect.Known.generic script (fun _ _ => ⟨.drop, false⟩) (Session.start 0)
  have split : events = _ := (appended.symm.trans happened :)
  obtain ⟨ends, -, -⟩ := stops _ _ _ split (by decide +kernel)
  have answered : Scan.Answered (interrupted.replies 0 events) := by
    rw [split]
    intro call member
    cases List.mem_singleton.mp member
    rfl
  obtain ⟨cancelled, progress⟩ := ends.answered answered
  exact ⟨happened, cancelled, progress, ends.started⟩

end Deployment

end SchemaForward
