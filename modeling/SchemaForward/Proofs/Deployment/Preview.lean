import SchemaForward.Proofs.Conflict.Steady
import SchemaForward.Proofs.Deployment.Cancellation

/-!
# Previews

A search that is not followed by anything is a preview of a run: its plan lists what the run would
drop. If the target is steady and nobody cancels, the run finds what the preview has found, so its
gate is shown the list of the preview. If the gate agrees, and the target accepts what it is sent,
then just that list is dropped, and after it the script is executed.

For the last part something has to be known about runs that stop. One that was told to drop stops
only if the cancel flag is set or if a statement was refused.
-/

namespace SchemaForward

/-- What is sent is sent after what was sent before. -/
theorem Session.Steps.exists_sent {σ : Type} {before after : Session σ} {allowed : Event → Prop}
    (steps : Steps allowed before after) : ∃ sent, after.sent = before.sent ++ sent := by
  obtain ⟨events, heeds⟩ := steps.exists_heeds
  exact ⟨_, Session.seen_of_append heeds.appended Event.sent?⟩

open Session (Halted)

namespace Deployment

variable {σ α : Type} {target : Target σ}

/-- A stage stops if its work does, or if the cancel flag was set before. In the latter case the
work was not begun. A stage that is run does not stop for any other reason. -/
theorem runStage_halts {stage : Stage} {work : Session σ → StageReport α × Session σ}
    {session : Session σ}
    (halts : (work session).1.ending.isFinished = false → Halted session (work session).2)
    (unfinished : (runStage stage work session).1.isFinished = false) :
    Halted session (runStage stage work session).2.2 := by
  rw [runStage] at unfinished ⊢
  by_cases set : session.cancelled = true
  · rw [if_pos set]
    exact Or.inl set
  rw [if_neg set] at unfinished ⊢
  rcases worked : work session with ⟨⟨ending, jobSize, progress⟩, next⟩
  rw [worked] at halts unfinished
  cases ending with
  | finished value => cases unfinished
  | cancelled => exact halts rfl
  | failed error => exact halts rfl
  | crashed => exact halts rfl

/-- If the plan of drops is not finished, the session is halted: the flag is set, or a statement was
refused or never answered. There is no other way for the stage not to come to its end once it is
planned. -/
theorem resolveStage_halts {clearance : Clearance} {drops : List DropStep} {session : Session σ}
    (ready : clearance.finished = true) (planned : clearance.plan = .ok drops)
    (unfinished : (resolveStage target session clearance drops).1.isFinished = false) :
    Halted session (resolveStage target session clearance drops).2.2 := by
  refine runStage_halts (fun incomplete => ?_) unfinished
  rw [resolveWork, Clearance.drop, if_pos ready, planned] at incomplete ⊢
  obtain ⟨last, sending, -⟩ := Clearance.sending_runDrops target drops.length drops 0
    clearance.dropped (session.publish .resolve drops.length 0)
  exact (sending.halts incomplete).of_sent
    ((Session.sent_publish _ _ _ _).trans (List.append_nil _).symm)

/-- If the script is not finished, the session is halted, for the same reasons as with the drops.
Unlike them, the script needs no plan. -/
theorem executeStage_halts {statements : List Statement} {session : Session σ}
    (unfinished : (executeStage target statements session).1.isFinished = false) :
    Halted session (executeStage target statements session).2.2 :=
  runStage_halts (fun incomplete =>
    ((sending_runStatements target _ _ _ _).2.halts incomplete).of_sent
      ((Session.sent_publish _ _ _ _).trans (List.append_nil _).symm)) unfinished

variable {dialect : Dialect} {statements : List Statement} {gate : Gate} {session : Session σ}

/-- A run that was told to drop goes on to its end, unless something stops it. What stops it is the
cancel flag, a statement that was refused or one that did not come back. A stage that does not run
to its end has met one of these. -/
theorem Course.halts {result : DeploymentReport × Session σ}
    (course : Course target dialect statements gate session result)
    (dropping : result.1.decision = some .drop) (incomplete : result.1.outcome ≠ .completed) :
    Halted session result.2 := by
  cases course with
  | unfound searched unfinished => cases dropping
  | unhindered found free =>
    rw [execute_eq target statements _ _ rfl] at dropping
    cases dropping
  | unplanned found conflicting unplannable => cases dropping
  | calledOff asks answered => cases dropping
  | kept asks answered =>
    rw [execute_eq target statements _ _ rfl] at dropping
    cases dropping
  | @unresolved clearance status next drops ending resolution last asks answered dropped stopped =>
    have ready := (of_findStage_finished asks.found).2.1
    obtain ⟨earlier, sentBefore⟩ :=
      (asks.records (gate clearance.conflicts drops)).steps.exists_sent
    have halted := resolveStage_halts ready asks.planned
      (show (resolveStage target _ clearance drops).1.isFinished = false by
        rw [dropped]
        exact stopped)
    rw [dropped] at halted
    exact halted.of_sent sentBefore
  | @resolved clearance status next drops resolution last asks answered dropped =>
    have ready := (of_findStage_finished asks.found).2.1
    have leaves := resolveStage_leaves target
      (afterAnswer next (gate clearance.conflicts drops)) ready asks.planned
    rw [dropped] at leaves
    obtain ⟨earlier, sentBefore⟩ :=
      ((asks.records (gate clearance.conflicts drops)).steps.trans leaves.steps).exists_sent
    rw [execute_eq target statements _ _ rfl] at incomplete ⊢
    refine Halted.of_sent (executeStage_halts ?_) sentBefore
    cases finished : (executeStage target statements last).1.isFinished with
    | true => exact absurd (if_pos finished) incomplete
    | false => rfl

/-- The search of a run that nobody cancels is not cancelled. The flag is only set by someone who
asks for it, and that is on record. A search is cancelled only if it sees the flag set. -/
theorem search_uncancelled (uncancelled : (run target dialect statements gate session).2.cancelled =
    false) : session.cancelled = false ∧
      ((Clearance.ofScript dialect statements).find target session).1 ≠ .cancelled := by
  have unset : session.cancelled = false := by
    cases set : session.cancelled with
    | false => rfl
    | true =>
      rw [run_of_cancelled set] at uncancelled
      exact absurd (uncancelled.symm.trans set) (by simp)
  refine ⟨unset, fun cancelled => ?_⟩
  have flagged := Clearance.cancelled_find target _ session cancelled
  have uncompleted : ¬ (findStage target dialect statements session).2.1.completed = true := by
    rw [completed_findStage_iff, cancelled]
    simp
  have unfinished : (findStage target dialect statements session).1.isFinished = false := by
    rw [findStage, ← completed_runStage, ← findStage]
    simpa using uncompleted
  rw [run_of_unfinished unfinished, findStage, session_runStage, session_findWork,
    if_neg (by simp [unset])] at uncancelled
  exact absurd (uncancelled.symm.trans flagged) (by simp)

/-- The search of a run of a steady target that nobody cancels comes to the same as a preview. The
flag was not set before either, since a run in which it is set at all ends with it set. -/
theorem search_alike {holds : σ → Prop} (steady : target.Steady holds) {first second : Session σ}
    (firstHolds : holds first.target) (secondHolds : holds second.target)
    (previewed : ((Clearance.ofScript dialect statements).find target first).1 = .finished ())
    (uncancelled : (run target dialect statements gate second).2.cancelled = false) :
    second.cancelled = false ∧
      ((Clearance.ofScript dialect statements).find target second).1 = .finished () ∧
      ((Clearance.ofScript dialect statements).find target second).2.1 =
        ((Clearance.ofScript dialect statements).find target first).2.1 := by
  obtain ⟨unset, goesOn⟩ := search_uncancelled uncancelled
  obtain ⟨sameEnding, sameClearance⟩ := Clearance.find_alike steady
    (.ofScript dialect statements) firstHolds secondHolds (by simp [previewed]) goesOn
  exact ⟨unset, sameEnding.symm.trans previewed, sameClearance.symm⟩

/-- A search of a steady target that runs to its end and lists drops is a preview of every run of
the same script that nobody cancels. It sends nothing. The run finds the same conflicts. If there
are any, the gate is asked once, about them and just these drops, and what it says of anything else
makes no difference. If it is to drop, and the target accepts all that it is sent, then what is sent
are just these drops in their order, and after them the script. -/
theorem run_drops_preview (target : Target σ) {holds : σ → Prop} (steady : target.Steady holds)
    (dialect : Dialect) (statements : List Statement) (gate : Gate) (first second : Session σ)
    (firstHolds : holds first.target) (secondHolds : holds second.target)
    (drops : List DropStep) :
    let preview := (Clearance.ofScript dialect statements).find target first
    let conflicts := preview.2.1.conflicts
    let result := run target dialect statements gate second
    preview.1 = .finished () → preview.2.1.plan = .ok drops →
      preview.2.2.sent = first.sent ∧
        (result.2.cancelled = false →
          result.1.find.completed = true ∧ result.1.conflicts = conflicts ∧
            (conflicts ≠ [] →
              result.1.drops = drops ∧
                result.2.seen Event.decided? =
                  second.seen Event.decided? ++ [(gate conflicts drops).decision] ∧
                (∀ other : Gate, other conflicts drops = gate conflicts drops →
                  run target dialect statements other second = result) ∧
                ((gate conflicts drops).decision = .drop →
                  ∀ sent, result.2.sent = second.sent ++ sent →
                    (∀ statement ∈ sent, statement.2 = true) →
                      sent = (drops.map DropStep.statement ++ script statements).map
                        fun statement => (statement, true)))) := by
  intro preview conflicts result previewed planned
  refine ⟨Clearance.sent_find target _ first, fun uncancelled => ?_⟩
  obtain ⟨unset, finished, sameClearance⟩ :=
    search_alike steady firstHolds secondHolds previewed uncancelled
  have course := run_course target dialect statements gate second
  obtain ⟨sameFind, sameConflicts⟩ := course.find_and_conflicts
  have completed : result.1.find.completed = true := by
    rw [show result.1.find = _ from sameFind]
    exact completed_findStage_iff.mpr ⟨unset, finished⟩
  have found : result.1.conflicts = conflicts :=
    (sameConflicts completed).trans (congrArg Clearance.conflicts sameClearance)
  refine ⟨completed, found, fun conflicting => ?_⟩
  -- What the preview lists is the plan for the conflicts that the run reports, so that is what the
  -- gate is asked about.
  have listed : DropPlan.ofTrees dialect result.1.conflicts = .ok drops := by
    rw [found, ← planned, Clearance.plan,
      (Clearance.of_find_finished target (.ofScript dialect statements) first previewed).2]
    rfl
  have consults := course.consultsGate
  obtain ⟨decision, decided⟩ := Option.isSome_iff_exists.mp
    (consults.asked.mpr ⟨completed, found ▸ conflicting, drops, listed⟩)
  obtain ⟨handed, isAnswer⟩ := consults.decided decision decided
  have sameDrops : result.1.drops = drops := Except.ok.inj (handed.symm.trans listed)
  rw [show (run target dialect statements gate second).1.conflicts = _ from found,
    show (run target dialect statements gate second).1.drops = _ from sameDrops] at isAnswer
  refine ⟨sameDrops, ?_, fun other alike => consults.alike other fun _ => ?_, ?_⟩
  · rw [← isAnswer]
    exact course.records.decided.trans (by rw [decided]; rfl)
  · rw [show (run target dialect statements gate second).1.conflicts = _ from found,
      show (run target dialect statements gate second).1.drops = _ from sameDrops]
    exact alike
  · intro dropping sent sentAfter accepted
    have isDrop : result.1.decision = some .drop := by
      rw [← dropping, ← isAnswer]
      exact decided
    -- Neither the flag nor a refusal has stopped the run, so it has delivered everything.
    have complete : result.1.isCompleted = true := by
      rw [DeploymentReport.isCompleted_iff]
      by_contra incomplete
      exact Session.not_halted uncancelled sentAfter accepted (course.halts isDrop incomplete)
    obtain ⟨delivered, sentDelivered, sends⟩ :=
      (run_follows target dialect statements gate second).delivers
    obtain rfl : delivered = sent :=
      List.append_cancel_left (sentDelivered.symm.trans sentAfter)
    rw [sends.eq_of_complete complete, DeploymentReport.approved, if_pos isDrop]
    rw [show (run target dialect statements gate second).1.drops = drops from sameDrops]

/-- The three tables of a ring are previewed at one time and dropped at another. The answers of the
catalogue do not change in between, and the plan of the second run is that of the first. -/
theorem run_drops_previewed_ring :
    let script := FixedCatalogue.creationOf "base"
    let preview := (Clearance.ofScript Dialect.Known.generic script).find FixedCatalogue.calls
      (Session.start FixedCatalogue.ring)
    let result := run FixedCatalogue.calls Dialect.Known.generic script (fun _ _ => ⟨.drop, false⟩)
      (Session.start { FixedCatalogue.ring with lookups := 5 })
    preview.2.2.sent = [] ∧ result.1.conflicts = preview.2.1.conflicts ∧
      result.2.sent = [("DROP TABLE leaf", true), ("DROP TABLE other", true),
        ("DROP TABLE base", true), ("CREATE TABLE base", true)] := by
  intro script preview result
  have planned : preview.2.1.plan = .ok
      [⟨FixedCatalogue.tableOf "leaf", "DROP TABLE leaf"⟩,
        ⟨FixedCatalogue.tableOf "other", "DROP TABLE other"⟩,
        ⟨FixedCatalogue.tableOf "base", "DROP TABLE base"⟩] := by
    decide +kernel
  obtain ⟨quiet, goesOn⟩ := run_drops_preview FixedCatalogue.calls FixedCatalogue.ring.steady
    Dialect.Known.generic script (fun _ _ => ⟨.drop, false⟩) (Session.start FixedCatalogue.ring)
    (Session.start { FixedCatalogue.ring with lookups := 5 }) ⟨rfl, rfl, rfl⟩ ⟨rfl, rfl, rfl⟩ _
    (by decide +kernel) planned
  obtain ⟨-, sameConflicts, drops⟩ := goesOn (by decide +kernel)
  obtain ⟨-, -, -, sends⟩ := drops (by decide +kernel)
  exact ⟨quiet, sameConflicts, sends rfl _ rfl (by decide +kernel)⟩

end Deployment

end SchemaForward
