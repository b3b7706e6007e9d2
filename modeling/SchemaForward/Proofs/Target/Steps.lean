import Mathlib.Data.List.Basic
import Mathlib.Logic.Relation
import SchemaForward.Proofs.Target.Session

/-!
# Steps of a session

All work on a target is made of steps. A call, a decision or a report of progress is put on record,
a call may change the state of the target, and cancellation may be asked for meanwhile. A step that
opens a stage, looks something up or sends a statement is taken only while the cancel flag is not
set; questions about dependents, decisions and reports of progress within a stage do not look at it.

That is all that is asked of work, and it suffices: the flag is set exactly if cancellation is on
record, and nothing begins after it. Which events may occur is a parameter, because what work does
not record it leaves as it was.
-/

namespace SchemaForward

namespace Event

/-- The stage that a report of progress opens: nothing of it is done yet. -/
def opened? : Event → Option Stage
  | .progress report => if report.done = 0 then some report.stage else none
  | _ => none

/-- The subject that was looked up. -/
def lookedUp? : Event → Option DatabaseObject
  | .find subject => some subject
  | _ => none

/-- The decision that a gate has made. -/
def decided? : Event → Option Decision
  | .decision made => some made
  | _ => none

/-- The event opens a stage, looks something up or sends a statement. -/
def begins (event : Event) : Bool :=
  event.opened?.isSome || event.lookedUp?.isSome || event.sent?.isSome

/-- What begins nothing looks nothing up, since a lookup always begins something. -/
theorem lookedUp?_eq_none_of_begins {event : Event} (quiet : event.begins = false) :
    event.lookedUp? = none := by
  cases event with
  | find subject => cases quiet
  | _ => rfl

end Event

namespace Session

variable {σ α : Type}

/-- One step: something is put on record, and if it begins something the flag was not set. -/
inductive Step (allowed : Event → Prop) (before : Session σ) : Session σ → Prop where
  | record (state : σ) (event : Event) (asked : Bool) (isAllowed : allowed event)
      (isWork : event ≠ .cancelled) (heeds : event.begins = true → before.cancelled = false) :
      Step allowed before (({ before with target := state }.record event).cancelIf asked)

/-- Any number of steps. -/
def Steps (allowed : Event → Prop) : Session σ → Session σ → Prop :=
  Relation.ReflTransGen (Step allowed)

/-- The events that lie between two moments of a session, and what the cancel flag means for them:
it is set exactly if that is on record, and nothing begins once it is set. -/
structure Heeds (before : Session σ) (events : List Event) (after : Session σ) : Prop where
  appended : after.events = before.events ++ events
  flagged : after.cancelled = true ↔ before.cancelled = true ∨ .cancelled ∈ events
  idle : before.cancelled = true → ∀ event ∈ events, event.begins = false
  halting : events.Pairwise fun first second => first = .cancelled → second.begins = false

namespace Heeds

variable {before between after : Session σ} {events others : List Event}

/-- Where nothing has happened, there was nothing to be heeded and nothing that could have been
ignored. -/
theorem nil (session : Session σ) : Heeds session [] session where
  appended := (List.append_nil _).symm
  flagged := by simp
  idle _ := by simp
  halting := List.Pairwise.nil

/-- What was asked for in an earlier part is heeded in a later one. If the flag is set in the
earlier part, the later one begins with it set, and then nothing is begun in it. -/
theorem append (earlier : Heeds before events between) (later : Heeds between others after) :
    Heeds before (events ++ others) after where
  appended := by rw [later.appended, earlier.appended, List.append_assoc]
  flagged := by rw [later.flagged, earlier.flagged, List.mem_append, or_assoc]
  idle cancelled event member := by
    rcases List.mem_append.mp member with here | there
    · exact earlier.idle cancelled event here
    · exact later.idle (earlier.flagged.mpr (Or.inl cancelled)) event there
  halting := by
    refine List.pairwise_append.mpr ⟨earlier.halting, later.halting, ?_⟩
    rintro _ isEarlier event isLater rfl
    exact later.idle (earlier.flagged.mpr (Or.inr isEarlier)) event isLater

end Heeds

variable {allowed wider : Event → Prop} {before between after : Session σ}

/-- A step leaves its event, and behind it the cancellation that was asked for while it was
taken. -/
theorem Step.heeds (step : Step allowed before after) :
    ∃ events, Heeds before events after := by
  obtain ⟨state, event, asked, -, isWork, heeds⟩ := step
  have idle : before.cancelled = true → event.begins = false := by
    intro cancelled
    cases begins : event.begins with
    | false => rfl
    | true => rw [heeds begins] at cancelled; cases cancelled
  by_cases sets : asked = true ∧ before.cancelled = false
  · obtain ⟨rfl, unset⟩ := sets
    refine ⟨[event, .cancelled], ?_, ?_, ?_, ?_⟩
    · simp [cancelIf, cancel, Session.record, unset]
    · simp [cancelIf, cancel, Session.record, unset]
    · simp [unset]
    · simp [isWork]
  · have unasked : asked = false ∨ before.cancelled = true := by
      cases asked <;> simp_all
    have other : Event.cancelled ≠ event := isWork.symm
    refine ⟨[event], ?_, ?_, by simpa using idle, List.pairwise_singleton _ _⟩
    · rcases unasked with rfl | set <;> simp [cancelIf, cancel, Session.record, *]
    · rcases unasked with rfl | set <;> simp [cancelIf, cancel, Session.record, *]

namespace Steps

/-- No steps lead from a session to itself. -/
theorem refl (session : Session σ) : Steps allowed session session :=
  Relation.ReflTransGen.refl

/-- One step is a number of steps. -/
theorem single (step : Step allowed before after) : Steps allowed before after :=
  Relation.ReflTransGen.single step

/-- Steps after steps are steps. -/
theorem trans (first : Steps allowed before between) (second : Steps allowed between after) :
    Steps allowed before after :=
  Relation.ReflTransGen.trans first second

/-- Steps that may record some events may record more. -/
theorem mono (steps : Steps allowed before after) (widens : ∀ event, allowed event → wider event) :
    Steps wider before after := by
  refine Relation.ReflTransGen.mono ?_ before after steps
  rintro _ _ ⟨state, event, asked, isAllowed, isWork, heeds⟩
  exact Step.record state event asked (widens event isAllowed) isWork heeds

/-- A view in which no event of the steps is seen stays as it is. -/
theorem seen_eq (steps : Steps allowed before after) (view : Event → Option α)
    (blind : view .cancelled = none) (unseen : ∀ event, allowed event → view event = none) :
    after.seen view = before.seen view := by
  induction steps with
  | refl => rfl
  | tail _ step inductionHypothesis =>
    obtain ⟨state, event, asked, isAllowed, -, -⟩ := step
    rw [seen_cancelIf blind, seen_record, unseen event isAllowed]
    simpa [seen] using inductionHypothesis

/-- Work that is made of steps heeds the cancel flag. -/
theorem exists_heeds (steps : Steps allowed before after) :
    ∃ events, Heeds before events after := by
  induction steps with
  | refl => exact ⟨[], Heeds.nil before⟩
  | tail _ step inductionHypothesis =>
    obtain ⟨events, earlier⟩ := inductionHypothesis
    obtain ⟨others, later⟩ := step.heeds
    exact ⟨events ++ others, earlier.append later⟩

end Steps

/-- Progress within a stage is reported at any time, but the report that opens a stage is made only
while the flag is not set. -/
theorem step_publish (session : Session σ) (stage : Stage) (jobSize done : Nat)
    (isAllowed : allowed (.progress ⟨stage, jobSize, done⟩))
    (heeds : done = 0 → session.cancelled = false) :
    Step allowed session (session.publish stage jobSize done) := by
  refine Step.record session.target _ _ isAllowed (by simp) fun begins => heeds ?_
  by_contra within
  simp [Event.begins, Event.opened?, Event.lookedUp?, Event.sent?, within] at begins

end Session

namespace Target

variable {σ : Type} {allowed : Event → Prop} (target : Target σ) (session : Session σ)

/-- A lookup begins only while the flag is not set. -/
theorem step_findIn {subject : DatabaseObject} (isAllowed : allowed (.find subject))
    (unset : session.cancelled = false) :
    session.Step allowed (target.findIn subject session).2 :=
  Session.Step.record _ _ _ isAllowed (by simp) fun _ => unset

/-- A question about dependents may be asked at any time. -/
theorem step_dependentsIn {object : DatabaseObject} (isAllowed : allowed (.dependents object)) :
    session.Step allowed (target.dependentsIn object session).2 :=
  Session.Step.record _ _ _ isAllowed (by simp) (by simp [Event.begins, Event.opened?,
    Event.lookedUp?, Event.sent?])

/-- A statement is sent only while the flag is not set. -/
theorem step_executeIn {statement : String}
    (isAllowed : ∀ accepted, allowed (.execute statement accepted))
    (unset : session.cancelled = false) :
    session.Step allowed (target.executeIn statement session).2 :=
  Session.Step.record _ _ _ (isAllowed _) (by simp) fun _ => unset

end Target

namespace Ending

variable {σ α β : Type} {allowed : Event → Prop}

/-- Work that goes on with a value is made of the steps of both parts. If the first part does not
come to an end, its steps are all there are. -/
theorem steps_andThen {result : Ending α × Session σ}
    {continuation : α → Session σ → Ending β × Session σ} {before : Session σ}
    (first : before.Steps allowed result.2)
    (second : ∀ value, result.2.Steps allowed (continuation value result.2).2) :
    before.Steps allowed (andThen result continuation).2 := by
  rcases result with ⟨ending, between⟩
  cases ending with
  | finished value => exact first.trans (second value)
  | cancelled => exact first
  | failed error => exact first
  | crashed => exact first

end Ending

end SchemaForward
