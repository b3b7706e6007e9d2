import SchemaForward.Target.Basic

/-!
# What steps of a session change

Each step of a session adds events and may set the cancel flag. Only a call changes the state of the
target. What has happened is read off the events in some view of them, to which each step adds what
is seen of its own event; setting the flag is not seen by those who do not look for it. One view is
that of the statements that were sent, each with whether the target accepted it.
-/

namespace SchemaForward

namespace Event

/-- The statement that an event sends, and whether the target accepted it. -/
def sent? : Event → Option (String × Bool)
  | .execute statement accepted => some (statement, accepted)
  | _ => none

end Event

namespace Session

variable {σ α : Type} (session : Session σ)

/-- Putting an event on record does not touch the target. -/
@[simp]
theorem target_record (event : Event) : (session.record event).target = session.target :=
  rfl

/-- Setting the cancel flag does not touch the target, which is never told of it. -/
@[simp]
theorem target_cancel : session.cancel.target = session.target := by
  unfold cancel
  split <;> rfl

/-- Nor does setting it on a condition. -/
@[simp]
theorem target_cancelIf (asked : Bool) : (session.cancelIf asked).target = session.target := by
  cases asked <;> simp [cancelIf]

/-- A report of progress does not touch the target, even if its reader asks for cancellation. -/
@[simp]
theorem target_publish (stage : Stage) (jobSize done : Nat) :
    (session.publish stage jobSize done).target = session.target := by
  simp [publish]

/-- A call leaves the target in the state that it has led to. -/
@[simp]
theorem target_after (event : Event) (call : Call σ α) :
    (session.after event call).target = call.next := by
  simp [after]

/-- What is seen of the events of a session in a view of them. -/
def seen (view : Event → Option α) (session : Session σ) : List α :=
  session.events.filterMap view

/-- An event on record is seen in a view behind all that was seen before, if it is seen there at
all. -/
theorem seen_record (view : Event → Option α) (session : Session σ) (event : Event) :
    (session.record event).seen view = session.seen view ++ (view event).toList := by
  cases viewed : view event <;> simp [seen, record, viewed]

/-- Setting the flag is seen only by those who look for it. For all others the record is as it was,
even if the flag is set at this moment. -/
theorem seen_cancelIf {view : Event → Option α} (blind : view .cancelled = none)
    (session : Session σ) (asked : Bool) : (session.cancelIf asked).seen view =
      session.seen view := by
  cases asked with
  | false => rfl
  | true =>
    rw [cancelIf, if_pos rfl, cancel]
    split
    · rfl
    · simp [seen, blind]

/-- A report of progress is seen as the event that it is. -/
theorem seen_publish {view : Event → Option α} (blind : view .cancelled = none)
    (session : Session σ) (stage : Stage) (jobSize done : Nat) :
    (session.publish stage jobSize done).seen view =
      session.seen view ++ (view (.progress ⟨stage, jobSize, done⟩)).toList := by
  rw [publish, seen_cancelIf blind, seen_record]

/-- A call is seen as the event that it leaves. -/
theorem seen_after {β : Type} {view : Event → Option α} (blind : view .cancelled = none)
    (session : Session σ) (event : Event) (call : Call σ β) :
    (session.after event call).seen view = session.seen view ++ (view event).toList := by
  rw [after, seen_cancelIf blind, seen_record]
  rfl

/-- Of a longer record the view is longer by what it shows of the events that were added. -/
theorem seen_of_append {before after : Session σ} {events : List Event}
    (appended : after.events = before.events ++ events) (view : Event → Option α) :
    after.seen view = before.seen view ++ events.filterMap view := by
  rw [seen, appended, List.filterMap_append]
  rfl

/-- The statements sent to the target so far, each with whether it was accepted. -/
def sent : List (String × Bool) :=
  session.events.filterMap Event.sent?

/-- An event on record sends something exactly if it is a statement. -/
@[simp]
theorem sent_record (event : Event) :
    (session.record event).sent = session.sent ++ event.sent?.toList :=
  seen_record Event.sent? session event

/-- Setting the cancel flag sends nothing. -/
@[simp]
theorem sent_cancelIf (asked : Bool) : (session.cancelIf asked).sent = session.sent :=
  seen_cancelIf rfl session asked

/-- A report of progress sends nothing. -/
@[simp]
theorem sent_publish (stage : Stage) (jobSize done : Nat) :
    (session.publish stage jobSize done).sent = session.sent :=
  (seen_publish rfl session stage jobSize done).trans (List.append_nil _)

/-- A call sends what its event says, which is nothing for a question. -/
@[simp]
theorem sent_after (event : Event) (call : Call σ α) :
    (session.after event call).sent = session.sent ++ event.sent?.toList := by
  rw [after, sent_cancelIf, sent_record]
  rfl

end Session

namespace Target

variable {σ : Type} (target : Target σ) (session : Session σ)

/-- A lookup leaves the target where it has led, whatever else it has put on record. -/
@[simp]
theorem target_findIn (subject : DatabaseObject) :
    (target.findIn subject session).2.target = (target.find subject session.target).next := by
  simp [findIn]

/-- A question about dependents leaves the target where it has led. -/
@[simp]
theorem target_dependentsIn (object : DatabaseObject) :
    (target.dependentsIn object session).2.target =
      (target.dependents object session.target).next := by
  simp [dependentsIn]

/-- Running a statement sends it. -/
@[simp]
theorem sent_executeIn (statement : String) :
    (target.executeIn statement session).2.sent =
      session.sent ++ [(statement, isAnswer (target.executeIn statement session).1)] := by
  simp [executeIn, Event.sent?]

end Target

end SchemaForward
