import SchemaForward.Proofs.Target.Session

/-!
# Replies to the calls of a session

A session records its calls, but not what came back. It need not: a target is a function of its
state, so the calls on record, made once more in their order from the state in which the record
begins, bring back what they did and lead to the states that they did. The replies to the calls of a
run are read off its record in this way, and what is said about them is said about no other call.

What has happened between two moments of a session follows such a record if the events are those of
the record and the target is in the state that the record leads to. Records are put together as work
is: those of its parts, one after the other.
-/

namespace SchemaForward

/-- How a call has ended, whatever its answer says. -/
def Reply.bare {α : Type} : Reply α → Reply Unit
  | .answer _ => .answer ()
  | .failure error => .failure error
  | .crash => .crash

/-- A call that does not come back has no answer to be left out. -/
theorem Reply.bare_eq_crash_iff {α : Type} {reply : Reply α} :
    reply.bare = .crash ↔ reply = .crash := by
  cases reply <;> simp [bare]

namespace Target

variable {σ : Type} (target : Target σ)

/-- How the call of an event ends when it is made in a state, and the state that it leaves. Events
that are not calls on the target have no reply. -/
def replay? (state : σ) : Event → Option (Reply Unit × σ)
  | .find subject =>
    some ((target.find subject state).reply.bare, (target.find subject state).next)
  | .dependents object =>
    some ((target.dependents object state).reply.bare, (target.dependents object state).next)
  | .execute statement _ =>
    some ((target.execute statement state).reply, (target.execute statement state).next)
  | _ => none

/-- The calls among events in order, each with how it ends, when the first is made in the given
state and each other in the state that the one before it leaves. -/
def replies : σ → List Event → List (Event × Reply Unit)
  | _, [] => []
  | state, event :: rest =>
    match target.replay? state event with
    | some (reply, next) => (event, reply) :: replies next rest
    | none => replies state rest

/-- The state that the calls among events lead to. -/
def stateAfter : σ → List Event → σ
  | state, [] => state
  | state, event :: rest =>
    match target.replay? state event with
    | some (_, next) => stateAfter next rest
    | none => stateAfter state rest

/-- A longer record leads where its rest leads from the state that its first part has led to. Events
that are not calls leave the state as it is, wherever they stand in the record. -/
theorem stateAfter_append (state : σ) (events later : List Event) :
    target.stateAfter state (events ++ later) =
      target.stateAfter (target.stateAfter state events) later := by
  fun_induction stateAfter target state events with
  | case1 state => rfl
  | case2 state event rest reply next replayed inductionHypothesis =>
    rw [List.cons_append, stateAfter, replayed]
    exact inductionHypothesis
  | case3 state event rest replayed inductionHypothesis =>
    rw [List.cons_append, stateAfter, replayed]
    exact inductionHypothesis

/-- A longer record has the replies of its first part, and then those that the rest gets from the
state to which the first part leads. -/
theorem replies_append (state : σ) (events later : List Event) :
    target.replies state (events ++ later) =
      target.replies state events ++ target.replies (target.stateAfter state events) later := by
  fun_induction stateAfter target state events with
  | case1 state => rfl
  | case2 state event rest reply next replayed inductionHypothesis =>
    rw [List.cons_append, replies, replies, replayed]
    exact congrArg _ inductionHypothesis
  | case3 state event rest replayed inductionHypothesis =>
    rw [List.cons_append, replies, replies, replayed]
    exact inductionHypothesis

variable {target}

/-- Every reply on record is one that the target gives in some state. That state is the one to which
the calls before it have led; here it only matters that there is one. -/
theorem exists_replay?_of_mem_replies {state : σ} {events : List Event} {event : Event}
    {reply : Reply Unit} (member : (event, reply) ∈ target.replies state events) :
    ∃ state next, target.replay? state event = some (reply, next) := by
  fun_induction replies target state events with
  | case1 state => cases member
  | case2 state first rest given next replayed inductionHypothesis =>
    rcases List.mem_cons.mp member with same | later
    · cases same
      exact ⟨state, next, replayed⟩
    · exact inductionHypothesis later
  | case3 state first rest replayed inductionHypothesis => exact inductionHypothesis member

end Target

namespace Session

variable {σ α : Type} {target : Target σ}

/-- What lies between two moments of a session follows a record: these are its events, and its calls
have led the target from the state before to the one after. -/
structure Follows (target : Target σ) (before : Session σ) (events : List Event)
    (after : Session σ) : Prop where
  appended : after.events = before.events ++ events
  led : after.target = target.stateAfter before.target events

namespace Follows

variable {before between after : Session σ} {events later : List Event}

/-- Where nothing has happened, the empty record is followed. -/
theorem nil (session : Session σ) : Follows target session [] session :=
  ⟨(List.append_nil _).symm, rfl⟩

/-- One record after the other is a record. -/
theorem append (first : Follows target before events between)
    (second : Follows target between later after) :
    Follows target before (events ++ later) after where
  appended := by rw [second.appended, first.appended, List.append_assoc]
  led := by rw [second.led, first.led, Target.stateAfter_append]

/-- The replies of a record that goes on are those that were there and those that are added. -/
theorem replies_append (first : Follows target before events between) (later : List Event) :
    target.replies before.target (events ++ later) =
      target.replies before.target events ++ target.replies between.target later := by
  rw [Target.replies_append, first.led]

end Follows

/-- Setting the flag is no call. It adds an event at most, to which nothing replies. If the flag was
set before, or nobody asks for it, no event is added at all. -/
theorem follows_cancelIf (target : Target σ) (session : Session σ) (asked : Bool) :
    ∃ events, Follows target session events (session.cancelIf asked) ∧
      target.replies session.target events = [] := by
  by_cases sets : asked = true ∧ session.cancelled = false
  · obtain ⟨rfl, unset⟩ := sets
    exact ⟨[.cancelled], ⟨by simp [cancelIf, cancel, unset], target_cancelIf session true⟩, rfl⟩
  · have same : session.cancelIf asked = session := by
      cases asked <;> simp_all [cancelIf, cancel]
    rw [same]
    exact ⟨[], .nil session, rfl⟩

/-- A report of progress is no call either. -/
theorem follows_publish (target : Target σ) (session : Session σ) (stage : Stage)
    (jobSize done : Nat) :
    ∃ events, Follows target session events (session.publish stage jobSize done) ∧
      target.replies session.target events = [] := by
  have told : Follows target session [.progress ⟨stage, jobSize, done⟩]
      (session.record (.progress ⟨stage, jobSize, done⟩)) := ⟨rfl, rfl⟩
  obtain ⟨events, follows, silent⟩ := follows_cancelIf target
    (session.record (.progress ⟨stage, jobSize, done⟩)) _
  exact ⟨_, told.append follows, (told.replies_append events).trans silent⟩

/-- A call is on record with its reply, and with nothing else: whoever asks for cancellation while
it is made is not answered by the target. -/
theorem follows_after {event : Event} {call : Call σ α} {session : Session σ}
    (replayed : target.replay? session.target event = some (call.reply.bare, call.next)) :
    ∃ events, Follows target session events (session.after event call) ∧
      target.replies session.target events = [(event, call.reply.bare)] := by
  have made : Follows target session [event] ({ session with target := call.next }.record event) :=
    ⟨rfl, by simp [Target.stateAfter, replayed]⟩
  obtain ⟨events, follows, silent⟩ := follows_cancelIf target
    ({ session with target := call.next }.record event) call.cancels
  refine ⟨_, made.append follows, ?_⟩
  rw [made.replies_append, silent]
  simp [Target.replies, replayed]

end Session

end SchemaForward
