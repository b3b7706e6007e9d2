import SchemaForward.Failure

/-!
# Targets

A target is a database that a script is applied to, seen from outside: it is asked for objects and
for their dependents, and it is given statements. Nothing is assumed about its answers. A call may
fail, it may change what later calls answer, it may never come back, and while it runs someone may
ask for the work to be cancelled.

A session is what has happened with a target so far. Besides the state of the target it holds the
cancel flag, which is never cleared, and every event in order. Its progress is watched; whoever
watches may ask for cancellation too. Between two looks at the flag there is always a call, a
decision or a report of progress, so cancellation can come at any moment.
-/

namespace SchemaForward

/-- What a call on a target brings back: an answer, an error, or nothing at all. -/
inductive Reply (α : Type) where
  | answer (value : α)
  | failure (error : Failure)
  | crash
  deriving Repr

/-- The effect of a call on a target: its reply, whether cancellation was asked for while it ran,
and the state it leaves. -/
structure Call (σ α : Type) where
  reply : Reply α
  cancels : Bool
  next : σ

/-- A database behind three calls, with states of the given type. Its size is not a call. It is the
number of objects that there are, which a chain of dependents with different keys cannot exceed, and
with which a search of any target comes to an end. -/
structure Target (σ : Type) where
  size : σ → Nat
  find : DatabaseObject → σ → Call σ (Option DatabaseObject)
  dependents : DatabaseObject → σ → Call σ (List DatabaseObject)
  execute : String → σ → Call σ Unit

/-- What a user decides about conflicts. -/
inductive Decision where
  | drop
  | keep
  | cancel
  deriving DecidableEq, Repr, Inhabited

namespace Decision

/-- The name of a decision. -/
def name : Decision → String
  | .drop => "Drop"
  | .keep => "Keep"
  | .cancel => "Cancel"

end Decision

/-- A statement that drops an object. -/
structure DropStep where
  object : DatabaseObject
  statement : String
  deriving DecidableEq, Repr, Inhabited

/-- Something that happened in a session. Calls on the target are recorded when they end, whatever
their reply; that a statement was accepted is part of the record. -/
inductive Event where
  | progress (progress : Progress)
  | find (subject : DatabaseObject)
  | dependents (object : DatabaseObject)
  | execute (statement : String) (accepted : Bool)
  | decision (decision : Decision)
  | cancelled
  deriving DecidableEq, Repr, Inhabited

/-- What has happened with a target so far, and when the watcher of its progress asks for
cancellation. -/
structure Session (σ : Type) where
  target : σ
  cancelled : Bool
  events : List Event
  asksToCancel : List Event → Bool

namespace Session

/-- A session in which nothing has happened, and which is left to go on. -/
def start {σ : Type} (target : σ) : Session σ :=
  ⟨target, false, [], fun _ => false⟩

/-- The session with one event more. -/
def record {σ : Type} (session : Session σ) (event : Event) : Session σ :=
  { session with events := session.events ++ [event] }

/-- The session with the cancel flag set. -/
def cancel {σ : Type} (session : Session σ) : Session σ :=
  if session.cancelled then session
  else { session with cancelled := true, events := session.events ++ [.cancelled] }

/-- The session with the cancel flag set if it is asked for. -/
def cancelIf {σ : Type} (session : Session σ) (asked : Bool) : Session σ :=
  if asked then session.cancel else session

/-- The session with progress published. -/
def publish {σ : Type} (session : Session σ) (stage : Stage) (jobSize done : Nat) : Session σ :=
  let told := session.record (.progress ⟨stage, jobSize, done⟩)
  told.cancelIf (told.asksToCancel told.events)

/-- The progress published last. -/
def published {σ : Type} (session : Session σ) : Progress :=
  (session.events.reverse.findSome? fun event =>
    match event with
    | .progress progress => some progress
    | _ => none).getD .initial

/-- The session after a call on the target. -/
def after {σ α : Type} (session : Session σ) (event : Event) (call : Call σ α) : Session σ :=
  ({ session with target := call.next }.record event).cancelIf call.cancels

end Session

namespace Target

/-- Looks for an object that stands where a subject would be created. -/
def findIn {σ : Type} (target : Target σ) (subject : DatabaseObject) (session : Session σ) :
    Reply (Option DatabaseObject) × Session σ :=
  let call := target.find subject session.target
  (call.reply, session.after (.find subject) call)

/-- Asks for the objects that must be dropped before an object. -/
def dependentsIn {σ : Type} (target : Target σ) (object : DatabaseObject) (session : Session σ) :
    Reply (List DatabaseObject) × Session σ :=
  let call := target.dependents object session.target
  (call.reply, session.after (.dependents object) call)

/-- The reply is an answer. -/
def isAnswer {α : Type} : Reply α → Bool
  | .answer _ => true
  | _ => false

/-- Runs a statement. -/
def executeIn {σ : Type} (target : Target σ) (statement : String) (session : Session σ) :
    Reply Unit × Session σ :=
  let call := target.execute statement session.target
  (call.reply, session.after (.execute statement (isAnswer call.reply)) call)

end Target

/-- How a piece of cancellable work ended. -/
inductive Ending (α : Type) where
  | finished (value : α)
  | cancelled
  | failed (error : Failure)
  | crashed
  deriving DecidableEq, Repr

namespace Ending

/-- Goes on with the value of work that ran to its end. Any other ending is the last. -/
def andThen {σ α β : Type} (result : Ending α × Session σ)
    (continuation : α → Session σ → Ending β × Session σ) : Ending β × Session σ :=
  match result.1 with
  | .finished value => continuation value result.2
  | .cancelled => (.cancelled, result.2)
  | .failed error => (.failed error, result.2)
  | .crashed => (.crashed, result.2)

end Ending

end SchemaForward
