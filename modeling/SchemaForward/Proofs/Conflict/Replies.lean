import SchemaForward.Conflict.Clearance
import SchemaForward.Proofs.Target.Replies

/-!
# How the replies end a search

A search goes on as long as its questions are answered. The first that is not answered is its last
call: the error of the search is then what the target said about the object in question, and nothing
comes back from a search that a question does not come back to. So the replies to its own questions
tell how a search has ended, but for whether it was cancelled, which it looks at by itself and never
between the questions about one subject.
-/

namespace SchemaForward

namespace Event

/-- The object that a question is about. -/
def asked? : Event → Option DatabaseObject
  | .find subject => some subject
  | .dependents object => some object
  | _ => none

end Event

namespace Scan

variable {σ α β : Type} {target : Target σ}

/-- Calls that the target has answered. -/
def Answered (calls : List (Event × Reply Unit)) : Prop :=
  ∀ call ∈ calls, call.2 = .answer ()

/-- The ending of work that asks questions, by the replies to its calls. All of them are answers if
it ran to its end or was cancelled. Otherwise the last one is not, and its reply is the cause. -/
inductive EndsBy : Ending α → List (Event × Reply Unit) → Prop where
  | finished (value : α) {calls : List (Event × Reply Unit)} (answered : Answered calls) :
      EndsBy (.finished value) calls
  | cancelled {calls : List (Event × Reply Unit)} (answered : Answered calls) :
      EndsBy .cancelled calls
  | failed {calls : List (Event × Reply Unit)} (answered : Answered calls) {event : Event}
      {object : DatabaseObject} (asked : event.asked? = some object) (cause : Failure) :
      EndsBy (.failed (failure object cause)) (calls ++ [(event, .failure cause)])
  | crashed {calls : List (Event × Reply Unit)} (answered : Answered calls) {event : Event}
      {object : DatabaseObject} (asked : event.asked? = some object) :
      EndsBy .crashed (calls ++ [(event, .crash)])

/-- Of calls that were answered up to the last, only the last one can be a call that was not. -/
theorem eq_last_of_unanswered {calls : List (Event × Reply Unit)} {call last : Event × Reply Unit}
    (answered : Answered calls) (member : call ∈ calls ++ [last])
    (unanswered : call.2 ≠ .answer ()) : call = last := by
  rcases List.mem_append.mp member with earlier | here
  · exact absurd (answered call earlier) unanswered
  · exact List.mem_singleton.mp here

/-- Answers that came earlier do not change how work ends. They are answers as well, so the last
call is still the only one that can be anything else. -/
theorem EndsBy.prepend {ending : Ending α} {earlier calls : List (Event × Reply Unit)}
    (answered : Answered earlier) (ends : EndsBy ending calls) :
    EndsBy ending (earlier ++ calls) := by
  have both : ∀ {later}, Answered later → Answered (earlier ++ later) :=
    fun answeredLater => List.forall_mem_append.mpr ⟨answered, answeredLater⟩
  cases ends with
  | finished value answeredLater => exact .finished value (both answeredLater)
  | cancelled answeredLater => exact .cancelled (both answeredLater)
  | failed answeredLater asked cause =>
    rw [← List.append_assoc]
    exact .failed (both answeredLater) asked cause
  | crashed answeredLater asked =>
    rw [← List.append_assoc]
    exact .crashed (both answeredLater) asked

section Ends

variable {ending : Ending α} {calls : List (Event × Reply Unit)} (ends : EndsBy ending calls)

include ends

/-- Work of which every call was answered has run to its end, or was cancelled. -/
theorem EndsBy.of_answered (answered : Answered calls) :
    (∃ value, ending = .finished value) ∨ ending = .cancelled := by
  cases ends with
  | finished value _ => exact Or.inl ⟨value, rfl⟩
  | cancelled _ => exact Or.inr rfl
  | failed _ asked cause => cases answered _ (List.mem_append_right _ List.mem_cons_self)
  | crashed _ asked => cases answered _ (List.mem_append_right _ List.mem_cons_self)

/-- Work has failed if any of its calls has, with what the target said about the object in question.
That call was its last, so no other call can have failed besides. -/
theorem EndsBy.of_failure {event : Event} {cause : Failure}
    (member : (event, .failure cause) ∈ calls) :
    ∃ object, event.asked? = some object ∧ ending = .failed (failure object cause) := by
  cases ends with
  | finished value answered => cases answered _ member
  | cancelled answered => cases answered _ member
  | failed answered asked last =>
    cases eq_last_of_unanswered answered member nofun
    exact ⟨_, asked, rfl⟩
  | crashed answered asked => cases eq_last_of_unanswered answered member nofun

/-- Nothing comes back from work if nothing came back from any of its calls. That call was the last
one, and none before it can have failed, since nobody goes on after a failure. -/
theorem EndsBy.of_crash {event : Event} (member : (event, .crash) ∈ calls) :
    ending = .crashed := by
  cases ends with
  | finished value answered => cases answered _ member
  | cancelled answered => cases answered _ member
  | failed answered asked last => cases eq_last_of_unanswered answered member nofun
  | crashed answered asked => rfl

end Ends

/-- Work whose own calls account for how it ends: they are on record, and their replies have ended
it. Of the target nothing is said but what it replied to them. -/
def Replied (target : Target σ) (before : Session σ) (result : Ending α × Session σ) : Prop :=
  ∃ events, Session.Follows target before events result.2 ∧
    EndsBy result.1 (target.replies before.target events)

/-- The target does not come back from some question about an object. -/
def Vanishes (target : Target σ) : Prop :=
  ∃ object state, (target.find object state).reply = .crash ∨
    (target.dependents object state).reply = .crash

/-- An error of such work is about an object that was asked about, in the words of the target. -/
theorem Replied.eq_failure {before after : Session σ} {error : Failure}
    (replied : Replied target before ((.failed error : Ending α), after)) :
    ∃ object cause, error = failure object cause := by
  obtain ⟨events, -, ends⟩ := replied
  dsimp only at ends
  generalize target.replies before.target events = calls at ends
  cases ends with
  | failed answered asked cause => exact ⟨_, cause, rfl⟩

/-- Such work does not come back only if the target does not come back from one of its questions.
The reply is on the record of its calls, and a reply on record is one that the target gives in some
state. -/
theorem Replied.vanishes {before after : Session σ}
    (replied : Replied target before ((.crashed : Ending α), after)) : Vanishes target := by
  obtain ⟨events, -, ends⟩ := replied
  dsimp only at ends
  generalize given : target.replies before.target events = calls at ends
  cases ends with
  | @crashed earlier answered event object asked =>
    have member : (event, .crash) ∈ target.replies before.target events := by simp [given]
    obtain ⟨state, next, replayed⟩ := Target.exists_replay?_of_mem_replies member
    cases event with
    | find subject =>
      have reply := congrArg Prod.fst (Option.some.inj replayed)
      exact ⟨subject, state, Or.inl (Reply.bare_eq_crash_iff.mp reply)⟩
    | dependents object =>
      have reply := congrArg Prod.fst (Option.some.inj replayed)
      exact ⟨object, state, Or.inr (Reply.bare_eq_crash_iff.mp reply)⟩
    | _ => cases asked

/-- Work that is done has asked nothing. -/
theorem replied_finished (value : α) (session : Session σ) :
    Replied target session (.finished value, session) :=
  ⟨[], .nil session, .finished value (List.forall_mem_nil _)⟩

/-- Work goes on from answered questions only, so the replies to what it asks later are those that
end it. -/
theorem Replied.andThen {before : Session σ} {result : Ending α × Session σ}
    {continuation : α → Session σ → Ending β × Session σ} (first : Replied target before result)
    (second : ∀ value, Replied target result.2 (continuation value result.2)) :
    Replied target before (Ending.andThen result continuation) := by
  obtain ⟨events, follows, ends⟩ := first
  rcases result with ⟨ending, between⟩
  dsimp only at ends
  generalize replied : target.replies before.target events = calls at ends
  cases ends with
  | finished value answered =>
    obtain ⟨later, goesOn, endsLater⟩ := second value
    refine ⟨events ++ later, follows.append goesOn, ?_⟩
    rw [follows.replies_append, replied]
    exact endsLater.prepend answered
  | cancelled answered => exact ⟨events, follows, replied ▸ .cancelled answered⟩
  | failed answered asked cause => exact ⟨events, follows, replied ▸ .failed answered asked cause⟩
  | crashed answered asked => exact ⟨events, follows, replied ▸ .crashed answered asked⟩

/-- The reply to a question is how it ends, as far as the record goes: an answer lets work go on,
and anything else has stopped it there and then. -/
theorem replied_answered {event : Event} {object : DatabaseObject} {call : Call σ α}
    {session : Session σ} (asked : event.asked? = some object)
    (replayed : target.replay? session.target event = some (call.reply.bare, call.next)) :
    Replied target session (answered object (call.reply, session.after event call)) := by
  obtain ⟨events, follows, replies⟩ := Session.follows_after replayed
  cases reply : call.reply with
  | answer value =>
    refine ⟨events, follows, ?_⟩
    rw [replies, reply]
    exact .finished value (by simp [Answered, Reply.bare])
  | failure cause =>
    refine ⟨events, follows, ?_⟩
    rw [replies, reply]
    exact .failed (List.forall_mem_nil _) asked cause
  | crash =>
    refine ⟨events, follows, ?_⟩
    rw [replies, reply]
    exact .crashed (List.forall_mem_nil _) asked

/-- A report of progress does not change by which replies the work after it ends. -/
theorem Replied.of_publish {session : Session σ} {stage : Stage} {jobSize done : Nat}
    {result : Ending α × Session σ}
    (replied : Replied target (session.publish stage jobSize done) result) :
    Replied target session result := by
  obtain ⟨told, follows, silent⟩ := Session.follows_publish target session stage jobSize done
  obtain ⟨events, goesOn, ends⟩ := replied
  refine ⟨told ++ events, follows.append goesOn, ?_⟩
  rw [follows.replies_append, silent]
  exact ends

variable (target)

/-- Trees that are grown one after the other end by the replies to the questions of each. The
induction is on the objects: a tree that is not finished ends the work by its own last reply. -/
theorem replied_growEach
    {growOne : DatabaseObject → List ObjectKey → Session σ →
      Ending (ConflictTree × List ObjectKey) × Session σ}
    (each : ∀ object seen session, Replied target session (growOne object seen session))
    (objects : List DatabaseObject) (seen : List ObjectKey) (session : Session σ) :
    Replied target session (growEach growOne objects seen session) := by
  induction objects generalizing seen session with
  | nil => exact replied_finished _ session
  | cons object rest inductionHypothesis =>
    refine (each object seen session).andThen fun grown => ?_
    exact (inductionHypothesis grown.2 _).andThen fun _ => replied_finished _ _

/-- A tree is grown as far as the questions about its objects are answered. How deep it may become
is no cause of an ending: on the last level there is nothing left to ask. -/
theorem replied_grow (levels : Nat) (object : DatabaseObject) (seen : List ObjectKey)
    (session : Session σ) : Replied target session (grow target levels object seen session) := by
  induction levels generalizing object seen session with
  | zero => exact replied_finished _ session
  | succ levels inductionHypothesis =>
    have question : Replied target session (answered object (target.dependentsIn object session)) :=
      replied_answered rfl rfl
    refine question.andThen fun found => ?_
    exact (replied_growEach target inductionHypothesis _ _ _).andThen fun _ => replied_finished _ _

/-- The inspection of a subject ends by the reply to its lookup or, if that has found an object, by
those to the questions about what depends on it. -/
theorem replied_inspect (subject : DatabaseObject) (session : Session σ) :
    Replied target session (inspect target subject session) := by
  have lookup : Replied target session (answered subject (target.findIn subject session)) :=
    replied_answered rfl rfl
  refine lookup.andThen fun found => ?_
  cases found with
  | none => exact replied_finished _ _
  | some root => exact (replied_grow target _ root _ _).andThen fun _ => replied_finished _ _

/-- A scan ends by the replies to its own calls, or is cancelled after answers alone. The proof goes
along the subjects: each inspection but the last was answered throughout. -/
theorem replied_run (jobSize : Nat) (subjects : List DatabaseObject) (state : State)
    (session : Session σ) :
    let result := run target jobSize subjects state session
    Replied target session (result.1, result.2.2) := by
  induction subjects generalizing state session with
  | nil => exact replied_finished () session
  | cons subject rest inductionHypothesis =>
    dsimp only
    rw [run]
    split
    · exact ⟨[], .nil session, .cancelled (List.forall_mem_nil _)⟩
    · have here := replied_inspect target subject session
      rcases inspected : inspect target subject session with ⟨ending, next⟩
      rw [inspected] at here
      let goOn (conflicts : List ConflictTree) (after : Session σ) : Ending Unit × Session σ :=
        let later := run target jobSize rest ⟨state.found ++ conflicts, state.done + 1⟩
          (after.publish .find jobSize (state.done + 1))
        (later.1, later.2.2)
      have goesOn : Replied target session (Ending.andThen (ending, next) goOn) :=
        here.andThen fun conflicts => (inductionHypothesis _ _).of_publish
      cases ending <;> exact goesOn

end Scan

namespace Clearance

variable {σ : Type} (target : Target σ)

/-- The search of a clearance ends by the replies to its own calls. A search that is refused because
there was one before has none. -/
theorem replied_find {clearance : Clearance} (fresh : clearance.started = false)
    (session : Session σ) :
    let result := clearance.find target session
    Scan.Replied target session (result.1, result.2.2) := by
  have ran := (Scan.replied_run target clearance.jobSize clearance.subjects
    ⟨[], clearance.progress⟩ (session.publish .find clearance.jobSize 0)).of_publish
  dsimp only at ran ⊢
  rw [find, if_neg (by simp [fresh])]
  rcases scan : Scan.run target clearance.jobSize clearance.subjects ⟨[], clearance.progress⟩
    (session.publish .find clearance.jobSize 0) with ⟨ending, state, next⟩
  rw [scan] at ran
  cases ending <;> exact ran

end Clearance

end SchemaForward
