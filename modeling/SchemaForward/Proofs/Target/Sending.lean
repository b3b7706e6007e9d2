import SchemaForward.Proofs.Target.Delivery

/-!
# Sending statements

Drops and the statements of a script are sent in the same way: each only while the cancel flag is
not set, each counted when the target has accepted it, and none after one that was refused. The
relation below has one rule for each thing that can happen. What follows for such work follows for
both: what it delivers, what its errors are about, and what has stopped it.
-/

namespace SchemaForward

/-- The work has run to its end. -/
def Ending.isFinished {α : Type} : Ending α → Bool
  | .finished _ => true
  | _ => false

namespace Session

variable {σ : Type}

/-- What happened between two moments was stopped from outside: the cancel flag is set, or a
statement that was sent was refused. -/
def Halted (before after : Session σ) : Prop :=
  after.cancelled = true ∨
    ∃ sent, after.sent = before.sent ++ sent ∧ ∃ statement, (statement, false) ∈ sent

/-- A halt later on is one since any earlier moment. -/
theorem Halted.of_sent {before between after : Session σ} {earlier : List (String × Bool)}
    (halted : Halted between after) (sentBetween : between.sent = before.sent ++ earlier) :
    Halted before after := by
  rcases halted with flagged | ⟨sent, sentAfter, statement, refused⟩
  · exact Or.inl flagged
  · refine Or.inr ⟨earlier ++ sent, ?_, statement, List.mem_append_right earlier refused⟩
    rw [sentAfter, sentBetween, List.append_assoc]

/-- Work that was not cancelled, and of which every statement was accepted, was not stopped. -/
theorem not_halted {before after : Session σ} (uncancelled : after.cancelled = false)
    {sent : List (String × Bool)} (sentAfter : after.sent = before.sent ++ sent)
    (accepted : ∀ statement ∈ sent, statement.2 = true) : ¬ Halted before after := by
  rintro (flagged | ⟨others, sentOthers, statement, refused⟩)
  · exact absurd (uncancelled.symm.trans flagged) (by simp)
  · obtain rfl : others = sent := List.append_cancel_left (sentOthers.symm.trans sentAfter)
    exact absurd (accepted _ refused) (by simp)

end Session

open Session (Halted)

variable {σ : Type} {target : Target σ} {stage : Stage} {jobSize : Nat}

/-- Statements are sent in order in a stage, with so many done before, and this is how it ends and
how many are done then. -/
inductive Sending (target : Target σ) (stage : Stage) (jobSize : Nat) :
    List String → Nat → Session σ → Ending Unit → Nat → Session σ → Prop where
  | finished (done : Nat) (session : Session σ) :
      Sending target stage jobSize [] done session (.finished ()) done session
  | cancelled (statements : List String) (done : Nat) {session : Session σ}
      (set : session.cancelled = true) :
      Sending target stage jobSize statements done session .cancelled done session
  | refused {statement : String} (rest : List String) (done : Nat) {session next : Session σ}
      {error : Failure} (unset : session.cancelled = false)
      (executed : target.executeIn statement session = (.failure error, next))
      (subject : ExecutionSubject) :
      Sending target stage jobSize (statement :: rest) done session
        (.failed (.executionFailed subject statement error.reportedMessage)) done next
  | vanished {statement : String} (rest : List String) (done : Nat) {session next : Session σ}
      (unset : session.cancelled = false)
      (executed : target.executeIn statement session = (.crash, next)) :
      Sending target stage jobSize (statement :: rest) done session .crashed done next
  | accepted {statement : String} {rest : List String} {done last : Nat}
      {session next final : Session σ} {ending : Ending Unit} (unset : session.cancelled = false)
      (executed : target.executeIn statement session = (.answer (), next))
      (later : Sending target stage jobSize rest (done + 1)
        (next.publish stage jobSize (done + 1)) ending last final) :
      Sending target stage jobSize (statement :: rest) done session ending last final

namespace Sending

variable {statements : List String} {done last : Nat} {session final : Session σ}
  {ending : Ending Unit}

/-- An error of such work is about a statement, in the words of the target. It never speaks of the
state of the program, so it is not taken for a stage that vanished. -/
theorem eq_executionFailed {error : Failure}
    (sending : Sending target stage jobSize statements done session (.failed error) last final) :
    ∃ subject statement cause, error = .executionFailed subject statement cause := by
  generalize ended : Ending.failed error = ending at sending
  induction sending with
  | refused rest done unset executed subject =>
    cases ended
    exact ⟨_, _, _, rfl⟩
  | accepted unset executed later inductionHypothesis => exact inductionHypothesis ended
  | _ => cases ended

/-- Such work vanishes only if the target does not come back. -/
theorem exists_crash
    (sending : Sending target stage jobSize statements done session .crashed last final) :
    ∃ statement state, (target.execute statement state).reply = .crash := by
  generalize ended : Ending.crashed = ending at sending
  induction sending with
  | @vanished statement rest done session next unset executed =>
    exact ⟨statement, session.target, congrArg Prod.fst executed⟩
  | accepted unset executed later inductionHypothesis => exact inductionHypothesis ended
  | _ => cases ended

/-- A statement that was run was sent, with whether it was accepted. -/
theorem sent_of_executed {statement : String} {next : Session σ} {reply : Reply Unit}
    (executed : target.executeIn statement session = (reply, next)) :
    next.sent = session.sent ++ [(statement, Target.isAnswer reply)] := by
  have sent := target.sent_executeIn session statement
  rwa [executed] at sent

/-- Statements are sent on until something stops them. That is the flag, a statement that was
refused or one that did not come back; in either of the last two the statement is on record as not
accepted. -/
theorem halts (sending : Sending target stage jobSize statements done session ending last final)
    (unfinished : ending.isFinished = false) : Halted session final := by
  induction sending with
  | finished done session => cases unfinished
  | cancelled statements done set => exact Or.inl set
  | refused rest done unset executed subject =>
    exact Or.inr ⟨_, sent_of_executed executed, _, List.mem_singleton_self _⟩
  | vanished rest done unset executed =>
    exact Or.inr ⟨_, sent_of_executed executed, _, List.mem_singleton_self _⟩
  | accepted unset executed later inductionHypothesis =>
    exact (inductionHypothesis unfinished).of_sent
      ((Session.sent_publish _ _ _ _).trans (sent_of_executed executed))

/-- Statements that are sent are delivered. They are sent in their order and each only once, up to
the first that is not accepted. -/
theorem delivers
    (sending : Sending target stage jobSize statements done session ending last final) :
    Delivers statements session ending.isFinished final := by
  induction sending with
  | finished done session => exact Delivers.nil rfl
  | cancelled statements done set => exact Delivers.nothing _ rfl
  | refused rest done unset executed subject => exact Delivers.refused (sent_of_executed executed)
  | vanished rest done unset executed => exact Delivers.refused (sent_of_executed executed)
  | accepted unset executed later inductionHypothesis =>
    exact Delivers.cons ((Session.sent_publish _ _ _ _).trans (sent_of_executed executed))
      inductionHypothesis

end Sending

end SchemaForward
