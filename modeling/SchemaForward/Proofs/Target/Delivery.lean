import Mathlib.Data.List.Basic
import SchemaForward.Proofs.Target.Session

/-!
# Delivery of statements

Work that is given statements sends them to the target in order, each only after the one before it
was accepted, and looks at the cancel flag in between. So it sends some of the first statements.
All of those were accepted but perhaps the last, and work that ran to its end has sent all it was
given. The relation below has one rule for each thing that can happen, and keeps no account of why
work stopped: it was cancelled, the target failed, or a call never came back.

Deliveries are put together: after one that is complete comes another, and one that is not complete
leaves everything behind it unsent.
-/

namespace SchemaForward

/-- What is sent of statements in order, each with whether it was accepted, and whether all of them
were. -/
inductive Sends : List String → List (String × Bool) → Bool → Prop where
  | finished : Sends [] [] true
  | stopped (statements : List String) : Sends statements [] false
  | refused (statement : String) (rest : List String) :
      Sends (statement :: rest) [(statement, false)] false
  | accepted (statement : String) {rest : List String} {sent : List (String × Bool)}
      {complete : Bool} :
      Sends rest sent complete → Sends (statement :: rest) ((statement, true) :: sent) complete

namespace Sends

variable {statements others : List String} {sent more : List (String × Bool)} {complete : Bool}

/-- What is sent are the first statements. -/
theorem isPrefix (sends : Sends statements sent complete) :
    sent.map Prod.fst <+: statements := by
  induction sends with
  | finished => exact List.prefix_rfl
  | stopped statements => exact List.nil_prefix
  | refused statement rest => simp
  | accepted statement _ inductionHypothesis =>
    exact (List.prefix_cons_inj statement).mpr inductionHypothesis

/-- Only the last statement that is sent may have been refused. A refusal ends the sending, so there
is nothing behind it. -/
theorem accepted_dropLast (sends : Sends statements sent complete) :
    ∀ statement ∈ sent.dropLast, statement.2 = true := by
  induction sends with
  | finished => simp
  | stopped statements => simp
  | refused statement rest => simp
  | @accepted statement rest sent _ _ inductionHypothesis =>
    cases sent with
    | nil => simp
    | cons next later =>
      intro other member
      rw [List.dropLast_cons_of_ne_nil (List.cons_ne_nil next later), List.mem_cons] at member
      rcases member with rfl | member
      · rfl
      · exact inductionHypothesis other member

/-- Work that ran to its end has sent all of its statements, and they were accepted. -/
theorem eq_of_complete (sends : Sends statements sent complete) (all : complete = true) :
    sent = statements.map fun statement => (statement, true) := by
  induction sends with
  | finished => rfl
  | stopped statements => cases all
  | refused statement rest => cases all
  | accepted statement _ inductionHypothesis => rw [inductionHypothesis all, List.map_cons]

/-- If more is sent than a number of statements, the first ones of that number were accepted.
Another was sent after them, which takes that all of them were accepted. -/
theorem take_eq (sends : Sends statements sent complete) {count : Nat}
    (longer : count < sent.length) :
    sent.take count = (statements.take count).map fun statement => (statement, true) := by
  induction sends generalizing count with
  | finished => simp at longer
  | stopped statements => simp at longer
  | refused statement rest =>
    have none : count = 0 := by simpa using longer
    simp [none]
  | accepted statement _ inductionHypothesis =>
    cases count with
    | zero => rfl
    | succ count =>
      have longerRest := Nat.lt_of_succ_lt_succ longer
      rw [List.take_succ_cons, inductionHypothesis longerRest, List.take_succ_cons, List.map_cons]

/-- After all statements were accepted, others may be sent. -/
theorem append {ended : Bool} (first : Sends statements sent ended) (all : ended = true)
    (second : Sends others more complete) :
    Sends (statements ++ others) (sent ++ more) complete := by
  induction first with
  | finished => exact second
  | stopped statements => cases all
  | refused statement rest => cases all
  | accepted statement _ inductionHypothesis => exact accepted statement (inductionHypothesis all)

/-- Work that stopped leaves all that was to follow unsent. -/
theorem unfinished (sends : Sends statements sent complete) (others : List String) :
    Sends (statements ++ others) sent false := by
  induction sends with
  | finished => exact stopped others
  | stopped statements => exact stopped (statements ++ others)
  | refused statement rest => exact refused statement (rest ++ others)
  | accepted statement _ inductionHypothesis => exact accepted statement inductionHypothesis

end Sends

/-- Work between two moments of a session delivers statements, all of them or only some. -/
def Delivers {σ : Type} (statements : List String) (before : Session σ) (complete : Bool)
    (after : Session σ) : Prop :=
  ∃ sent, after.sent = before.sent ++ sent ∧ Sends statements sent complete

namespace Delivers

variable {σ : Type} {statements others : List String} {before between after : Session σ}
  {complete : Bool}

/-- Work that sends nothing has not begun to deliver. -/
theorem nothing (statements : List String) (quiet : after.sent = before.sent) :
    Delivers statements before false after :=
  ⟨[], by simp [quiet], Sends.stopped statements⟩

/-- Nothing to deliver is delivered by sending nothing. -/
theorem nil (quiet : after.sent = before.sent) : Delivers [] before true after :=
  ⟨[], by simp [quiet], Sends.finished⟩

/-- A moment before the work at which as much was sent serves as well. -/
theorem of_sent_eq (delivers : Delivers statements between complete after)
    (quiet : between.sent = before.sent) : Delivers statements before complete after := by
  obtain ⟨sent, sentAfter, sends⟩ := delivers
  exact ⟨sent, by rw [sentAfter, quiet], sends⟩

/-- A delivery after a complete one. -/
theorem andThen (first : Delivers statements before true between)
    (second : Delivers others between complete after) :
    Delivers (statements ++ others) before complete after := by
  obtain ⟨sent, sentBetween, sends⟩ := first
  obtain ⟨more, sentAfter, sendsMore⟩ := second
  refine ⟨sent ++ more, ?_, sends.append rfl sendsMore⟩
  rw [sentAfter, sentBetween, List.append_assoc]

/-- A delivery after which no other one begins. -/
theorem unfinished (delivers : Delivers statements before complete after) (others : List String) :
    Delivers (statements ++ others) before false after := by
  obtain ⟨sent, sentAfter, sends⟩ := delivers
  exact ⟨sent, sentAfter, sends.unfinished others⟩

/-- One statement is sent first. If it was accepted the others follow. -/
theorem cons {statement : String} (one : between.sent = before.sent ++ [(statement, true)])
    (rest : Delivers others between complete after) :
    Delivers (statement :: others) before complete after := by
  obtain ⟨sent, sentAfter, sends⟩ := rest
  refine ⟨(statement, true) :: sent, ?_, Sends.accepted statement sends⟩
  rw [sentAfter, one, List.append_assoc]
  rfl

/-- One statement is sent first. If it was refused no other follows. -/
theorem refused {statement : String} (one : after.sent = before.sent ++ [(statement, false)]) :
    Delivers (statement :: others) before false after :=
  ⟨[(statement, false)], one, Sends.refused statement others⟩

end Delivers

end SchemaForward
