import SchemaForward.Proofs.Conflict.Steps

/-!
# What a clearance sends

Looking for conflicts asks questions and sends nothing, however it ends. Dropping them delivers the
statements of the plan: a drop is sent only if the ones before it were accepted, and dropping runs
to its end only if all were. Neither depends on how the target behaves.
-/

namespace SchemaForward

namespace Clearance

variable {σ : Type} (target : Target σ) (clearance : Clearance) (session : Session σ)

/-- Looking for conflicts sends nothing. A search asks the target and reports, and neither of these
is a statement. -/
theorem sent_find : (clearance.find target session).2.2.sent = session.sent := by
  have quiet : (Scan.run target clearance.jobSize clearance.subjects ⟨[], clearance.progress⟩
      (session.publish .find clearance.jobSize 0)).2.2.sent = session.sent := by
    rw [← Session.sent_publish session .find clearance.jobSize 0]
    exact (Scan.steps_run target _ _ _ _).seen_eq Event.sent? rfl
      fun _ => Event.InScan.sent?_eq_none
  rw [find]
  split
  · rfl
  · rcases ran : Scan.run target clearance.jobSize clearance.subjects ⟨[], clearance.progress⟩
      (session.publish .find clearance.jobSize 0) with ⟨ending, state, next⟩
    rw [ran] at quiet
    cases ending <;> exact quiet

variable {target clearance}

/-- A run over drops delivers their statements. -/
theorem runDrops_delivers (jobSize : Nat) (steps : List DropStep) (done dropped : Nat) :
    let result := runDrops target jobSize steps done dropped session
    Delivers (steps.map DropStep.statement) session result.1.isFinished result.2.2 := by
  obtain ⟨last, sending, -⟩ := sending_runDrops target jobSize steps done dropped session
  exact sending.delivers

/-- Dropping conflicts delivers the statements of their plan. The attempt may end early, and then a
prefix of them is delivered; before a search has run to its end nothing is. -/
theorem drop_delivers {steps : List DropStep} (planned : clearance.plan = .ok steps) :
    let result := clearance.drop target session
    Delivers (steps.map DropStep.statement) session result.1.isFinished result.2.2 := by
  intro result
  rw [show result = clearance.drop target session from rfl, drop]
  split
  · rw [planned]
    exact (runDrops_delivers _ steps.length steps 0 clearance.dropped).of_sent_eq
      (Session.sent_publish _ _ _ _)
  · exact Delivers.nothing _ rfl

end Clearance

end SchemaForward
