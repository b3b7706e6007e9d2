import SchemaForward.Proofs.Conflict.Catalogue
import SchemaForward.Proofs.Conflict.Steps

/-!
# Targets whose answers do not change

A target is steady in certain states if questions do not lead out of them and are answered alike in
all of them. That it has the same size there only keeps searches equally deep; it is no call, and
where the size suffices it makes no difference. The calls may still differ in whether someone asks
for cancellation meanwhile, and nothing is said about what statements do to the target.

Two searches of a steady target for the same script go side by side. An inspection never looks at
the cancel flag, so both come to the same; and of the two scans one can fall behind the other only
by being cancelled.
-/

namespace SchemaForward

/-- In certain states, which questions do not lead out of, a target answers questions alike, and
searches of it are equally deep. -/
structure Target.Steady {σ : Type} (target : Target σ) (holds : σ → Prop) : Prop where
  size : ∀ state other, holds state → holds other → target.size state = target.size other
  find : ∀ subject state other, holds state → holds other →
    (target.find subject state).reply = (target.find subject other).reply
  dependents : ∀ object state other, holds state → holds other →
    (target.dependents object state).reply = (target.dependents object other).reply
  holds_find : ∀ subject state, holds state → holds (target.find subject state).next
  holds_dependents : ∀ object state, holds state → holds (target.dependents object state).next

/-- A fixed catalogue is steady while it has the same contents, however often it is asked. Lookups
are counted and statements are recorded, but neither is read when a question is answered. -/
theorem FixedCatalogue.steady (fixed : FixedCatalogue) : calls.Steady fixed.SameContents where
  size state other same otherSame := by
    simp only [calls, same.2.1, otherSame.2.1]
  find subject state other same otherSame := by
    simp only [calls, find, catalogueFailure?, same.1, same.2.2, otherSame.1, otherSame.2.2]
  dependents object state other same otherSame := by
    simp only [calls, dependents, catalogueFailure?, directDependents, same.2.1, same.2.2,
      otherSame.2.1, otherSame.2.2]
  holds_find _ _ same := same
  holds_dependents _ _ same := same

namespace Scan

variable {σ α β : Type} {target : Target σ} {holds : σ → Prop}

/-- Two pieces of work have come to the same, and both left the target in such a state. -/
structure Alike (holds : σ → Prop) (first second : Ending α × Session σ) : Prop where
  sameEnding : first.1 = second.1
  first : holds first.2.target
  second : holds second.2.target

/-- Work that has come to the same twice goes on alike if it does so from every value. The sessions
may differ, as they do in their flags and events. -/
theorem Alike.andThen {result other : Ending α × Session σ}
    {continuation : α → Session σ → Ending β × Session σ} (alike : Alike holds result other)
    (goesOn : ∀ value session otherSession, holds session.target → holds otherSession.target →
      Alike holds (continuation value session) (continuation value otherSession)) :
    Alike holds (Ending.andThen result continuation) (Ending.andThen other continuation) := by
  obtain ⟨sameEnding, first, second⟩ := alike
  rcases result with ⟨ending, session⟩
  rcases other with ⟨otherEnding, otherSession⟩
  obtain rfl : ending = otherEnding := sameEnding
  cases ending with
  | finished value => exact goesOn value session otherSession first second
  | cancelled => exact ⟨rfl, first, second⟩
  | failed error => exact ⟨rfl, first, second⟩
  | crashed => exact ⟨rfl, first, second⟩

/-- The same reply is taken alike. -/
theorem alike_answered {object : DatabaseObject} {result other : Reply α × Session σ}
    (sameReply : result.1 = other.1) (first : holds result.2.target)
    (second : holds other.2.target) :
    Alike holds (answered object result) (answered object other) := by
  rcases result with ⟨reply, session⟩
  rcases other with ⟨otherReply, otherSession⟩
  obtain rfl : reply = otherReply := sameReply
  cases reply <;> exact ⟨rfl, first, second⟩

section Steady

variable (steady : target.Steady holds) {session other : Session σ}
  (first : holds session.target) (second : holds other.target)

include steady first second

/-- A lookup is answered alike, whoever asks for cancellation while it is made. -/
theorem alike_findIn (subject : DatabaseObject) :
    Alike holds (answered subject (target.findIn subject session))
      (answered subject (target.findIn subject other)) := by
  refine alike_answered (steady.find subject _ _ first second) ?_ ?_
  · rw [Target.target_findIn]
    exact steady.holds_find subject _ first
  · rw [Target.target_findIn]
    exact steady.holds_find subject _ second

/-- A question about dependents is answered alike, and leaves the target among the same states. -/
theorem alike_dependentsIn (object : DatabaseObject) :
    Alike holds (answered object (target.dependentsIn object session))
      (answered object (target.dependentsIn object other)) := by
  refine alike_answered (steady.dependents object _ _ first second) ?_ ?_
  · rw [Target.target_dependentsIn]
    exact steady.holds_dependents object _ first
  · rw [Target.target_dependentsIn]
    exact steady.holds_dependents object _ second

omit steady in
/-- Growing trees one after the other is like growing each. The two go side by side: the same tree
is grown first, with the same keys seen by then, and if the one is not finished neither is the
other. -/
theorem alike_growEach
    {growOne : DatabaseObject → List ObjectKey → Session σ →
      Ending (ConflictTree × List ObjectKey) × Session σ}
    (alike : ∀ object seen session other, holds session.target → holds other.target →
      Alike holds (growOne object seen session) (growOne object seen other))
    (objects : List DatabaseObject) (seen : List ObjectKey) :
    Alike holds (growEach growOne objects seen session) (growEach growOne objects seen other) := by
  induction objects generalizing seen session other with
  | nil => exact ⟨rfl, first, second⟩
  | cons object rest inductionHypothesis =>
    refine (alike object seen session other first second).andThen
      fun grown next otherNext firstNext secondNext => ?_
    exact (inductionHypothesis firstNext secondNext grown.2).andThen
      fun _ _ _ firstLast secondLast => ⟨rfl, firstLast, secondLast⟩

/-- A tree grows alike twice. The induction is on its levels, and each level asks the same questions
in the same order, because the answers so far were the same. -/
theorem alike_grow (levels : Nat) (object : DatabaseObject) (seen : List ObjectKey) :
    Alike holds (grow target levels object seen session)
      (grow target levels object seen other) := by
  induction levels generalizing object seen session other with
  | zero => exact ⟨rfl, first, second⟩
  | succ levels inductionHypothesis =>
    refine (alike_dependentsIn steady first second object).andThen
      fun found next otherNext firstNext secondNext => ?_
    refine (alike_growEach firstNext secondNext (fun object seen session other first second =>
      inductionHypothesis first second object seen) _ _).andThen
      fun _ _ _ firstLast secondLast => ⟨rfl, firstLast, secondLast⟩

/-- Inspections of a subject come to the same, whether the flag is set or not. The flag is not
looked at during an inspection, and the answers are those of a steady target. -/
theorem alike_inspect (subject : DatabaseObject) :
    Alike holds (inspect target subject session) (inspect target subject other) := by
  refine (alike_findIn steady first second subject).andThen
    fun found next otherNext firstNext secondNext => ?_
  cases found with
  | none => exact ⟨rfl, firstNext, secondNext⟩
  | some root =>
    have sameTree : Alike holds (treeOf target root next) (treeOf target root otherNext) := by
      rw [treeOf, treeOf, steady.size _ _ firstNext secondNext]
      exact alike_grow steady firstNext secondNext _ root _
    exact sameTree.andThen fun _ _ _ firstLast secondLast => ⟨rfl, firstLast, secondLast⟩

/-- Two scans for the same subjects come to the same, unless one of them is cancelled. They may have
been asked to cancel at different moments. While neither heeds that, each inspection of the one is
answered as that of the other, and the flag is not looked at in between. -/
theorem run_alike (jobSize : Nat) (subjects : List DatabaseObject) (state : State) :
    let result := run target jobSize subjects state session
    let otherResult := run target jobSize subjects state other
    result.1 ≠ .cancelled → otherResult.1 ≠ .cancelled →
      result.1 = otherResult.1 ∧ result.2.1 = otherResult.2.1 := by
  induction subjects generalizing state session other with
  | nil => exact fun _ _ => ⟨rfl, rfl⟩
  | cons subject rest inductionHypothesis =>
    dsimp only
    rw [run, run]
    by_cases set : session.cancelled = true
    · rw [if_pos set]
      exact fun uncancelled => absurd rfl uncancelled
    by_cases otherSet : other.cancelled = true
    · rw [if_pos otherSet]
      exact fun _ uncancelled => absurd rfl uncancelled
    rw [if_neg set, if_neg otherSet]
    -- Both go on with the same inspection, which the flag cannot stop any more.
    have alike := alike_inspect steady first second subject
    rcases inspected : inspect target subject session with ⟨ending, next⟩
    rcases otherInspected : inspect target subject other with ⟨otherEnding, otherNext⟩
    rw [inspected, otherInspected] at alike
    obtain ⟨sameEnding, firstNext, secondNext⟩ := alike
    obtain rfl : ending = otherEnding := sameEnding
    cases ending with
    | finished conflicts =>
      exact inductionHypothesis (by simpa using firstNext) (by simpa using secondNext) _
    | cancelled => exact fun _ _ => ⟨rfl, rfl⟩
    | failed error => exact fun _ _ => ⟨rfl, rfl⟩
    | crashed => exact fun _ _ => ⟨rfl, rfl⟩

end Steady

/-- A scan is cancelled only if the flag is set. No inspection is cancelled, so the scan has seen
the flag itself, and once it is set it stays so. -/
theorem cancelled_run (target : Target σ) (jobSize : Nat) (subjects : List DatabaseObject)
    (state : State) (session : Session σ)
    (cancelled : (run target jobSize subjects state session).1 = .cancelled) :
    (run target jobSize subjects state session).2.2.cancelled = true := by
  induction subjects generalizing state session with
  | nil => cases cancelled
  | cons subject rest inductionHypothesis =>
    rw [run] at cancelled ⊢
    split
    · assumption
    · rename_i unset
      rw [if_neg unset] at cancelled
      have uncancelled := (inquires_inspect target subject session).uncancelled
      rcases inspected : inspect target subject session with ⟨ending, next⟩
      rw [inspected] at uncancelled cancelled
      cases ending with
      | finished conflicts => exact inductionHypothesis _ _ cancelled
      | cancelled => exact absurd rfl uncancelled
      | failed error => cases cancelled
      | crashed => cases cancelled

end Scan

namespace Clearance

variable {σ : Type} {target : Target σ} {holds : σ → Prop}

/-- A search is cancelled only if the flag is set. -/
theorem cancelled_find (target : Target σ) (clearance : Clearance) (session : Session σ)
    (cancelled : (clearance.find target session).1 = .cancelled) :
    (clearance.find target session).2.2.cancelled = true := by
  by_cases started : clearance.started = true
  · rw [find_of_started target started] at cancelled
    cases cancelled
  · have search := find_eq target (Bool.not_eq_true _ ▸ started) session
    rw [search] at cancelled ⊢
    exact Scan.cancelled_run target _ _ _ _ cancelled

/-- Two searches of a steady target come to the same, unless one of them is cancelled: they end
alike, and the clearances are equal afterwards. -/
theorem find_alike (steady : target.Steady holds) (clearance : Clearance)
    {session other : Session σ} (first : holds session.target) (second : holds other.target)
    (uncancelled : (clearance.find target session).1 ≠ .cancelled)
    (otherUncancelled : (clearance.find target other).1 ≠ .cancelled) :
    (clearance.find target session).1 = (clearance.find target other).1 ∧
      (clearance.find target session).2.1 = (clearance.find target other).2.1 := by
  by_cases started : clearance.started = true
  · rw [find_of_started target started, find_of_started target started]
    exact ⟨rfl, rfl⟩
  · have fresh : clearance.started = false := by simpa using started
    rw [find_eq target fresh] at uncancelled otherUncancelled ⊢
    rw [find_eq target fresh]
    obtain ⟨sameEnding, sameState⟩ := Scan.run_alike steady
      ((session.target_publish _ _ _).symm ▸ first) ((other.target_publish _ _ _).symm ▸ second)
      clearance.jobSize clearance.subjects ⟨[], clearance.progress⟩ uncancelled otherUncancelled
    exact ⟨sameEnding, congrArg₂ clearance.scanned sameEnding sameState⟩

end Clearance

end SchemaForward
