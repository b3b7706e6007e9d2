import SchemaForward.Conflict.Clearance
import SchemaForward.Proofs.Target.Sending
import SchemaForward.Proofs.Target.Steps

/-!
# Steps of a clearance

Growing a tree asks about dependents and does nothing else. A scan looks up its subjects one after
the other, each only while the cancel flag is not set, and so it has looked up some of the first of
them: all if it ran to its end, and as many as it says are done if it was cancelled. Dropping sends
statements under the same condition. Both open their stage with a report of progress, which is the
only report that says that nothing is done yet.
-/

namespace SchemaForward

namespace Event

variable {event : Event}

/-- What happens in a scan that was opened: questions, and reports of work that was done. -/
inductive InScan : Event → Prop where
  | find (subject : DatabaseObject) : InScan (.find subject)
  | dependents (object : DatabaseObject) : InScan (.dependents object)
  | progress (jobSize done : Nat) : InScan (.progress ⟨.find, jobSize, done + 1⟩)

/-- What happens in a stage that sends statements, once it was opened. -/
inductive InSending : Event → Prop where
  | execute (statement : String) (accepted : Bool) : InSending (.execute statement accepted)
  | progress (stage : Stage) (jobSize done : Nat) : InSending (.progress ⟨stage, jobSize, done + 1⟩)

/-- A scan that goes on opens no stage: it reports progress only with something done. -/
theorem InScan.opened?_eq_none (inScan : event.InScan) : event.opened? = none := by
  cases inScan <;> rfl

/-- A scan sends no statement. -/
theorem InScan.sent?_eq_none (inScan : event.InScan) : event.sent? = none := by
  cases inScan <;> rfl

/-- A scan decides nothing, as nobody is asked before it has ended. -/
theorem InScan.decided?_eq_none (inScan : event.InScan) : event.decided? = none := by
  cases inScan <;> rfl

/-- Sending that goes on opens no stage, for the same reason as a scan. -/
theorem InSending.opened?_eq_none (inSending : event.InSending) : event.opened? = none := by
  cases inSending <;> rfl

/-- What opens a stage is a report of progress. -/
theorem eq_progress_of_opened? {stage : Stage} (opens : event.opened? = some stage) :
    ∃ jobSize, event = .progress ⟨stage, jobSize, 0⟩ := by
  cases event with
  | progress report =>
    obtain ⟨reported, jobSize, done⟩ := report
    simp only [opened?, Option.ite_none_right_eq_some, Option.some.injEq] at opens
    obtain ⟨rfl, rfl⟩ := opens
    exact ⟨jobSize, rfl⟩
  | _ => cases opens

/-- What happens in a stage that sends statements: it is opened, and goes on. -/
def OfSending (event : Event) (stage : Stage) : Prop :=
  event.opened? = some stage ∨ event.InSending

/-- What opens a stage is a report of progress, and so not a decision. -/
theorem decided?_eq_none_of_opened? {stage : Stage} (opens : event.opened? = some stage) :
    event.decided? = none := by
  obtain ⟨jobSize, rfl⟩ := eq_progress_of_opened? opens
  rfl

/-- A stage that sends statements decides nothing, neither in opening nor later. -/
theorem OfSending.decided?_eq_none {stage : Stage} (ofSending : event.OfSending stage) :
    event.decided? = none := by
  rcases ofSending with opens | inSending
  · exact decided?_eq_none_of_opened? opens
  · cases inSending <;> rfl

/-- A stage that sends statements looks nothing up, neither in opening nor later. -/
theorem OfSending.lookedUp?_eq_none {stage : Stage} (ofSending : event.OfSending stage) :
    event.lookedUp? = none := by
  rcases ofSending with opens | inSending
  · obtain ⟨jobSize, rfl⟩ := eq_progress_of_opened? opens
    rfl
  · cases inSending <;> rfl

end Event

open Session (Steps)

/-- Statements are sent one after the other, each only while the flag is not set. After each that
was accepted follows a report with something done, so that nothing opens another stage. A statement
that is refused or does not come back is the last step. -/
theorem Sending.steps {σ : Type} {target : Target σ} {stage : Stage} {jobSize done last : Nat}
    {statements : List String} {session final : Session σ} {ending : Ending Unit}
    (sending : Sending target stage jobSize statements done session ending last final) :
    Steps Event.InSending session final := by
  have one : ∀ {statement : String} {session next : Session σ} {reply : Reply Unit},
      session.cancelled = false → target.executeIn statement session = (reply, next) →
        Steps Event.InSending session next := by
    intro statement session next reply unset executed
    have sends := Steps.single (target.step_executeIn session
      (Event.InSending.execute statement) unset)
    rwa [executed] at sends
  induction sending with
  | finished done session => exact Steps.refl session
  | cancelled statements done set => exact Steps.refl _
  | refused rest done unset executed subject => exact one unset executed
  | vanished rest done unset executed => exact one unset executed
  | @accepted statement rest done last session next final ending unset executed later
      inductionHypothesis =>
    have report := next.step_publish stage jobSize (done + 1)
      (Event.InSending.progress stage jobSize done) (by simp)
    exact ((one unset executed).trans (Steps.single report)).trans inductionHypothesis

namespace Scan

variable {σ : Type} (target : Target σ)

/-- A question about dependents. -/
def IsInquiry (event : Event) : Prop :=
  ∃ object, event = .dependents object

/-- Work that asks about dependents and does nothing else. It does not look at the cancel flag, so
it is not cancelled, whether the flag is set or not. -/
structure Inquires {α : Type} (before : Session σ) (result : Ending α × Session σ) : Prop where
  steps : before.Steps IsInquiry result.2
  uncancelled : result.1 ≠ .cancelled

/-- Work that is done has asked nothing. -/
theorem Inquires.finished {α : Type} (value : α) (session : Session σ) :
    Inquires session (.finished value, session) :=
  ⟨Steps.refl session, nofun⟩

/-- Work that goes on with the value of such work, and is such work for every value, is so too. The
questions of the first part come before those of the second. Neither part is cancelled, so the whole
is not. -/
theorem Inquires.andThen {α β : Type} {before : Session σ} {result : Ending α × Session σ}
    {continuation : α → Session σ → Ending β × Session σ} (first : Inquires before result)
    (second : ∀ value, Inquires result.2 (continuation value result.2)) :
    Inquires before (Ending.andThen result continuation) := by
  refine ⟨Ending.steps_andThen first.steps fun value => (second value).steps, ?_⟩
  have uncancelled := first.uncancelled
  rcases result with ⟨ending, between⟩
  cases ending with
  | finished value => exact (second value).uncancelled
  | cancelled => exact absurd rfl uncancelled
  | failed error => exact nofun
  | crashed => exact nofun

/-- A reply is taken as it comes: whatever it is, nothing is asked in taking it, and it does not
cancel anything. -/
theorem inquires_answered {α : Type} (object : DatabaseObject) (result : Reply α × Session σ) :
    Inquires result.2 (answered object result) := by
  rcases result with ⟨reply, next⟩
  cases reply with
  | answer value => exact .finished value next
  | failure cause => exact ⟨Steps.refl next, nofun⟩
  | crash => exact ⟨Steps.refl next, nofun⟩

/-- A question about dependents is one step, and its reply is taken as it comes. -/
theorem inquires_dependentsIn (object : DatabaseObject) (session : Session σ) :
    Inquires session (answered object (target.dependentsIn object session)) := by
  have step : session.Steps IsInquiry (target.dependentsIn object session).2 :=
    Steps.single (target.step_dependentsIn session ⟨object, rfl⟩)
  have taken := inquires_answered object (target.dependentsIn object session)
  exact ⟨step.trans taken.steps, taken.uncancelled⟩

/-- Growing trees one after the other is like growing each. If one of them does not come to an end,
those behind it are not grown at all. -/
theorem inquires_growEach
    {growOne : DatabaseObject → List ObjectKey → Session σ →
      Ending (ConflictTree × List ObjectKey) × Session σ}
    (inquires : ∀ object seen session, Inquires session (growOne object seen session))
    (objects : List DatabaseObject) (seen : List ObjectKey) (session : Session σ) :
    Inquires session (growEach growOne objects seen session) := by
  induction objects generalizing seen session with
  | nil => exact .finished _ session
  | cons object rest inductionHypothesis =>
    refine (inquires object seen session).andThen fun grown => ?_
    exact (inductionHypothesis grown.2 _).andThen fun _ => .finished _ _

/-- Growing a tree asks about dependents, whether the flag is set or not. -/
theorem inquires_grow (levels : Nat) (object : DatabaseObject) (seen : List ObjectKey)
    (session : Session σ) : Inquires session (grow target levels object seen session) := by
  induction levels generalizing object seen session with
  | zero => exact .finished _ session
  | succ levels inductionHypothesis =>
    refine (inquires_dependentsIn target object session).andThen fun found => ?_
    exact (inquires_growEach inductionHypothesis _ _ _).andThen fun _ => .finished _ _

/-- After the lookup of a subject only questions about dependents are asked, though the flag may be
set by then. -/
theorem inquires_inspect (subject : DatabaseObject) (session : Session σ) :
    Inquires (target.findIn subject session).2 (inspect target subject session) := by
  refine (inquires_answered subject (target.findIn subject session)).andThen fun found => ?_
  cases found with
  | none => exact .finished _ _
  | some root => exact (inquires_grow target _ root _ _).andThen fun _ => .finished _ _

/-- Questions about dependents belong to a scan. -/
theorem inScan_of_isInquiry (event : Event) (inquiry : IsInquiry event) : event.InScan := by
  obtain ⟨object, rfl⟩ := inquiry
  exact .dependents object

/-- A subject is inspected only while the flag is not set. -/
theorem steps_inspect (subject : DatabaseObject) (session : Session σ)
    (unset : session.cancelled = false) :
    Steps Event.InScan session (inspect target subject session).2 :=
  (Steps.single (target.step_findIn session (.find subject) unset)).trans
    ((inquires_inspect target subject session).steps.mono inScan_of_isInquiry)

/-- A scan that was opened takes the steps of a scan. The flag is not set where it looks up a
subject. What the target is asked about that subject follows whether or not it is set by then. -/
theorem steps_run (jobSize : Nat) (subjects : List DatabaseObject) (state : State)
    (session : Session σ) :
    Steps Event.InScan session (run target jobSize subjects state session).2.2 := by
  induction subjects generalizing state session with
  | nil => exact Steps.refl session
  | cons subject rest inductionHypothesis =>
    rw [run]
    split
    · exact Steps.refl session
    · rename_i unset
      have inspection := steps_inspect target subject session (by simpa using unset)
      rcases inspected : inspect target subject session with ⟨ending, next⟩
      rw [inspected] at inspection
      cases ending with
      | finished conflicts =>
        have report := next.step_publish .find jobSize (state.done + 1)
          (Event.InScan.progress jobSize state.done) (by simp)
        exact (inspection.trans (Steps.single report)).trans (inductionHypothesis _ _)
      | cancelled => exact inspection
      | failed error => exact inspection
      | crashed => exact inspection

/-- A view that does not see questions about dependents sees nothing of an inspection but its
lookup. -/
theorem seen_inspect {β : Type} (view : Event → Option β) (blind : view .cancelled = none)
    (unseen : ∀ object, view (.dependents object) = none) (subject : DatabaseObject)
    (session : Session σ) :
    (inspect target subject session).2.seen view =
      session.seen view ++ (view (.find subject)).toList := by
  have others := (inquires_inspect target subject session).steps.seen_eq view blind
    (by rintro _ ⟨object, rfl⟩; exact unseen object)
  rw [others]
  exact Session.seen_after blind _ _ _

/-- The lookups that a scan has made when it ends: those of the first of its subjects, and of all if
it ran to its end. It says that as many more are done if it was cancelled, and one fewer if it has
failed, since what has failed is the inspection that was begun last. -/
structure LooksUp (subjects looked : List DatabaseObject) (before : Session σ) (begun : Nat)
    (ending : Ending Unit) (done : Nat) (after : Session σ) : Prop where
  seen : after.seen Event.lookedUp? = before.seen Event.lookedUp? ++ looked
  isPrefix : looked <+: subjects
  all : ending = .finished () → looked = subjects
  counted : ending = .cancelled → done = begun + looked.length
  countedBut : ∀ error, ending = .failed error → done + 1 = begun + looked.length

/-- A scan looks up some of the first of its subjects. The proof goes along the subjects, as every
inspection makes one lookup and is counted when it has come to its end. -/
theorem run_looksUp (jobSize : Nat) (subjects : List DatabaseObject) (state : State)
    (session : Session σ) :
    let result := run target jobSize subjects state session
    ∃ looked, LooksUp subjects looked session state.done result.1 result.2.1.done
      result.2.2 := by
  induction subjects generalizing state session with
  | nil =>
    exact ⟨[], by simp [run], List.prefix_rfl, fun _ => rfl, by simp [run], by simp [run]⟩
  | cons subject rest inductionHypothesis =>
    dsimp only
    rw [run]
    split
    · exact ⟨[], by simp, List.nil_prefix, by simp, by simp, by simp⟩
    · have here := seen_inspect target Event.lookedUp? rfl (fun _ => rfl) subject session
      have uncancelled := (inquires_inspect target subject session).uncancelled
      rcases inspected : inspect target subject session with ⟨ending, next⟩
      rw [inspected] at here uncancelled
      cases ending with
      | finished conflicts =>
        obtain ⟨looked, later⟩ := inductionHypothesis ⟨state.found ++ conflicts, state.done + 1⟩
          (next.publish .find jobSize (state.done + 1))
        refine ⟨subject :: looked, ?_, (List.prefix_cons_inj subject).mpr later.isPrefix, ?_, ?_,
          ?_⟩
        · rw [later.seen, Session.seen_publish rfl, here]
          simp [Event.lookedUp?]
        · exact fun finished => congrArg (subject :: ·) (later.all finished)
        · intro cancelled
          rw [later.counted cancelled, List.length_cons, Nat.add_right_comm, Nat.add_assoc]
        · intro error failed
          rw [later.countedBut error failed, List.length_cons, Nat.add_right_comm, Nat.add_assoc]
      | cancelled => exact absurd rfl uncancelled
      | failed error => exact ⟨[subject], here, by simp, by simp, by simp, by simp⟩
      | crashed => exact ⟨[subject], here, by simp, by simp, by simp, by simp⟩

end Scan

namespace Clearance

variable {σ : Type} (target : Target σ)

/-- What a clearance is after its search. -/
def scanned (clearance : Clearance) (ending : Ending Unit) (state : Scan.State) : Clearance :=
  match ending with
  | .finished () =>
    { clearance with
      started := true, conflicts := state.found, progress := state.done, finished := true }
  | _ => { clearance with started := true, progress := state.done }

section Scanned

variable (clearance : Clearance) (ending : Ending Unit) (state : Scan.State)

/-- The progress of a clearance is what its scan has come to, however that ended. -/
@[simp]
theorem progress_scanned : (clearance.scanned ending state).progress = state.done := by
  cases ending <;> rfl

/-- A search does not change what it searches for. -/
@[simp]
theorem subjects_scanned : (clearance.scanned ending state).subjects = clearance.subjects := by
  cases ending <;> rfl

/-- A clearance has searched even if its search was cancelled or failed, so it does not search
again. -/
@[simp]
theorem started_scanned : (clearance.scanned ending state).started = true := by
  cases ending <;> rfl

end Scanned

/-- A clearance searches by a scan of its subjects. What it makes of the ending of that scan is told
by the number of subjects done, and by the conflicts if it ran to its end. -/
theorem find_eq {clearance : Clearance} (fresh : clearance.started = false)
    (session : Session σ) :
    let ran := Scan.run target clearance.jobSize clearance.subjects ⟨[], clearance.progress⟩
      (session.publish .find clearance.jobSize 0)
    clearance.find target session = (ran.1, clearance.scanned ran.1 ran.2.1, ran.2.2) := by
  intro ran
  rw [find, if_neg (by simp [fresh])]
  rcases scan : Scan.run target clearance.jobSize clearance.subjects ⟨[], clearance.progress⟩
    (session.publish .find clearance.jobSize 0) with ⟨ending, state, next⟩
  rw [show ran = _ from scan]
  cases ending <;> rfl

/-- A clearance looks for conflicts only once. -/
theorem find_of_started {clearance : Clearance} (started : clearance.started = true)
    (session : Session σ) : clearance.find target session =
      (.failed (.invalidState .scannedAlready), clearance, session) := by
  rw [find, if_pos started]

/-- A search drops nothing. -/
theorem dropped_find (clearance : Clearance) (session : Session σ) :
    (clearance.find target session).2.1.dropped = clearance.dropped := by
  rw [find]
  split
  · rfl
  · split <;> rfl

/-- What happens while a clearance looks for conflicts. -/
def IsSearch (event : Event) : Prop :=
  event.opened? = some .find ∨ event.InScan

/-- Looking for conflicts opens a stage and scans. The flag is not set when the stage is opened, as
the run would not have come here otherwise. -/
theorem steps_find (clearance : Clearance) (session : Session σ)
    (unset : session.cancelled = false) :
    Steps IsSearch session (clearance.find target session).2.2 := by
  have opening : Steps IsSearch session (session.publish .find clearance.jobSize 0) :=
    Steps.single (session.step_publish .find _ 0 (Or.inl rfl) fun _ => unset)
  have scanning : Steps IsSearch (session.publish .find clearance.jobSize 0)
      (Scan.run target clearance.jobSize clearance.subjects ⟨[], clearance.progress⟩
        (session.publish .find clearance.jobSize 0)).2.2 :=
    (Scan.steps_run target _ _ _ _).mono fun _ => Or.inr
  rw [find]
  split
  · exact Steps.refl session
  · rcases ran : Scan.run target clearance.jobSize clearance.subjects ⟨[], clearance.progress⟩
      (session.publish .find clearance.jobSize 0) with ⟨ending, state, next⟩
    rw [ran] at scanning
    cases ending <;> exact opening.trans scanning

/-- Looking for conflicts opens the first stage. It does so once, before anything is looked up, and
the scan opens nothing further. -/
theorem opened_find (clearance : Clearance) (session : Session σ)
    (notStarted : clearance.started = false) :
    (clearance.find target session).2.2.seen Event.opened? =
      session.seen Event.opened? ++ [.find] := by
  have unseen := (Scan.steps_run target clearance.jobSize clearance.subjects
    ⟨[], clearance.progress⟩ (session.publish .find clearance.jobSize 0)).seen_eq
    Event.opened? rfl fun _ => Event.InScan.opened?_eq_none
  rw [Session.seen_publish rfl] at unseen
  rw [find, if_neg (by simp [notStarted])]
  rcases ran : Scan.run target clearance.jobSize clearance.subjects ⟨[], clearance.progress⟩
    (session.publish .find clearance.jobSize 0) with ⟨ending, state, next⟩
  rw [ran] at unseen
  cases ending <;> exact unseen

/-- Looking for the conflicts of a script looks up what the script creates. The report that opens
the stage is no lookup, so what the run over its subjects has looked up is all. -/
theorem find_looksUp (dialect : Dialect) (statements : List Statement) (session : Session σ) :
    let clearance := ofScript dialect statements
    let result := clearance.find target session
    ∃ looked, Scan.LooksUp clearance.subjects looked session 0 result.1
      result.2.1.progress result.2.2 := by
  intro clearance result
  obtain ⟨looked, lookups⟩ := Scan.run_looksUp target clearance.jobSize clearance.subjects ⟨[], 0⟩
    (session.publish .find clearance.jobSize 0)
  refine ⟨looked, ?_⟩
  have unseen : (session.publish .find clearance.jobSize 0).seen Event.lookedUp? =
      session.seen Event.lookedUp? := by
    rw [Session.seen_publish rfl]
    exact List.append_nil _
  rw [show result = (ofScript dialect statements).find target session from rfl, find,
    if_neg (by simp [ofScript])]
  rcases ran : Scan.run target clearance.jobSize clearance.subjects ⟨[], 0⟩
    (session.publish .find clearance.jobSize 0) with ⟨ending, state, next⟩
  rw [show (ofScript dialect statements).progress = 0 from rfl, ran]
  rw [ran] at lookups
  cases ending <;> exact ⟨unseen ▸ lookups.seen, lookups.isPrefix, lookups.all, lookups.counted,
    lookups.countedBut⟩

/-- A search that ran to its end makes a clearance ready to drop, for the same dialect. What it is
to drop is written for the dialect it was made with. -/
theorem of_find_finished (clearance : Clearance) (session : Session σ)
    (finished : (clearance.find target session).1 = .finished ()) :
    (clearance.find target session).2.1.finished = true ∧
      (clearance.find target session).2.1.dialect = clearance.dialect := by
  rw [find] at finished ⊢
  split at finished
  · cases finished
  · rename_i notStarted
    rw [if_neg notStarted]
    rcases ran : Scan.run target clearance.jobSize clearance.subjects ⟨[], clearance.progress⟩
      (session.publish .find clearance.jobSize 0) with ⟨ending, state, next⟩
    rw [ran] at finished
    cases ending with
    | finished => exact ⟨rfl, rfl⟩
    | cancelled => cases finished
    | failed error => cases finished
    | crashed => cases finished

/-- Drops are sent in the second stage. If the count that is kept is that of what is done, it is so
in the end. -/
theorem sending_runDrops (jobSize : Nat) (steps : List DropStep) (done dropped : Nat)
    (session : Session σ) :
    let result := runDrops target jobSize steps done dropped session
    ∃ last, Sending target .resolve jobSize (steps.map DropStep.statement) done session result.1
        last result.2.2 ∧
      (dropped = done → result.2.1 = last) := by
  induction steps generalizing done dropped session with
  | nil => exact ⟨done, .finished done session, id⟩
  | cons planned rest inductionHypothesis =>
    rw [runDrops]
    split
    · exact ⟨done, .cancelled _ done ‹_›, id⟩
    · rename_i notSet
      have unset : session.cancelled = false := by simpa using notSet
      rcases executed : target.executeIn planned.statement session with ⟨reply, next⟩
      cases reply with
      | answer =>
        obtain ⟨last, later, same⟩ := inductionHypothesis (done + 1) (done + 1)
          (next.publish .resolve jobSize (done + 1))
        exact ⟨last, .accepted unset executed later, fun _ => same rfl⟩
      | failure error => exact ⟨done, .refused _ done unset executed _, id⟩
      | crash => exact ⟨done, .vanished _ done unset executed, id⟩

/-- Drops are sent one after the other, each only while the flag is not set. -/
theorem steps_runDrops (jobSize : Nat) (steps : List DropStep) (done dropped : Nat)
    (session : Session σ) :
    Steps Event.InSending session (runDrops target jobSize steps done dropped session).2.2 := by
  obtain ⟨last, sending, -⟩ := sending_runDrops target jobSize steps done dropped session
  exact sending.steps

/-- Dropping conflicts opens a stage and sends the drops. Without a plan it does neither, and fails
before the stage is opened. -/
theorem steps_drop (clearance : Clearance) (session : Session σ)
    (unset : session.cancelled = false) :
    Steps (·.OfSending .resolve) session (clearance.drop target session).2.2 := by
  rw [drop]
  split
  · cases clearance.plan with
    | error error => exact Steps.refl session
    | ok drops =>
      have opening : Steps (·.OfSending .resolve) session
          (session.publish .resolve drops.length 0) :=
        Steps.single (session.step_publish .resolve _ 0 (Or.inl rfl) fun _ => unset)
      exact opening.trans ((steps_runDrops target _ _ _ _ _).mono fun _ => Or.inr)
  · exact Steps.refl session

/-- Dropping planned conflicts opens the second stage. It does so once. Without a search that ran to
its end, or without a plan, the stage is not opened. -/
theorem opened_drop {clearance : Clearance} (session : Session σ) {drops : List DropStep}
    (finished : clearance.finished = true) (planned : clearance.plan = .ok drops) :
    (clearance.drop target session).2.2.seen Event.opened? =
      session.seen Event.opened? ++ [.resolve] := by
  have unseen := (steps_runDrops target drops.length drops 0 clearance.dropped
    (session.publish .resolve drops.length 0)).seen_eq
    Event.opened? rfl fun _ => Event.InSending.opened?_eq_none
  rw [Session.seen_publish rfl] at unseen
  rw [drop, if_pos finished, planned]
  exact unseen

end Clearance

end SchemaForward
