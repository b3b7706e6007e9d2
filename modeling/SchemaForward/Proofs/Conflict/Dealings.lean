import SchemaForward.Proofs.Conflict.Counting
import SchemaForward.Proofs.Conflict.Scan

/-!
# Dealings with a clearance

A clearance may be called upon in any order: to look for conflicts, to drop them, to tell what it
would drop, and its work may be cancelled. Whatever the calls were and whatever the target did, it
has searched once at most, and what it says of itself is what that search has come to. A search that
ran to its end has inspected every subject; after any other there is nothing to drop.

A call that does not come back is the last one, as nobody is left to make another.
-/

namespace SchemaForward

/-- A report of progress looks nothing up. -/
theorem Session.looked_publish {σ : Type} (session : Session σ) (stage : Stage)
    (jobSize done : Nat) : (session.publish stage jobSize done).seen Event.lookedUp? =
      session.seen Event.lookedUp? :=
  (seen_publish rfl session stage jobSize done).trans (List.append_nil _)

namespace Scan

variable {σ : Type} (target : Target σ)

/-- The subjects that a scan looks up, each with the session in which it does. -/
def visits (jobSize : Nat) : List DatabaseObject → Nat → Session σ →
    List (DatabaseObject × Session σ)
  | [], _, _ => []
  | subject :: rest, done, session =>
    if session.cancelled then []
    else
      (subject, session) ::
        match inspect target subject session with
        | (.finished _, next) =>
          visits jobSize rest (done + 1) (next.publish .find jobSize (done + 1))
        | _ => []

/-- A subject was looked up, and all that depends on what was found was collected. -/
def completes (visit : DatabaseObject × Session σ) : Bool :=
  (inspect target visit.1 visit.2).1.isFinished

/-- A scan looks up what it visits, and counts the visits that it completes. They are the first of
its subjects: it stops at the first visit that is not completed, and before any visit if the flag is
set. -/
theorem run_visits (jobSize : Nat) (subjects : List DatabaseObject) (state : State)
    (session : Session σ) :
    let result := run target jobSize subjects state session
    let visited := visits target jobSize subjects state.done session
    result.2.1.done = state.done + visited.countP (completes target) ∧
      result.2.2.seen Event.lookedUp? = session.seen Event.lookedUp? ++ visited.map Prod.fst ∧
      visited.map Prod.fst <+: subjects := by
  induction subjects generalizing state session with
  | nil => exact ⟨rfl, (List.append_nil _).symm, List.prefix_rfl⟩
  | cons subject rest inductionHypothesis =>
    dsimp only
    rw [run, visits]
    split
    · exact ⟨rfl, (List.append_nil _).symm, List.nil_prefix⟩
    · have looked := seen_inspect target Event.lookedUp? rfl (fun _ => rfl) subject session
      rcases inspected : inspect target subject session with ⟨ending, next⟩
      rw [inspected] at looked
      have completed : completes target (subject, session) = ending.isFinished := by
        rw [completes, inspected]
      cases ending with
      | finished conflicts =>
        obtain ⟨counted, lookedLater, isPrefix⟩ := inductionHypothesis
          ⟨state.found ++ conflicts, state.done + 1⟩ (next.publish .find jobSize (state.done + 1))
        refine ⟨?_, ?_, (List.prefix_cons_inj subject).mpr isPrefix⟩
        · rw [counted, List.countP_cons_of_pos completed, Nat.add_assoc, Nat.add_comm 1]
        · rw [lookedLater, Session.looked_publish, looked, List.append_assoc]
          rfl
      | cancelled => exact ⟨by simp [completed, Ending.isFinished], looked, by simp⟩
      | failed error => exact ⟨by simp [completed, Ending.isFinished], looked, by simp⟩
      | crashed => exact ⟨by simp [completed, Ending.isFinished], looked, by simp⟩

end Scan

/-- A call on a clearance, or the wish that its work be cancelled. -/
inductive ClearanceCall where
  | find
  | drop
  | plan
  | cancel
  deriving DecidableEq, Repr

/-- What came of a call. A search tells what it has visited. -/
inductive Dealing (σ : Type) where
  | find (visits : List (DatabaseObject × Session σ)) (ending : Ending Unit)
  | drop (ending : Ending Unit)
  | plan (answer : Except Failure (List DropStep))
  | cancel

namespace Dealing

variable {σ : Type}

/-- The visits of a call. -/
def visits : Dealing σ → List (DatabaseObject × Session σ)
  | .find visits _ => visits
  | _ => []

/-- The call was one to look for conflicts. -/
def isFind : Dealing σ → Bool
  | .find _ _ => true
  | _ => false

/-- The call was a search that ran to its end. -/
def isFound : Dealing σ → Bool
  | .find _ ending => ending.isFinished
  | _ => false

/-- The call came back. -/
def returned : Dealing σ → Bool
  | .find _ .crashed => false
  | .drop .crashed => false
  | _ => true

end Dealing

namespace Clearance

variable {σ : Type} (target : Target σ)

/-- What a search visits: its subjects, if it is the first. -/
def visits (clearance : Clearance) (session : Session σ) : List (DatabaseObject × Session σ) :=
  if clearance.started then []
  else
    Scan.visits target clearance.jobSize clearance.subjects clearance.progress
      (session.publish .find clearance.jobSize 0)

/-- Makes one call. -/
def deal (clearance : Clearance) (session : Session σ) :
    ClearanceCall → Dealing σ × Clearance × Session σ
  | .find =>
    let (ending, after, next) := clearance.find target session
    (.find (clearance.visits target session) ending, after, next)
  | .drop =>
    let (ending, after, next) := clearance.drop target session
    (.drop ending, after, next)
  | .plan => (.plan clearance.plan, clearance, session)
  | .cancel => (.cancel, clearance, session.cancel)

/-- Makes calls in order, up to the first that does not come back. -/
def dealings : List ClearanceCall → Clearance → Session σ →
    List (Dealing σ) × Clearance × Session σ
  | [], clearance, session => ([], clearance, session)
  | call :: rest, clearance, session =>
    let (dealing, after, next) := clearance.deal target session call
    if dealing.returned then
      let (others, last, final) := dealings rest after next
      (dealing :: others, last, final)
    else ([dealing], after, next)

/-- What is kept by all calls on a clearance that began with a script. -/
structure Dealt (subjects : List DatabaseObject) (before : Session σ)
    (history : List (Dealing σ)) (clearance : Clearance) (now : Session σ) : Prop where
  sameSubjects : clearance.subjects = subjects
  started : clearance.started = history.any Dealing.isFind
  finished : clearance.finished = history.any Dealing.isFound
  fresh : clearance.started = false → history.flatMap Dealing.visits = []
  progress : clearance.progress = (history.flatMap Dealing.visits).countP (Scan.completes target)
  within : clearance.progress ≤ clearance.jobSize
  all : clearance.finished = true → clearance.progress = clearance.jobSize
  discarded : clearance.finished = false → clearance.conflicts = []
  searches : (now.seen Event.opened?).count .find =
    (before.seen Event.opened?).count .find + clearance.started.toNat
  looked : now.seen Event.lookedUp? =
    before.seen Event.lookedUp? ++ (history.flatMap Dealing.visits).map Prod.fst
  isPrefix : (history.flatMap Dealing.visits).map Prod.fst <+: subjects

/-- Nothing is dropped without a search that ran to its end. -/
theorem drop_of_unfinished {clearance : Clearance} (unfinished : clearance.finished = false)
    (session : Session σ) :
    clearance.drop target session = (.failed (.invalidState .notScanned), clearance, session) := by
  rw [drop, if_neg (by simp [unfinished])]

/-- What a clearance is after its first search. Whatever comes of the search, it counts as started.
Only if it ran to its end does it count as finished and are its conflicts kept. -/
theorem find_of_fresh {clearance : Clearance} (fresh : clearance.started = false)
    (unfinished : clearance.finished = false) (session : Session σ) :
    let result := clearance.find target session
    result.2.1.started = true ∧ result.2.1.subjects = clearance.subjects ∧
      result.2.1.finished = result.1.isFinished ∧
      (result.1.isFinished = false → result.2.1.conflicts = clearance.conflicts) := by
  intro result
  rw [show result = _ from find_eq target fresh session]
  refine ⟨clearance.started_scanned _ _, clearance.subjects_scanned _ _, ?_⟩
  dsimp only
  generalize Scan.run target clearance.jobSize clearance.subjects ⟨[], clearance.progress⟩
    (session.publish .find clearance.jobSize 0) = ran
  cases ending : ran.1 with
  | finished => exact ⟨rfl, nofun⟩
  | _ => exact ⟨unfinished, fun _ => rfl⟩

/-- The first search looks up what it visits, and counts the visits that it completes. It begins
with nothing done, so its progress is that number and no more. -/
theorem find_visits {clearance : Clearance} (fresh : clearance.started = false)
    (nothing : clearance.progress = 0) (session : Session σ) :
    let result := clearance.find target session
    let visited := clearance.visits target session
    result.2.1.progress = visited.countP (Scan.completes target) ∧
      result.2.2.seen Event.lookedUp? = session.seen Event.lookedUp? ++ visited.map Prod.fst ∧
      visited.map Prod.fst <+: clearance.subjects := by
  intro result visited
  obtain ⟨counted, looked, isPrefix⟩ := Scan.run_visits target clearance.jobSize
    clearance.subjects ⟨[], clearance.progress⟩ (session.publish .find clearance.jobSize 0)
  rw [Session.looked_publish] at looked
  rw [show result = _ from find_eq target fresh session,
    show visited = clearance.visits target session from rfl, visits, if_neg (by simp [fresh])]
  refine ⟨?_, looked, isPrefix⟩
  rw [progress_scanned, counted]
  simp [nothing]

/-- Dropping changes no more of a clearance than the number of drops, and neither searches nor looks
anything up. -/
theorem drop_keeps (clearance : Clearance) (session : Session σ) :
    let result := clearance.drop target session
    (∃ dropped, result.2.1 = { clearance with dropped }) ∧
      (result.2.2.seen Event.opened?).count .find = (session.seen Event.opened?).count .find ∧
      result.2.2.seen Event.lookedUp? = session.seen Event.lookedUp? := by
  intro result
  have dropping : result = clearance.drop target session := rfl
  by_cases ready : clearance.finished = true
  · cases planned : clearance.plan with
    | error error =>
      rw [drop, if_pos ready, planned] at dropping
      rw [dropping]
      exact ⟨⟨clearance.dropped, rfl⟩, rfl, rfl⟩
    | ok drops =>
      have opened := opened_drop target session ready planned
      have unseen := (steps_runDrops target drops.length drops 0 clearance.dropped
        (session.publish .resolve drops.length 0)).seen_eq Event.lookedUp? rfl
        fun event inSending =>
          Event.OfSending.lookedUp?_eq_none (show event.OfSending .resolve from Or.inr inSending)
      rw [← dropping] at opened
      rw [drop, if_pos ready, planned] at dropping
      refine ⟨⟨_, congrArg (·.2.1) dropping⟩, by simp [opened], ?_⟩
      rw [dropping, unseen, Session.looked_publish]
  · rw [dropping, drop_of_unfinished target (by simpa using ready) session]
    exact ⟨⟨clearance.dropped, rfl⟩, rfl, rfl⟩

variable {target} {subjects : List DatabaseObject} {before : Session σ}
  {history : List (Dealing σ)} {clearance after : Clearance} {now next : Session σ}

/-- A call that does not search keeps what is kept. What it may change is the number of drops, of
which nothing is said here. It has no visits, so the progress counts what it did before. -/
theorem Dealt.of_unsearched (dealt : Dealt target subjects before history clearance now)
    {dealing : Dealing σ} (unsearched : dealing.isFind = false) {dropped : Nat}
    (same : after = { clearance with dropped })
    (opened : (next.seen Event.opened?).count .find = (now.seen Event.opened?).count .find)
    (looked : next.seen Event.lookedUp? = now.seen Event.lookedUp?) :
    Dealt target subjects before (history ++ [dealing]) after next := by
  subst same
  have unfound : dealing.isFound = false := by
    cases dealing with
    | find visits ending => cases unsearched
    | _ => rfl
  have unvisited : (history ++ [dealing]).flatMap Dealing.visits =
      history.flatMap Dealing.visits := by
    cases dealing with
    | find visits ending => cases unsearched
    | _ => simp [Dealing.visits]
  refine ⟨dealt.sameSubjects, ?_, ?_, ?_, ?_, dealt.within, dealt.all, dealt.discarded, ?_, ?_, ?_⟩
  · simp [dealt.started, unsearched]
  · simp [dealt.finished, unfound]
  · rw [unvisited]
    exact dealt.fresh
  · rw [unvisited]
    exact dealt.progress
  · rw [opened]
    exact dealt.searches
  · rw [unvisited, looked]
    exact dealt.looked
  · rw [unvisited]
    exact dealt.isPrefix

/-- A search that is not the first finds nothing to do. It is an error that leaves the clearance and
the session as they were, and has no visits. -/
theorem Dealt.find_again (dealt : Dealt target subjects before history clearance now)
    (started : clearance.started = true) :
    let result := clearance.deal target now .find
    Dealt target subjects before (history ++ [result.1]) result.2.1 result.2.2 := by
  intro result
  have unvisited : clearance.visits target now = [] := by rw [visits, if_pos started]
  rw [show result = clearance.deal target now .find from rfl, deal,
    find_of_started target started, unvisited]
  refine ⟨dealt.sameSubjects, ?_, ?_, ?_, ?_, dealt.within, dealt.all, dealt.discarded,
    dealt.searches, ?_, ?_⟩
  · simp [started, Dealing.isFind]
  · simp [dealt.finished, Dealing.isFound, Ending.isFinished]
  · simp [started]
  · simpa [Dealing.visits] using dealt.progress
  · simpa [Dealing.visits] using dealt.looked
  · simpa [Dealing.visits] using dealt.isPrefix

/-- The first search begins with nothing and decides what is kept from then on. There were no visits
before it, so what it counts is all there is to count. If it does not run to its end, the clearance
is left with the conflicts that it had, which are none. -/
theorem Dealt.find_first (dealt : Dealt target subjects before history clearance now)
    (fresh : clearance.started = false) :
    let result := clearance.deal target now .find
    Dealt target subjects before (history ++ [result.1]) result.2.1 result.2.2 := by
  intro result
  -- Nobody has searched before, so the history has no visits to count.
  have unvisited := dealt.fresh fresh
  have nothing : clearance.progress = 0 := by rw [dealt.progress, unvisited]; rfl
  have unfound : history.any Dealing.isFound = false := by
    have unsearched := dealt.started.symm.trans fresh
    rw [List.any_eq_false] at unsearched ⊢
    intro dealing member found
    refine unsearched dealing member ?_
    cases dealing <;> first | rfl | cases found
  have unfinished : clearance.finished = false := dealt.finished.trans unfound
  obtain ⟨started, sameSubjects, finished, conflicts⟩ :=
    find_of_fresh target fresh unfinished now
  obtain ⟨counted, looked, isPrefix⟩ := find_visits target fresh nothing now
  obtain ⟨sameSize, counts⟩ := find_countsUp target fresh nothing now
  have opened := opened_find target clearance now fresh
  have searches := dealt.searches
  rw [show result = clearance.deal target now .find from rfl, deal]
  rcases searched : clearance.find target now with ⟨ending, after, next⟩
  rw [searched] at started sameSubjects finished conflicts counted looked sameSize counts opened
  dsimp only at started sameSubjects finished conflicts counted looked sameSize counts opened
  have visited : (history ++ [Dealing.find (clearance.visits target now) ending]).flatMap
      Dealing.visits = clearance.visits target now := by
    rw [List.flatMap_append, unvisited]
    exact List.append_nil _
  refine ⟨sameSubjects.trans dealt.sameSubjects, ?_, ?_, ?_, ?_, ?_, ?_, ?_, ?_, ?_, ?_⟩
  · simp [started, Dealing.isFind]
  · simp [finished, unfound, Dealing.isFound]
  · simp [started]
  · rw [visited]
    exact counted
  · rw [sameSize]
    exact counts.within
  · intro isFinished
    rw [sameSize]
    exact counts.all (finished.symm.trans isFinished)
  · intro isUnfinished
    rw [conflicts (finished.symm.trans isUnfinished)]
    exact dealt.discarded unfinished
  · rw [opened, List.count_append, searches, fresh, started]
    rfl
  · rw [visited, looked, dealt.looked, unvisited]
    simp
  · rw [visited, ← dealt.sameSubjects]
    exact isPrefix

/-- Each call keeps what is kept. A search is either the first or not. Dropping, planning and the
wish to cancel search for nothing. -/
theorem Dealt.deal (dealt : Dealt target subjects before history clearance now)
    (call : ClearanceCall) :
    let result := clearance.deal target now call
    Dealt target subjects before (history ++ [result.1]) result.2.1 result.2.2 := by
  cases call with
  | find =>
    cases started : clearance.started with
    | true => exact dealt.find_again started
    | false => exact dealt.find_first started
  | drop =>
    obtain ⟨⟨dropped, same⟩, opened, looked⟩ := drop_keeps target clearance now
    exact dealt.of_unsearched rfl same opened looked
  | plan => exact dealt.of_unsearched rfl rfl rfl rfl
  | cancel =>
    have quiet : ∀ {α : Type} (view : Event → Option α), view .cancelled = none →
        now.cancel.seen view = now.seen view := fun _ blind => Session.seen_cancelIf blind now true
    exact dealt.of_unsearched rfl rfl (congrArg (List.count Stage.find) (quiet _ rfl)) (quiet _ rfl)

/-- So do all calls in order. The induction is on the calls, with the history growing by what each
of them came to. -/
theorem Dealt.dealings (dealt : Dealt target subjects before history clearance now)
    (calls : List ClearanceCall) :
    let result := dealings target calls clearance now
    Dealt target subjects before (history ++ result.1) result.2.1 result.2.2 := by
  induction calls generalizing history clearance now with
  | nil => simpa [Clearance.dealings] using dealt
  | cons call rest inductionHypothesis =>
    have here := dealt.deal call
    rw [Clearance.dealings]
    rcases dealt : clearance.deal target now call with ⟨dealing, after, next⟩
    rw [dealt] at here
    dsimp only at here ⊢
    split
    · simpa using inductionHypothesis here
    · exact here

/-- Nothing has happened to a clearance that nobody has called upon. It has not searched, has no
conflicts and has looked nothing up. -/
theorem Dealt.nil (dialect : Dialect) (statements : List Statement) (session : Session σ) :
    Dealt target (ofScript dialect statements).subjects session []
      (ofScript dialect statements) session where
  sameSubjects := rfl
  started := rfl
  finished := rfl
  fresh _ := rfl
  progress := rfl
  within := Nat.zero_le _
  all := nofun
  discarded _ := rfl
  searches := rfl
  looked := (List.append_nil _).symm
  isPrefix := List.nil_prefix

/-- Whatever calls are made on the clearance of a script, and whatever the target does, it searches
at most once: once it has been called upon to, a further call is an error that changes nothing. What
was looked up are some of the first objects of the script, each once. The progress is the number of
those whose lookup came to its end with all that depends on what was found, and never exceeds the
number of objects. A search that ran to its end has done them all. Without one there are no
conflicts, and dropping is an error that changes nothing. -/
theorem dealings_search_once (target : Target σ) (dialect : Dialect)
    (statements : List Statement) (calls : List ClearanceCall) (session : Session σ) :
    let first := ofScript dialect statements
    let result := dealings target calls first session
    let history := result.1
    let clearance := result.2.1
    let visited := history.flatMap Dealing.visits
    ((result.2.2.seen Event.opened?).count .find =
        (session.seen Event.opened?).count .find + (history.any Dealing.isFind).toNat ∧
      (history.any Dealing.isFind = true → ∀ later : Session σ, clearance.find target later =
        (.failed (.invalidState .scannedAlready), clearance, later))) ∧
    (result.2.2.seen Event.lookedUp? = session.seen Event.lookedUp? ++ visited.map Prod.fst ∧
      visited.map Prod.fst <+: first.subjects) ∧
    (clearance.jobSize = first.subjects.length ∧ clearance.progress ≤ clearance.jobSize ∧
      clearance.progress = visited.countP (Scan.completes target)) ∧
    (history.any Dealing.isFound = true → clearance.progress = clearance.jobSize) ∧
    (history.any Dealing.isFound = false → clearance.conflicts = [] ∧
      ∀ later : Session σ, clearance.drop target later =
        (.failed (.invalidState .notScanned), clearance, later)) := by
  intro first result history clearance visited
  have dealt : Dealt target first.subjects session history clearance result.2.2 :=
    (Dealt.nil dialect statements session).dealings calls
  refine ⟨⟨?_, fun searched later => ?_⟩, ⟨dealt.looked, dealt.isPrefix⟩, ⟨?_, dealt.within,
    dealt.progress⟩, fun found => dealt.all (dealt.finished.trans found), fun unfound => ?_⟩
  · rw [← dealt.started]
    exact dealt.searches
  · exact find_of_started target (dealt.started.trans searched) later
  · exact congrArg List.length dealt.sameSubjects
  · have unfinished := dealt.finished.trans unfound
    exact ⟨dealt.discarded unfinished, drop_of_unfinished target unfinished⟩

/-- A search that fails in the middle of a closure is not made up for by another. Of three tables
that it has looked up two are done: one with what depends on it, and one that is not there. The
third is there, but what depends on it cannot be collected, so that lookup does not count. Nothing
is left to drop. -/
theorem dealings_refused_once :
    let refusing := FixedCatalogue.ring.refusingQuestion "other" "busy"
    let script := ["leaf", "fresh", "base", "last"].flatMap FixedCatalogue.creationOf
    let result := dealings FixedCatalogue.calls [.drop, .find, .find, .drop]
      (ofScript Dialect.Known.generic script) (Session.start refusing)
    result.2.2.seen Event.lookedUp? = ["leaf", "fresh", "base"].map FixedCatalogue.tableOf ∧
      result.2.1.jobSize = 4 ∧ result.2.1.progress = 2 ∧ result.2.1.conflicts = [] ∧
      (result.2.1.find FixedCatalogue.calls result.2.2).1 =
        .failed (.invalidState .scannedAlready) ∧
      (result.2.1.drop FixedCatalogue.calls result.2.2).1 =
        .failed (.invalidState .notScanned) := by
  intro refusing script
  obtain ⟨⟨-, again⟩, ⟨looked, -⟩, ⟨size, -, counted⟩, -, unfound⟩ :=
    dealings_search_once FixedCatalogue.calls Dialect.Known.generic script
      [.drop, .find, .find, .drop] (Session.start refusing)
  have searched := again (by decide +kernel)
  have nothing := unfound (by decide +kernel)
  dsimp only
  refine ⟨looked.trans ?_, size.trans ?_, counted.trans ?_, nothing.1,
    congrArg Prod.fst (searched _), congrArg Prod.fst (nothing.2 _)⟩
  -- What is left is which objects were looked up and how many of these lookups were completed.
  all_goals decide +kernel

end Clearance

end SchemaForward
