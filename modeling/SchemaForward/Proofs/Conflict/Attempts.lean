import Mathlib.Algebra.Order.BigOperators.Group.List
import Mathlib.Algebra.Order.Ring.Nat
import SchemaForward.Dialect.Known
import SchemaForward.Proofs.Conflict.Dealings
import SchemaForward.Proofs.Conflict.Rounds
import SchemaForward.Proofs.Conflict.FirstReady

/-!
# Attempts to drop

Conflicts may be dropped more than once by the same clearance. Each attempt makes the same plan and
begins with its first drop, whether the target has accepted it before or not, and goes on until a
drop is refused or the work is cancelled. The number of drops that is kept is that of the last
attempt that had one accepted; those of earlier attempts are forgotten.

So the number is that of all accepted drops exactly if no two attempts had one accepted, and no drop
is issued again after it was accepted exactly if nothing at all is issued after such an attempt.
-/

namespace SchemaForward

/-- A drop that was issued, and whether the target accepted it. -/
abbrev Issue := DropStep × Bool

namespace Issue

/-- The statement that was sent. -/
def sent (issue : Issue) : String × Bool :=
  (issue.1.statement, issue.2)

/-- The number of accepted drops. -/
def accepted (issues : List Issue) : Nat :=
  issues.countP (·.2)

/-- A statement that was accepted counts as one more. -/
theorem accepted_cons_of_accepted (step : DropStep) (issues : List Issue) :
    accepted ((step, true) :: issues) = accepted issues + 1 :=
  List.countP_cons_of_pos rfl

/-- No object is dropped again once its drop was accepted. -/
def NeverRepeats (issues : List Issue) : Prop :=
  issues.Pairwise fun earlier later =>
    earlier.2 = true → later.1.object.key ≠ earlier.1.object.key

/-- The numbers of accepted drops of the attempts that had some. -/
def successes (attempts : List (List Issue)) : List Nat :=
  (attempts.map accepted).filter (0 < ·)

/-- One more attempt is counted if it had a drop accepted. -/
theorem successes_append (attempts : List (List Issue)) (last : List Issue) :
    successes (attempts ++ [last]) =
      successes attempts ++ if accepted last = 0 then [] else [accepted last] := by
  rw [successes, List.map_append, List.filter_append, List.map_singleton]
  by_cases none : accepted last = 0
  · rw [if_pos none, none]
    rfl
  · rw [if_neg none, List.filter_cons_of_pos (by simpa using Nat.pos_of_ne_zero none)]
    rfl

/-- All accepted drops were so in attempts that had some. An attempt of which nothing was accepted
adds nothing to either side. -/
theorem accepted_flatten (attempts : List (List Issue)) :
    accepted attempts.flatten = (successes attempts).sum := by
  induction attempts using List.reverseRecOn with
  | nil => rfl
  | append_singleton attempts last inductionHypothesis =>
    rw [successes_append, List.flatten_append, List.flatten_singleton, accepted,
      List.countP_append, ← accepted, ← accepted, inductionHypothesis, List.sum_append]
    split
    · rename_i none
      rw [none, List.sum_nil]
    · rw [List.sum_singleton]

/-- The last of some numbers above zero is all of them together only if it is the only one. No
number at all counts as zero on both sides. Of two or more, the last one is less than their sum. -/
theorem getLast?_eq_sum_iff {counts : List Nat} (positive : ∀ count ∈ counts, 0 < count) :
    counts.getLast?.getD 0 = counts.sum ↔ counts.length ≤ 1 := by
  match counts with
  | [] => simp
  | [count] => simp
  | first :: second :: rest =>
    have last : (first :: second :: rest).getLast? =
        some ((second :: rest).getLast (List.cons_ne_nil second rest)) := by
      rw [List.getLast?_eq_some_getLast (List.cons_ne_nil _ _), List.getLast_cons_cons]
    have atMost := List.le_sum_of_mem (List.getLast_mem (List.cons_ne_nil second rest))
    have above : 0 < first := positive first List.mem_cons_self
    rw [last, Option.getD_some, List.sum_cons]
    constructor
    · intro same
      omega
    · intro short
      simp at short

/-- Some of the first of planned drops were issued, and none after one that was refused. -/
structure IsAttempt (steps : List DropStep) (issues : List Issue) : Prop where
  isPrefix : issues.map Prod.fst <+: steps
  accepted : ∀ issue ∈ issues.dropLast, issue.2 = true

namespace IsAttempt

variable {steps : List DropStep} {issues : List Issue}

/-- Nothing of a plan is issued if the flag is set before its first statement. That is an attempt as
well. -/
theorem nil (steps : List DropStep) : IsAttempt steps [] where
  isPrefix := List.nil_prefix
  accepted := by simp

/-- An attempt goes on after an accepted drop. -/
theorem cons (step : DropStep) (attempt : IsAttempt steps issues) :
    IsAttempt (step :: steps) ((step, true) :: issues) where
  isPrefix := (List.prefix_cons_inj step).mpr attempt.isPrefix
  accepted := by
    cases issues with
    | nil => simp
    | cons next later =>
      rw [List.dropLast_cons_of_ne_nil (List.cons_ne_nil next later)]
      exact List.forall_mem_cons.mpr ⟨rfl, attempt.accepted⟩

/-- An attempt ends with a drop that is refused. -/
theorem refused (step : DropStep) (steps : List DropStep) :
    IsAttempt (step :: steps) [(step, false)] where
  isPrefix := by simp
  accepted := by simp

/-- An attempt that issues anything begins with the first drop. -/
theorem head?_eq (attempt : IsAttempt steps issues) (something : issues ≠ []) :
    issues.head?.map Prod.fst = steps.head? := by
  obtain ⟨rest, rfl⟩ := attempt.isPrefix
  cases issues with
  | nil => exact absurd rfl something
  | cons first later => rfl

/-- If any drop of an attempt was accepted, its first one was. An attempt ends with the first drop
that is not accepted, so a first one that was refused is all there is of it. -/
theorem accepted_head {first : Issue} (attempt : IsAttempt steps (first :: issues))
    (success : 0 < Issue.accepted (first :: issues)) : first.2 = true := by
  cases issues with
  | nil =>
    obtain ⟨issue, member, isAccepted⟩ := List.countP_pos_iff.mp success
    rwa [List.mem_singleton.mp member] at isAccepted
  | cons next later =>
    refine attempt.accepted first ?_
    rw [List.dropLast_cons_of_ne_nil (List.cons_ne_nil next later)]
    exact List.mem_cons_self

/-- One attempt issues no drop twice. -/
theorem neverRepeats (attempt : IsAttempt steps issues)
    (distinct : (steps.map (·.object.key)).Nodup) : NeverRepeats issues := by
  have inIssues : ((issues.map Prod.fst).map (·.object.key)).Nodup :=
    distinct.sublist (attempt.isPrefix.sublist.map _)
  rw [List.map_map] at inIssues
  exact (List.pairwise_map.mp inIssues).imp fun differ _ => differ.symm

/-- An attempt repeats nothing of another by the same plan exactly if the other had no drop accepted
or nothing is issued: otherwise both begin with the same drop. -/
theorem repeats_nothing_iff {others : List Issue} (earlier : IsAttempt steps issues)
    (later : IsAttempt steps others) :
    (∀ issue ∈ issues, ∀ other ∈ others,
        issue.2 = true → other.1.object.key ≠ issue.1.object.key) ↔
      Issue.accepted issues = 0 ∨ others = [] := by
  constructor
  · intro unrepeated
    by_contra neither
    obtain ⟨anyAccepted, something⟩ := not_or.mp neither
    cases issues with
    | nil => exact anyAccepted rfl
    | cons first _ =>
      cases others with
      | nil => exact something rfl
      | cons second _ =>
        -- Both begin with the first drop of the plan.
        have sameStep : some second.1 = some first.1 :=
          (later.head?_eq something).trans (earlier.head?_eq (List.cons_ne_nil _ _)).symm
        refine unrepeated first List.mem_cons_self second List.mem_cons_self
          (earlier.accepted_head (Nat.pos_of_ne_zero anyAccepted)) ?_
        rw [Option.some.inj sameStep]
  · rintro (none | rfl) issue inIssues other inOthers isAccepted
    · exact absurd isAccepted (List.countP_eq_zero.mp none issue inIssues)
    · cases inOthers

end IsAttempt

end Issue

namespace Clearance

open Issue (IsAttempt accepted successes NeverRepeats)

variable {σ : Type} (target : Target σ)

/-- The drops that are issued of a list of them. -/
def issues (jobSize : Nat) : List DropStep → (done : Nat) → Session σ → List Issue
  | [], _, _ => []
  | planned :: rest, done, session =>
    if session.cancelled then []
    else
      match target.executeIn planned.statement session with
      | (.answer (), next) =>
        (planned, true) ::
          issues jobSize rest (done + 1) (next.publish .resolve jobSize (done + 1))
      | _ => [(planned, false)]

/-- The drops that a call issues: those of the plan, if it is a call to drop and there is a plan. -/
def issuedBy (clearance : Clearance) (session : Session σ) : ClearanceCall → List Issue
  | .drop =>
    match clearance.finished, clearance.plan with
    | true, .ok steps =>
      issues target steps.length steps 0 (session.publish .resolve steps.length 0)
    | _, _ => []
  | _ => []

/-- What is issued by calls in order, call by call, up to the first that does not come back. -/
def attempts : List ClearanceCall → Clearance → Session σ → List (List Issue)
  | [], _, _ => []
  | call :: rest, clearance, session =>
    let (dealing, after, next) := clearance.deal target session call
    clearance.issuedBy target session call ::
      if dealing.returned then attempts rest after next else []

/-- A run over drops sends what it issues. It counts the accepted ones on from those done before,
and keeps the count that there was if none was accepted. -/
theorem runDrops_issues (jobSize : Nat) (steps : List DropStep) (done dropped : Nat)
    (session : Session σ) :
    let result := runDrops target jobSize steps done dropped session
    let issued := issues target jobSize steps done session
    IsAttempt steps issued ∧ result.2.2.sent = session.sent ++ issued.map Issue.sent ∧
      result.2.1 = if accepted issued = 0 then dropped else done + accepted issued := by
  induction steps generalizing done dropped session with
  | nil => exact ⟨.nil [], (List.append_nil _).symm, rfl⟩
  | cons planned rest inductionHypothesis =>
    dsimp only
    rw [runDrops, issues]
    split
    · exact ⟨.nil _, (List.append_nil _).symm, rfl⟩
    · rcases executed : target.executeIn planned.statement session with ⟨reply, next⟩
      have sent := Sending.sent_of_executed executed
      cases reply with
      | answer =>
        obtain ⟨attempt, sentLater, counted⟩ := inductionHypothesis (done + 1) (done + 1)
          (next.publish .resolve jobSize (done + 1))
        refine ⟨attempt.cons planned, ?_, ?_⟩
        · rw [sentLater, Session.sent_publish, sent, List.append_assoc]
          rfl
        · rw [counted, Issue.accepted_cons_of_accepted]
          generalize accepted (issues target jobSize rest _ _) = count
          rw [if_neg (Nat.succ_ne_zero count)]
          by_cases none : count = 0
          · rw [if_pos none, none]
          · rw [if_neg none]
            omega
      | failure error => exact ⟨.refused planned rest, sent, rfl⟩
      | crash => exact ⟨.refused planned rest, sent, rfl⟩

/-- A clearance that has a plan drops by a run over it. -/
theorem drop_eq {clearance : Clearance} {steps : List DropStep}
    (finished : clearance.finished = true) (planned : clearance.plan = .ok steps)
    (session : Session σ) :
    let ran := runDrops target steps.length steps 0 clearance.dropped
      (session.publish .resolve steps.length 0)
    clearance.drop target session = (ran.1, { clearance with dropped := ran.2.1 }, ran.2.2) := by
  intro ran
  rw [drop, if_pos finished, planned]

/-- What is kept by all calls on a clearance, with what they have issued so far. -/
structure Attempted (before : Session σ) (attempts : List (List Issue)) (clearance : Clearance)
    (now : Session σ) : Prop where
  searched : clearance.finished = true → clearance.started = true
  sent : now.sent = before.sent ++ attempts.flatten.map Issue.sent
  dropped : clearance.dropped = (successes attempts).getLast?.getD 0
  ofPlan : ∀ attempt ∈ attempts, attempt ≠ [] →
    ∃ steps, clearance.finished = true ∧ clearance.plan = .ok steps ∧ IsAttempt steps attempt

variable {before : Session σ} {earlier : List (List Issue)} {clearance after : Clearance}
  {now next : Session σ}

/-- A call that issues nothing keeps what is kept. Unless there is a plan already, it may find
one. -/
theorem Attempted.of_quiet (attempted : Attempted before earlier clearance now)
    (searched : after.finished = true → after.started = true) (quiet : next.sent = now.sent)
    (sameCount : after.dropped = clearance.dropped)
    (same : clearance.finished = true → after = clearance) :
    Attempted before (earlier ++ [[]]) after next where
  searched := searched
  sent := by simpa [quiet] using attempted.sent
  dropped := by
    rw [sameCount, attempted.dropped, Issue.successes_append]
    simp [accepted]
  ofPlan attempt member something := by
    have inEarlier : attempt ∈ earlier := by
      rcases List.mem_append.mp member with inEarlier | isLast
      · exact inEarlier
      · exact absurd (List.mem_singleton.mp isLast) something
    obtain ⟨steps, finished, planned, isAttempt⟩ := attempted.ofPlan attempt inEarlier something
    rw [same finished]
    exact ⟨steps, finished, planned, isAttempt⟩

/-- A clearance that has searched does not search again, and one that has not has no plan. So
neither attempts nor their count are touched: without a plan nothing was ever dropped. -/
theorem Attempted.find (attempted : Attempted before earlier clearance now) :
    let result := clearance.find target now
    Attempted before (earlier ++ [[]]) result.2.1 result.2.2 := by
  intro result
  have quiet := sent_find target clearance now
  have sameCount := dropped_find target clearance now
  by_cases started : clearance.started = true
  · have unchanged := find_of_started target started now
    refine attempted.of_quiet ?_ quiet sameCount fun _ => congrArg (·.2.1) unchanged
    rw [show result = _ from unchanged]
    exact attempted.searched
  · have fresh : clearance.started = false := by simpa using started
    refine attempted.of_quiet (fun _ => ?_) quiet sameCount fun finished => ?_
    · rw [show result = _ from find_eq target fresh now]
      exact clearance.started_scanned _ _
    · exact absurd (attempted.searched finished) started

/-- An attempt is made by the same plan as those before. If it had a drop accepted, its number takes
the place of the one that was kept. -/
theorem Attempted.drop (attempted : Attempted before earlier clearance now) :
    let result := clearance.drop target now
    Attempted before (earlier ++ [clearance.issuedBy target now .drop])
      result.2.1 result.2.2 := by
  intro result
  have unplanned : clearance.issuedBy target now .drop = [] → result.2.1 = clearance →
      result.2.2 = now →
      Attempted before (earlier ++ [clearance.issuedBy target now .drop])
        result.2.1 result.2.2 := by
    intro nothing same quiet
    rw [nothing, same, quiet]
    exact attempted.of_quiet attempted.searched rfl rfl fun _ => rfl
  by_cases finished : clearance.finished = true
  · cases planned : clearance.plan with
    | error error =>
      have failed : result = _ := drop_of_plan_eq_error planned now
      refine unplanned ?_ (congrArg (·.2.1) failed) (congrArg (·.2.2) failed)
      rw [issuedBy, finished, planned]
    | ok steps =>
      have issued : clearance.issuedBy target now .drop =
          issues target steps.length steps 0 (now.publish .resolve steps.length 0) := by
        rw [issuedBy, finished, planned]
      obtain ⟨isAttempt, sent, counted⟩ := runDrops_issues target steps.length steps 0
        clearance.dropped (now.publish .resolve steps.length 0)
      rw [← issued] at isAttempt sent counted
      rw [show result = _ from drop_eq target finished planned now]
      refine ⟨attempted.searched, ?_, ?_, fun attempt member something => ?_⟩
      · rw [sent, Session.sent_publish, attempted.sent]
        simp
      · rw [counted, Issue.successes_append]
        split
        · rw [List.append_nil]
          exact attempted.dropped
        · simp
      · refine ⟨steps, finished, planned, ?_⟩
        rcases List.mem_append.mp member with inEarlier | isLast
        · obtain ⟨others, -, otherPlanned, isEarlier⟩ :=
            attempted.ofPlan attempt inEarlier something
          obtain rfl : others = steps := Except.ok.inj (otherPlanned.symm.trans planned)
          exact isEarlier
        · rw [List.mem_singleton.mp isLast]
          exact isAttempt
  · have unfinished : clearance.finished = false := by simpa using finished
    have failed := drop_of_unfinished target unfinished now
    refine unplanned ?_ (congrArg (·.2.1) failed) (congrArg (·.2.2) failed)
    rw [issuedBy, unfinished]

/-- Each call keeps what is kept. Only a call to drop makes an attempt. It starts again at the first
drop of the plan, whatever was dropped before. -/
theorem Attempted.deal (attempted : Attempted before earlier clearance now)
    (call : ClearanceCall) :
    let result := clearance.deal target now call
    Attempted before (earlier ++ [clearance.issuedBy target now call]) result.2.1 result.2.2 := by
  cases call with
  | find => exact attempted.find target
  | drop => exact attempted.drop target
  | plan => exact attempted.of_quiet attempted.searched rfl rfl fun _ => rfl
  | cancel =>
    exact attempted.of_quiet attempted.searched (now.sent_cancelIf true) rfl fun _ => rfl

/-- So do all calls in order. A call that does not come back is the last one, and what it did is
kept as well. -/
theorem Attempted.dealings (attempted : Attempted before earlier clearance now)
    (calls : List ClearanceCall) :
    let result := dealings target calls clearance now
    Attempted before (earlier ++ attempts target calls clearance now) result.2.1 result.2.2 := by
  induction calls generalizing earlier clearance now with
  | nil => simpa [Clearance.dealings, attempts] using attempted
  | cons call rest inductionHypothesis =>
    have here := attempted.deal target call
    rw [Clearance.dealings, attempts]
    rcases dealt : clearance.deal target now call with ⟨dealing, after, next⟩
    rw [dealt] at here
    dsimp only at here ⊢
    split
    · simpa using inductionHypothesis here
    · exact here

/-- Nothing was issued by a clearance that nobody has called upon. -/
theorem Attempted.nil (dialect : Dialect) (statements : List Statement) (session : Session σ) :
    Attempted session [] (ofScript dialect statements) session where
  searched := nofun
  sent := (List.append_nil _).symm
  dropped := rfl
  ofPlan := by simp

/-- Whatever calls are made on the clearance of a script, and whatever the target does, all that is
sent to the target are the drops that its attempts issue. Each attempt issues some of the first
drops of one and the same plan, all of them accepted but perhaps the last. The number of drops that
is kept is that of the last attempt that had one accepted. It is the number of all accepted drops
exactly if at most one attempt had one accepted. No object is dropped again once its drop was
accepted exactly if, after an attempt that had one accepted, no other one issues anything. -/
theorem dealings_count_last_success (target : Target σ) (dialect : Dialect)
    (statements : List Statement) (calls : List ClearanceCall) (session : Session σ) :
    let first := ofScript dialect statements
    let result := dealings target calls first session
    let clearance := result.2.1
    let attempts := attempts target calls first session
    result.2.2.sent = session.sent ++ attempts.flatten.map Issue.sent ∧
      (∀ attempt ∈ attempts, attempt ≠ [] →
        ∃ steps, clearance.plan = .ok steps ∧ IsAttempt steps attempt) ∧
      clearance.dropped = (successes attempts).getLast?.getD 0 ∧
      (clearance.dropped = accepted attempts.flatten ↔ (successes attempts).length ≤ 1) ∧
      (NeverRepeats attempts.flatten ↔
        attempts.Pairwise fun earlier later => accepted earlier = 0 ∨ later = []) := by
  intro first result clearance attempts
  have attempted : Attempted session attempts clearance result.2.2 :=
    (Attempted.nil dialect statements session).dealings target calls
  have ofPlan : ∀ attempt ∈ attempts, attempt ≠ [] →
      ∃ steps, clearance.plan = .ok steps ∧ IsAttempt steps attempt := by
    intro attempt member something
    obtain ⟨steps, -, planned, isAttempt⟩ := attempted.ofPlan attempt member something
    exact ⟨steps, planned, isAttempt⟩
  refine ⟨attempted.sent, ofPlan, attempted.dropped, ?_, ?_⟩
  · rw [attempted.dropped, Issue.accepted_flatten]
    exact Issue.getLast?_eq_sum_iff fun count member => by simpa using (List.mem_filter.mp member).2
  · have within : ∀ attempt ∈ attempts, NeverRepeats attempt := by
      intro attempt member
      by_cases something : attempt = []
      · rw [something]
        exact List.Pairwise.nil
      · obtain ⟨steps, planned, isAttempt⟩ := ofPlan attempt member something
        exact isAttempt.neverRepeats (DropPlan.nodup_keys_ofTrees planned)
    rw [NeverRepeats, List.pairwise_flatten]
    refine (and_iff_right within).trans (List.Pairwise.iff_of_mem ?_)
    intro earlier later isEarlier isLater
    by_cases something : earlier = [] ∨ later = []
    · rcases something with rfl | rfl <;> simp [accepted]
    · obtain ⟨someEarlier, someLater⟩ := not_or.mp something
      obtain ⟨steps, planned, first⟩ := ofPlan earlier isEarlier someEarlier
      obtain ⟨others, otherPlanned, second⟩ := ofPlan later isLater someLater
      obtain rfl : others = steps := Except.ok.inj (otherPlanned.symm.trans planned)
      exact first.repeats_nothing_iff second

/-- The three conflicts of the ring are dropped at the first attempt. The work is cancelled after
it, so the second attempt issues nothing, and the count stands. -/
theorem ring_counts_last_success :
    let first := ofScript Dialect.Known.generic (FixedCatalogue.creationOf "base")
    let calls := [.find, .drop, .cancel, .drop]
    let session := Session.start FixedCatalogue.ring
    let result := dealings FixedCatalogue.calls calls first session
    let attempts := attempts FixedCatalogue.calls calls first session
    let dropped :=
      [("DROP TABLE leaf", true), ("DROP TABLE other", true), ("DROP TABLE base", true)]
    attempts.map (·.map Issue.sent) = [[], dropped, [], []] ∧ result.2.2.sent = dropped ∧
      result.2.1.dropped = 3 ∧ accepted attempts.flatten = 3 ∧ NeverRepeats attempts.flatten := by
  intro first calls session result attempts dropped
  obtain ⟨sent, -, kept, counted, unrepeated⟩ := dealings_count_last_success FixedCatalogue.calls
    Dialect.Known.generic (FixedCatalogue.creationOf "base") calls session
  have attempted : attempts.map (·.map Issue.sent) = [[], dropped, [], []] := by
    decide +kernel
  have successful : successes attempts = [3] := by
    decide +kernel
  have isLast : result.2.1.dropped = 3 := by
    rw [kept, successful]
    rfl
  have isAll : result.2.1.dropped = accepted attempts.flatten := by
    refine counted.mpr ?_
    rw [successful]
    exact Nat.le_refl 1
  refine ⟨attempted, ?_, isLast, isAll.symm.trans isLast, ?_⟩
  · rw [sent, List.map_flatten, attempted]
    rfl
  · refine unrepeated.mpr ?_
    decide +kernel

/-- A base table that nothing depends on. -/
def loneBase : FixedCatalogue where
  objects := [FixedCatalogue.tableOf "base"]

/-- When the conflicts of a script are dropped once more, the only one is dropped again after its
drop was accepted, and one of two accepted drops is counted. -/
theorem lone_base_is_dropped_again :
    let first := ofScript Dialect.Known.generic (FixedCatalogue.creationOf "base")
    let calls := [.find, .drop, .drop]
    let session := Session.start loneBase
    let result := dealings FixedCatalogue.calls calls first session
    let attempts := attempts FixedCatalogue.calls calls first session
    result.2.2.sent = [("DROP TABLE base", true), ("DROP TABLE base", true)] ∧
      result.2.1.dropped = 1 ∧ accepted attempts.flatten = 2 ∧
      ¬ NeverRepeats attempts.flatten := by
  intro first calls session result attempts
  have again : ¬ attempts.flatten.Pairwise fun earlier later : Issue =>
      earlier.2 = true → later.1.object.key ≠ earlier.1.object.key := by
    decide +kernel
  exact ⟨by decide +kernel, by decide +kernel, by decide +kernel, again⟩

end Clearance

end SchemaForward
