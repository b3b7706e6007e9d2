import SchemaForward.Proofs.Identifier.Changes
import SchemaForward.Script.Naming

/-!
# The least suffix

A name that cannot be given as it stands gets the suffix of the least number that serves. The search
stops at the first suffix that leaves no room for anything of the name. Nothing is missed by that,
because suffixes only get longer; so it fails exactly if no number serves, and why it fails depends
on the rules alone and not on what is taken.

What is given was free, its key is all that is taken with it, and a request that fails takes
nothing.
-/

namespace SchemaForward

/-- After an insertion the inserted key is taken, and what was taken before. -/
theorem TakenNames.contains_insert_iff {used : TakenNames} {scope other : Namespace}
    {key tested : String} : (used.insert scope key).contains other tested = true ↔
      used.contains other tested = true ∨ other = scope ∧ tested = key := by
  rw [contains_insert, Bool.or_eq_true, Bool.and_eq_true, beq_iff_eq, beq_iff_eq]
  exact or_congr_right (and_congr eq_comm eq_comm)

namespace IdentifierRules

/-- The name can be given in a namespace: its key is not taken there, and it is not reserved. -/
def IsFree (rules : IdentifierRules) (scope : Namespace) (used : TakenNames) (name : String) :
    Prop :=
  used.contains scope (rules.key name) = false ∧ rules.isReserved name = false

/-- The suffix of a number is shorter than the maximum length, if there is one. -/
def LeavesRoom (rules : IdentifierRules) (number : Nat) : Prop :=
  ∀ limit, rules.maxLength = some limit → (suffix number).length < limit.toNat

/-- The name with a numbered suffix, cut before it so that both fit. -/
def withSuffix (rules : IdentifierRules) (base : String) (number : Nat) : String :=
  match rules.maxLength with
  | some limit => cut (limit.toNat - (suffix number).length) base ++ suffix number
  | none => base ++ suffix number

/-- The number is one of those that are tried, its suffix leaves room, and the name can be given
with it. -/
structure Serves (rules : IdentifierRules) (scope : Namespace) (used : TakenNames) (base : String)
    (number : Nat) : Prop where
  positive : 1 ≤ number
  tried : number ≤ rules.maxSuffix.toNat
  room : rules.LeavesRoom number
  free : rules.IsFree scope used (rules.withSuffix base number)

/-- Why a search among so many numbers from a given one on can fail: the first suffix without room,
or, if all leave room, the last number there is. -/
inductive Hinders (rules : IdentifierRules) (remaining number : Nat) : NamingObstacle → Prop
  | full {limit : UInt64} (isLimit : rules.maxLength = some limit) {first : Nat}
      (above : number ≤ first) (below : first < number + remaining)
      (full : limit.toNat ≤ (suffix first).length)
      (earlier : ∀ other, number ≤ other → other < first → rules.LeavesRoom other) :
      Hinders rules remaining number (.noRoom limit (suffix first))
  | exhausted (room : ∀ other, number ≤ other → other < number + remaining →
        rules.LeavesRoom other) :
      Hinders rules remaining number (.exhausted rules.maxSuffix)

variable {rules : IdentifierRules} {scope : Namespace} {used : TakenNames}

instance (name : String) : Decidable (rules.IsFree scope used name) :=
  inferInstanceAs (Decidable (_ ∧ _))

/-- The test that the search makes is the one for a free name: the key is not taken in the
namespace, and the name is not reserved. -/
theorem isUnavailable_eq_false_iff {name : String} :
    rules.isUnavailable scope used name = false ↔ rules.IsFree scope used name :=
  Bool.or_eq_false_iff

/-- A name that is not free is told by the same test. -/
theorem isUnavailable_iff {name : String} :
    rules.isUnavailable scope used name = true ↔ ¬ rules.IsFree scope used name := by
  rw [← isUnavailable_eq_false_iff, Bool.not_eq_false]

/-- A suffix is no longer than that of a greater number. -/
theorem length_suffix_le {number other : Nat} (le : number ≤ other) :
    (suffix number).length ≤ (suffix other).length := by
  rw [← String.length_toList, ← String.length_toList, toList_suffix, toList_suffix,
    List.length_cons, List.length_cons, Nat.add_le_add_iff_right]
  have digits : 0 < (Nat.toDigits 10 other).length := Nat.length_toDigits_pos
  rw [Nat.length_toDigits_le_iff (by decide) digits]
  exact le.trans_lt ((Nat.length_toDigits_le_iff (by decide) digits).mp le_rfl)

/-- A suffix that leaves room for something of the name does so for every smaller number, because
its suffix is no longer. This is why the search misses nothing when it stops at the first that does
not. -/
theorem LeavesRoom.of_le {number other : Nat} (room : rules.LeavesRoom other)
    (le : number ≤ other) : rules.LeavesRoom number :=
  fun limit isLimit => (length_suffix_le le).trans_lt (room limit isLimit)

/-- Where a suffix leaves room, the candidate is the name cut to that room with the suffix behind
it. -/
theorem candidate_of_leavesRoom {base : String} {number : Nat} (room : rules.LeavesRoom number) :
    rules.candidate base number = .ok (rules.withSuffix base number) := by
  unfold candidate withSuffix
  cases isLimit : rules.maxLength with
  | none => rfl
  | some limit => exact if_neg (Nat.not_le.mpr (room limit isLimit))

/-- Where a suffix leaves no room there is no candidate, and the error is the maximum length.
Nothing about the name itself matters for that. -/
theorem candidate_of_not_leavesRoom (base : String) {number : Nat}
    (noRoom : ¬ rules.LeavesRoom number) :
    ∃ limit, rules.maxLength = some limit ∧ limit.toNat ≤ (suffix number).length ∧
      rules.candidate base number = .error limit := by
  simp only [LeavesRoom, not_forall, Nat.not_lt] at noRoom
  obtain ⟨limit, isLimit, full⟩ := noRoom
  refine ⟨limit, isLimit, full, ?_⟩
  rw [candidate, isLimit]
  exact if_pos full

/-- What a search comes to: the least number whose suffix leaves room and makes the name free. -/
inductive Found (rules : IdentifierRules) (scope : Namespace) (used : TakenNames) (base : String)
    (remaining number : Nat) : Except NamingObstacle String → Prop
  | free {chosen : Nat} (above : number ≤ chosen) (below : chosen < number + remaining)
      (room : rules.LeavesRoom chosen)
      (isFree : rules.IsFree scope used (rules.withSuffix base chosen))
      (earlier : ∀ other, number ≤ other → other < chosen →
        ¬ rules.IsFree scope used (rules.withSuffix base other)) :
      Found rules scope used base remaining number (.ok (rules.withSuffix base chosen))
  | none {obstacle : NamingObstacle} (hinders : rules.Hinders remaining number obstacle)
      (taken : ∀ other, number ≤ other → other < number + remaining → rules.LeavesRoom other →
        ¬ rules.IsFree scope used (rules.withSuffix base other)) :
      Found rules scope used base remaining number (.error obstacle)

/-- What holds of a number and of all from the next one on holds of all from it on. -/
theorem forall_of_forall_succ {property : Nat → Prop} {number last : Nat} (here : property number)
    (later : ∀ other, number + 1 ≤ other → other < last → property other) :
    ∀ other, number ≤ other → other < last → property other := by
  intro other above below
  rcases above.eq_or_lt with rfl | beyond
  · exact here
  · exact later other beyond below

/-- What hinders the search from the next number on hinders it from this one on, if this one leaves
room. The search may have looked at this number in vain, but the reason that it fails for comes
later. -/
theorem Hinders.of_succ {remaining number : Nat} {obstacle : NamingObstacle}
    (hinders : rules.Hinders remaining (number + 1) obstacle) (room : rules.LeavesRoom number) :
    rules.Hinders (remaining + 1) number obstacle := by
  cases hinders with
  | full isLimit above below full earlier =>
    exact .full isLimit (by omega) (by omega) full (forall_of_forall_succ room earlier)
  | exhausted others =>
    refine .exhausted (forall_of_forall_succ room fun other above below => ?_)
    exact others other above (by omega)

/-- A search that passes over a number comes to what the search from the next one on does. The
number is passed over because the name is not free with it. It did leave room, or the search would
have stopped there. -/
theorem Found.of_succ {base : String} {remaining number : Nat}
    {outcome : Except NamingObstacle String}
    (found : rules.Found scope used base remaining (number + 1) outcome)
    (room : rules.LeavesRoom number)
    (taken : ¬ rules.IsFree scope used (rules.withSuffix base number)) :
    rules.Found scope used base (remaining + 1) number outcome := by
  cases found with
  | free above below roomLater isFree earlier =>
    exact .free (by omega) (by omega) roomLater isFree (forall_of_forall_succ taken earlier)
  | none hinders others =>
    refine .none (hinders.of_succ room) (forall_of_forall_succ (fun _ => taken) ?_)
    exact fun other above below => others other above (by omega)

/-- The search finds the least number that serves. It stops at the first suffix that leaves no room,
and misses nothing by that: every later suffix is at least as long. -/
theorem found_firstFree (rules : IdentifierRules) (scope : Namespace) (used : TakenNames)
    (base : String) (remaining number : Nat) :
    rules.Found scope used base remaining number
      (rules.firstFree scope used base remaining number) := by
  induction remaining generalizing number with
  | zero => exact .none (.exhausted (by omega)) (by omega)
  | succ remaining inductionHypothesis =>
    rw [firstFree]
    by_cases room : rules.LeavesRoom number
    · rw [candidate_of_leavesRoom room]
      dsimp only
      split
      · rename_i taken
        exact (inductionHypothesis (number + 1)).of_succ room (isUnavailable_iff.mp taken)
      · rename_i free
        refine .free le_rfl (by omega) room ?_ (by omega)
        exact isUnavailable_eq_false_iff.mp (Bool.eq_false_iff.mpr free)
    · -- No later suffix leaves room either, as none is shorter.
      obtain ⟨limit, isLimit, full, noCandidate⟩ := candidate_of_not_leavesRoom base room
      rw [noCandidate]
      refine .none (.full isLimit le_rfl (by omega) full (by omega)) ?_
      exact fun other above _ leavesRoom => absurd (leavesRoom.of_le above) room

/-- A search that fails has one reason. It either meets a suffix that leaves no room or runs out of
numbers before. -/
theorem Hinders.unique {remaining number : Nat} {obstacle other : NamingObstacle}
    (hinders : rules.Hinders remaining number obstacle)
    (otherHinders : rules.Hinders remaining number other) : obstacle = other := by
  -- A suffix without room is not one of those that leave room.
  have apart : ∀ {limit : UInt64} {first : Nat}, rules.maxLength = some limit →
      limit.toNat ≤ (suffix first).length → ¬ rules.LeavesRoom first :=
    fun isLimit full room => Nat.not_lt.mpr full (room _ isLimit)
  cases hinders with
  | full isLimit above below full earlier =>
    cases otherHinders with
    | full isOther otherAbove otherBelow otherFull otherEarlier =>
      rename_i limit first otherLimit otherFirst
      obtain rfl : limit = otherLimit := Option.some.inj (isLimit.symm.trans isOther)
      rcases lt_trichotomy first otherFirst with before | rfl | behind
      · exact absurd (otherEarlier _ above before) (apart isLimit full)
      · rfl
      · exact absurd (earlier _ otherAbove behind) (apart isLimit otherFull)
    | exhausted room => exact absurd (room _ above below) (apart isLimit full)
  | exhausted room =>
    cases otherHinders with
    | full isLimit above below full _ => exact absurd (room _ above below) (apart isLimit full)
    | exhausted _ => rfl

/-- The search has one outcome. Of two numbers that both serve and have none below them that does,
neither is less than the other; and where no number serves there is one reason. -/
theorem Found.unique {base : String} {remaining number : Nat}
    {outcome other : Except NamingObstacle String}
    (found : rules.Found scope used base remaining number outcome)
    (otherFound : rules.Found scope used base remaining number other) : outcome = other := by
  cases found with
  | free above below room isFree earlier =>
    cases otherFound with
    | free otherAbove otherBelow otherRoom otherFree otherEarlier =>
      rename_i chosen otherChosen
      rcases lt_trichotomy chosen otherChosen with before | rfl | behind
      · exact absurd isFree (otherEarlier _ above before)
      · rfl
      · exact absurd otherFree (earlier _ otherAbove behind)
    | none _ taken => exact absurd isFree (taken _ above below room)
  | none hinders taken =>
    cases otherFound with
    | free above below room isFree _ => exact absurd isFree (taken _ above below room)
    | none otherHinders _ => rw [hinders.unique otherHinders]

/-- What becomes of a name that is restricted and cut: it is given as it stands if it is free, and
what a search finds for it otherwise. -/
inductive Becomes (rules : IdentifierRules) (scope : Namespace) (used : TakenNames)
    (base : String) : Except NamingObstacle String → Prop
  | itself (free : rules.IsFree scope used base) : Becomes rules scope used base (.ok base)
  | searched {outcome : Except NamingObstacle String} (taken : ¬ rules.IsFree scope used base)
      (found : rules.Found scope used base rules.maxSuffix.toNat 1 outcome) :
      Becomes rules scope used base outcome

/-- A name becomes one thing: itself if that is free, and what the search finds if it is not. -/
theorem Becomes.unique {base : String} {outcome other : Except NamingObstacle String}
    (becomes : rules.Becomes scope used base outcome)
    (otherBecomes : rules.Becomes scope used base other) : outcome = other := by
  cases becomes with
  | itself free =>
    cases otherBecomes with
    | itself _ => rfl
    | searched taken _ => exact absurd free taken
  | searched taken found =>
    cases otherBecomes with
    | itself free => exact absurd free taken
    | searched _ otherFound => exact found.unique otherFound

/-- What comes of a name that was asked for, once it is known what becomes of it. -/
def answerFor (rules : IdentifierRules) (scope : Namespace) (used : TakenNames) (raw : String) :
    Except NamingObstacle String → Except NamingFailure (LegalName × TakenNames)
  | .error obstacle => .error ⟨scope, rules.truncate (rules.restrict raw), obstacle⟩
  | .ok name =>
    let restricted := rules.restrict raw
    let truncated := rules.truncate restricted
    .ok (⟨name, change .restricted raw restricted ++ change .truncated restricted truncated ++
      change .collision truncated name⟩, used.insert scope (rules.key name))

/-- Something becomes of every name that is asked for, and decides the answer. A suffix is only
sought for a name that is not free, so what is found is always a change; the answer lists it as one
without a comparison. -/
theorem exists_becomes (rules : IdentifierRules) (scope : Namespace) (used : TakenNames)
    (raw : String) :
    ∃ outcome, rules.Becomes scope used (rules.truncate (rules.restrict raw)) outcome ∧
      rules.identifierFor scope used raw = rules.answerFor scope used raw outcome := by
  generalize isBase : rules.truncate (rules.restrict raw) = base
  by_cases free : rules.IsFree scope used base
  · refine ⟨.ok base, .itself free, ?_⟩
    have available := isUnavailable_eq_false_iff.mpr free
    simp [identifierFor, answerFor, isBase, available, change]
  · have found := found_firstFree rules scope used base rules.maxSuffix.toNat 1
    refine ⟨_, .searched free found, ?_⟩
    have unavailable := isUnavailable_iff.mpr free
    cases searched : rules.firstFree scope used base rules.maxSuffix.toNat 1 with
    | error obstacle => simp [identifierFor, answerFor, isBase, unavailable, searched]
    | ok unique =>
      -- What is found is free and what it was sought for is not, so the change is one.
      rw [searched] at found
      have differ : base ≠ unique := by
        intro same
        cases found with
        | free _ _ _ isFree _ => exact free (same ▸ isFree)
      simp [identifierFor, answerFor, isBase, unavailable, searched, change, differ]

/-- The answer to a name that is asked for follows from what becomes of it. -/
theorem identifierFor_of_becomes {raw : String} {outcome : Except NamingObstacle String}
    (becomes : rules.Becomes scope used (rules.truncate (rules.restrict raw)) outcome) :
    rules.identifierFor scope used raw = rules.answerFor scope used raw outcome := by
  obtain ⟨other, otherBecomes, answer⟩ := exists_becomes rules scope used raw
  rw [answer, becomes.unique otherBecomes]

/-- A search from the first suffix on finds the least number that serves. All numbers below it fail
for lack of a free name: they leave room if it does. -/
theorem Found.of_isLeast {base : String} {number : Nat}
    (least : IsLeast {number | rules.Serves scope used base number} number) :
    rules.Found scope used base rules.maxSuffix.toNat 1 (.ok (rules.withSuffix base number)) := by
  obtain ⟨serves, lowest⟩ := least
  have inRange : number < 1 + rules.maxSuffix.toNat := by
    have tried := serves.tried
    omega
  refine .free serves.positive inRange serves.room serves.free fun other above below isFree => ?_
  have otherServes : rules.Serves scope used base other :=
    ⟨above, below.le.trans serves.tried, serves.room.of_le below.le, isFree⟩
  exact absurd (lowest otherServes) (Nat.not_le.mpr below)

/-- A search from the first suffix on fails exactly if no number serves. A number that serves leaves
room, and so do all before it, so the search gets there unless it has found one before. -/
theorem Found.isError_iff {base : String} {outcome : Except NamingObstacle String}
    (found : rules.Found scope used base rules.maxSuffix.toNat 1 outcome) :
    (∃ obstacle, outcome = .error obstacle) ↔ ∀ number, ¬ rules.Serves scope used base number := by
  cases found with
  | free above below room isFree earlier =>
    simp only [reduceCtorEq, exists_false, false_iff, not_forall, not_not]
    exact ⟨_, above, by omega, room, isFree⟩
  | none hinders taken =>
    simp only [Except.error.injEq, exists_eq', true_iff]
    intro number serves
    have tried := serves.tried
    exact taken number serves.positive (by omega) serves.room serves.free

/-- A name that is free once it is restricted and cut is given so. Any other is given the suffix of
the least number that serves, and none exactly if no number does; the failure then names the cut
name and what stands in the way. What is given was free, and its key is all that is taken with it. A
request that fails takes nothing, whatever comes after it. -/
theorem identifierFor_takes_least_suffix (rules : IdentifierRules) (scope : Namespace)
    (used : TakenNames) (raw : String) :
    let base := rules.truncate (rules.restrict raw)
    let result := rules.identifierFor scope used raw
    (rules.IsFree scope used base →
      ∃ legal next, result = .ok (legal, next) ∧ legal.name = base) ∧
    (¬ rules.IsFree scope used base →
      ∀ number, IsLeast {number | rules.Serves scope used base number} number →
        ∃ legal next, result = .ok (legal, next) ∧ legal.name = rules.withSuffix base number) ∧
    ((∃ failure, result = .error failure) ↔
      ¬ rules.IsFree scope used base ∧ ∀ number, ¬ rules.Serves scope used base number) ∧
    (∀ legal next, result = .ok (legal, next) →
      used.contains scope (rules.key legal.name) = false ∧
        ∀ other key, next.contains other key = true ↔
          used.contains other key = true ∨ other = scope ∧ key = rules.key legal.name) ∧
    ∀ failure, result = .error failure →
      (∃ obstacle, failure = ⟨scope, base, obstacle⟩ ∧
        rules.Hinders rules.maxSuffix.toNat 1 obstacle) ∧
      ∀ overrides request rest, request.scope = scope →
        (overrides.get? request.object).getD request.name = raw →
        Naming.giveAll rules overrides used (request :: rest) = (.error failure, used) := by
  intro base result
  obtain ⟨outcome, becomes, answer⟩ := exists_becomes rules scope used raw
  have isAnswer : result = rules.answerFor scope used raw outcome := answer
  refine ⟨fun free => ?_, fun taken number least => ?_, ?_, fun legal next given => ?_,
    fun failure failed => ⟨?_, ?_⟩⟩
  · exact ⟨_, _, identifierFor_of_becomes (.itself free), rfl⟩
  · exact ⟨_, _, identifierFor_of_becomes (.searched taken (Found.of_isLeast least)), rfl⟩
  · rw [isAnswer]
    cases becomes with
    | itself free => simp [answerFor, base, free]
    | searched taken found =>
      rw [← found.isError_iff]
      cases outcome <;> simp [answerFor, base, taken]
  · obtain ⟨available, rfl, -⟩ := of_identifierFor given
    exact ⟨(Bool.or_eq_false_iff.mp available).1, fun _ _ => TakenNames.contains_insert_iff⟩
  · rw [isAnswer] at failed
    cases becomes with
    | itself free => cases failed
    | searched taken found =>
      cases found with
      | free => cases failed
      | none hinders _ => exact ⟨_, (Except.error.inj failed).symm, hinders⟩
  · rintro overrides request rest rfl rfl
    have refused : Naming.give rules overrides used request = .error failure := by
      rw [Naming.give, show rules.identifierFor _ _ _ = _ from failed]
    rw [Naming.giveAll, refused]

/-- A name and the first nine it gets with a suffix are taken. -/
def crowded : TakenNames :=
  ("ABCD" :: (List.range' 1 9).map (narrow.withSuffix "ABCD")).foldl (·.insert .table ·) .empty

/-- With nine suffixes taken, the name is cut shorter to make room for a tenth of two digits. A name
that fits with one digit is cut again for two, so that different suffixes belong to different bases.
-/
theorem narrow_takes_least_suffix :
    narrow.withSuffix "ABCD" 9 = "AB_9" ∧
      ∃ legal next, narrow.identifierFor .table crowded "abcd" = .ok (legal, next) ∧
        legal.name = "A_10" := by
  have isBase : narrow.truncate (narrow.restrict "abcd") = "ABCD" := by decide +kernel
  have room : narrow.LeavesRoom 10 := by
    rintro _ isLimit
    obtain rfl := Option.some.inj isLimit
    decide +kernel
  have least : IsLeast {number | narrow.Serves .table crowded "ABCD" number} 10 := by
    refine ⟨⟨by decide, by decide, room, by decide +kernel⟩, fun number serves => ?_⟩
    have taken : ∀ number < 10, 1 ≤ number →
        ¬ narrow.IsFree .table crowded (narrow.withSuffix "ABCD" number) := by
      decide +kernel
    by_contra below
    exact taken number (Nat.not_le.mp below) serves.positive serves.free
  have searched := (identifierFor_takes_least_suffix narrow .table crowded "abcd").2.1
  rw [isBase] at searched
  obtain ⟨legal, next, given, isName⟩ := searched (by decide +kernel) 10 least
  exact ⟨by decide +kernel, legal, next, given, isName.trans (by decide +kernel)⟩

end IdentifierRules

end SchemaForward
