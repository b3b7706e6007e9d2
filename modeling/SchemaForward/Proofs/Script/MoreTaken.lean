import SchemaForward.Proofs.Script.Pieces

/-!
# Names with more taken

Two namings of the same objects go side by side, and certain keys are taken in the second besides
those of the first. What fails in the first then fails in the second, for the same reason. What is
given in the first is given in the second too, unless its key is one of those in question. So both
come to the same as long as the first takes none of these keys, not even for a table that is skipped
in the end.
-/

namespace SchemaForward

namespace TakenNames

/-- None of certain keys is taken. -/
def Avoids (extra : Namespace → String → Prop) (used : TakenNames) : Prop :=
  ∀ scope key, extra scope key → used.contains scope key = false

/-- Nothing is released between two stages. -/
def Grows (used next : TakenNames) : Prop :=
  ∀ scope key, used.contains scope key = true → next.contains scope key = true

variable {extra : Namespace → String → Prop} {used more next : TakenNames}

/-- Taking one more key on both sides leaves the same keys in excess. If it is one of these, it is
in excess no longer, but it is still taken on both sides. -/
theorem Extends.insert (extended : Extends extra used more) (scope : Namespace) (key : String) :
    Extends extra (used.insert scope key) (more.insert scope key) := by
  intro other tested
  rw [contains_insert_iff, contains_insert_iff, extended other tested]
  exact or_right_comm

/-- A key that is taken is none of those that are not. -/
theorem Avoids.apart {scope : Namespace} {key : String} (avoids : Avoids extra used)
    (taken : used.contains scope key = true) : ¬extra scope key := by
  intro isExtra
  rw [avoids scope key isExtra] at taken
  cases taken

/-- Keys that are free at the end were free all along, since nothing is released. -/
theorem Grows.avoids (grows : Grows used next) (avoids : Avoids extra next) :
    Avoids extra used := by
  intro scope key isExtra
  by_contra taken
  exact avoids.apart (grows scope key ((Bool.not_eq_false _).mp taken)) isExtra

/-- What is released neither in one piece nor in the next is not released in both. -/
theorem Grows.trans {last : TakenNames} (first : Grows used next) (second : Grows next last) :
    Grows used last :=
  fun scope key taken => second scope key (first scope key taken)

end TakenNames

open TakenNames (Extends Avoids Grows)

variable {extra : Namespace → String → Prop} {used more next : TakenNames}

namespace IdentifierRules

variable {rules : IdentifierRules} {scope : Namespace}

/-- With certain keys taken besides, exactly those names are free that were free before and whose
key is none of these. Reserved words are not affected. -/
theorem isFree_extends_iff (extended : Extends extra used more) {name : String} :
    rules.IsFree scope more name ↔
      rules.IsFree scope used name ∧ ¬extra scope (rules.key name) := by
  simp only [IsFree, ← Bool.not_eq_true, extended scope (rules.key name), not_or]
  exact and_right_comm

/-- A search comes to the same with more taken, unless what it finds is taken now. A number that did
not serve before serves no more now. If the search failed for lack of room, it does so at the same
suffix. -/
theorem Found.extend {base : String} {remaining number : Nat}
    {outcome : Except NamingObstacle String}
    (found : rules.Found scope used base remaining number outcome)
    (extended : Extends extra used more)
    (apart : ∀ name, outcome = .ok name → ¬extra scope (rules.key name)) :
    rules.Found scope more base remaining number outcome := by
  have stillTaken : ∀ {name}, ¬rules.IsFree scope used name → ¬rules.IsFree scope more name :=
    fun taken free => taken ((isFree_extends_iff extended).mp free).1
  cases found with
  | free above below room isFree earlier =>
    exact .free above below room ((isFree_extends_iff extended).mpr ⟨isFree, apart _ rfl⟩)
      fun other above below => stillTaken (earlier other above below)
  | none hinders taken =>
    exact .none hinders fun other above below room => stillTaken (taken other above below room)

/-- Taking further keys does not change what a name becomes, if the outcome has none of them as its
key. For a failure there is no such condition: where no name is free, taking more makes none free.
-/
theorem Becomes.extend {base : String} {outcome : Except NamingObstacle String}
    (becomes : rules.Becomes scope used base outcome) (extended : Extends extra used more)
    (apart : ∀ name, outcome = .ok name → ¬extra scope (rules.key name)) :
    rules.Becomes scope more base outcome := by
  cases becomes with
  | itself free => exact .itself ((isFree_extends_iff extended).mpr ⟨free, apart _ rfl⟩)
  | searched taken found =>
    exact .searched (fun free => taken ((isFree_extends_iff extended).mp free).1)
      (found.extend extended apart)

/-- A request that fails does so with more taken, for the same reason. The reason depends on the
rules and not on what is taken. -/
theorem identifierFor_extends_error {raw : String} {failure : NamingFailure}
    (failed : rules.identifierFor scope used raw = .error failure)
    (extended : Extends extra used more) :
    rules.identifierFor scope more raw = .error failure := by
  obtain ⟨outcome, becomes, answer⟩ := exists_becomes rules scope used raw
  rw [answer] at failed
  cases outcome with
  | ok name => cases failed
  | error obstacle =>
    rw [identifierFor_of_becomes (becomes.extend extended fun _ isName => by cases isName)]
    exact failed

/-- A request is answered by the same name with more taken, unless that is taken now. Its changes
are the same too, and afterwards the same keys are in excess as before. -/
theorem identifierFor_extends_ok {raw : String} {legal : LegalName}
    (given : rules.identifierFor scope used raw = .ok (legal, next))
    (extended : Extends extra used more) (apart : ¬extra scope (rules.key legal.name)) :
    ∃ moreNext, rules.identifierFor scope more raw = .ok (legal, moreNext) ∧
      Extends extra next moreNext := by
  obtain ⟨outcome, becomes, answer⟩ := exists_becomes rules scope used raw
  rw [answer] at given
  cases outcome with
  | error obstacle => cases given
  | ok name =>
    obtain ⟨rfl, rfl⟩ := Prod.mk.inj (Except.ok.inj given)
    have becomesMore := becomes.extend extended fun _ isName => Except.ok.inj isName ▸ apart
    exact ⟨_, identifierFor_of_becomes becomesMore, extended.insert _ _⟩

end IdentifierRules

namespace Naming

variable {α β : Type}

/-- Both come to the same, and certain keys are taken besides after the second. -/
structure Alike (extra : Namespace → String → Prop) (result other : α × TakenNames) : Prop where
  same : other.1 = result.1
  extended : Extends extra result.2 other.2

/-- A piece of naming releases nothing, and it comes to the same with certain keys taken besides,
unless it takes one of these itself. -/
structure Steady (extra : Namespace → String → Prop) (work : TakenNames → α × TakenNames) :
    Prop where
  grows : ∀ used, Grows used (work used).2
  alike : ∀ {used more}, Extends extra used more → Avoids extra (work used).2 →
    Alike extra (work used) (work more)

/-- Bringing back a value takes nothing and looks at nothing that is taken. -/
theorem steady_pure (value : α) : Steady extra fun used => (value, used) :=
  ⟨fun _ _ _ taken => taken, fun extended _ => ⟨rfl, extended⟩⟩

/-- Pieces of naming stay steady when one is put behind the other. The keys that the whole leaves
free are free after the first piece as well, and if that fails the rest is left out on both sides.
-/
theorem Steady.andThen {work : TakenNames → Except NamingFailure α × TakenNames}
    {continuation : α → TakenNames → Except NamingFailure β × TakenNames}
    (first : Steady extra work) (second : ∀ value, Steady extra (continuation value)) :
    Steady extra fun used => andThen (work used) continuation where
  grows used := by
    have grows := first.grows used
    rcases ended : work used with ⟨_ | value, next⟩ <;> rw [ended] at grows
    · exact grows
    · exact grows.trans ((second value).grows next)
  alike {used more} extended avoids := by
    have alike := first.alike extended
    rcases ended : work used with ⟨outcome, next⟩
    rcases otherEnded : work more with ⟨other, moreNext⟩
    rw [ended, otherEnded] at alike
    rw [ended] at avoids
    cases outcome with
    | error failure =>
      obtain ⟨rfl, stillExtended⟩ := alike avoids
      exact ⟨rfl, stillExtended⟩
    | ok value =>
      obtain ⟨rfl, stillExtended⟩ := alike (((second value).grows next).avoids avoids)
      exact (second value).alike stillExtended avoids

variable {rules : IdentifierRules} {overrides : Overrides}

/-- A request that fails does so with more keys taken too, and for the same reason. -/
theorem give_extends_error {request : NameRequest} {failure : NamingFailure}
    (failed : give rules overrides used request = .error failure)
    (extended : Extends extra used more) :
    give rules overrides more request = .error failure := by
  rw [give] at failed ⊢
  split at failed
  · rename_i reason notFound
    cases failed
    rw [IdentifierRules.identifierFor_extends_error notFound extended]
  · cases failed

/-- A request gives the same identifier with more keys taken, unless the key of that identifier is
among them. Afterwards the same keys are in excess as before. -/
theorem give_extends_ok {request : NameRequest} {given : GivenIdentifier}
    (success : give rules overrides used request = .ok (given, next))
    (extended : Extends extra used more) (apart : ¬extra given.scope (rules.key given.name)) :
    ∃ moreNext, give rules overrides more request = .ok (given, moreNext) ∧
      Extends extra next moreNext := by
  rw [give] at success ⊢
  split at success
  · cases success
  · rename_i legal last found
    obtain ⟨rfl, rfl⟩ := Prod.mk.inj (Except.ok.inj success)
    obtain ⟨moreNext, foundMore, stillExtended⟩ :=
      IdentifierRules.identifierFor_extends_ok found extended apart
    rw [foundMore]
    exact ⟨moreNext, rfl, stillExtended⟩

section Steady

variable (rules overrides)

/-- A single request is steady. If it gives an identifier, the key of that is taken afterwards, so
it cannot be one of the keys that stay free. -/
theorem steady_ask (request : NameRequest) : Steady extra (ask rules overrides request) where
  grows used := by
    rw [ask]
    cases success : give rules overrides used request with
    | error failure => exact fun _ _ taken => taken
    | ok result => exact (of_give success).1.kept
  alike {used more} extended avoids := by
    rw [ask] at avoids ⊢
    rw [ask]
    cases success : give rules overrides used request with
    | error failure =>
      rw [give_extends_error success extended]
      exact ⟨rfl, extended⟩
    | ok result =>
      obtain ⟨given, next⟩ := result
      rw [success] at avoids
      -- What is given is taken from then on, so its key is none of those in question.
      have taken := (of_give success).1.taken given (List.mem_singleton_self given)
      obtain ⟨moreNext, givenMore, stillExtended⟩ :=
        give_extends_ok success extended (avoids.apart taken)
      rw [givenMore]
      exact ⟨rfl, stillExtended⟩

/-- Requests made one after the other are steady, by induction on them. -/
theorem steady_giveAll (requests : List NameRequest) :
    Steady extra (giveAll rules overrides · requests) := by
  induction requests with
  | nil => exact steady_pure _
  | cons request rest inductionHypothesis =>
    simp only [giveAll_cons]
    exact (steady_ask rules overrides request).andThen fun given =>
      inductionHypothesis.andThen fun others => steady_pure _

/-- Naming what belongs to a table is steady: it is made of requests, put one behind the other. -/
theorem steady_nameContents (table : Table) (identifier : GivenIdentifier) :
    Steady extra (nameContents rules overrides · table identifier) := by
  simp only [nameContents_eq]
  exact (steady_giveAll rules overrides _).andThen fun columns =>
    (steady_ask rules overrides _).andThen fun key =>
      (steady_giveAll rules overrides _).andThen fun indexes => steady_pure _

/-- Naming a table with all that belongs to it is steady. A table that has to be skipped is no
exception. -/
theorem steady_nameTable (table : Table) : Steady extra (nameTable rules overrides · table) := by
  simp only [nameTable_eq]
  exact (steady_ask rules overrides _).andThen fun identifier =>
    steady_nameContents rules overrides table identifier

/-- Tables are named the same with more taken, unless one of them takes what is taken now. A table
that was skipped leaves keys taken, and these count as taken by it. -/
theorem steady_nameTables (tables : List Table) :
    Steady extra (nameTables rules overrides · tables) := by
  induction tables with
  | nil => exact steady_pure _
  | cons table rest inductionHypothesis =>
    have here : Steady extra (nameTable rules overrides · table) :=
      steady_nameTable rules overrides table
    refine ⟨fun used => (here.grows used).trans (inductionHypothesis.grows _),
      fun {used more} extended avoids => ?_⟩
    obtain ⟨sameHere, extendedHere⟩ :=
      here.alike extended ((inductionHypothesis.grows _).avoids avoids)
    obtain ⟨sameRest, extendedRest⟩ := inductionHypothesis.alike extendedHere avoids
    refine ⟨?_, extendedRest⟩
    simp only [nameTables] at sameRest ⊢
    rw [sameHere, sameRest]

end Steady

/-- Relationships are named the same with more taken, unless one is given what is taken now. One
that fails does so again, and one that lacks a table is not asked about what is taken. The induction
hands the keys in excess on from each to the next. -/
theorem nameRelationships_extends (tables : List (Table × Except NamingFailure NamedTable))
    (extended : Extends extra used more) (relationships : List Relationship)
    (apart : ∀ entry ∈ nameRelationships rules overrides tables used relationships,
      ∀ given, assigned? entry.2 = some given → ¬extra given.scope (rules.key given.name)) :
    nameRelationships rules overrides tables more relationships =
      nameRelationships rules overrides tables used relationships := by
  induction relationships generalizing used more with
  | nil => rfl
  | cons relationship rest inductionHypothesis =>
    rw [nameRelationships] at apart ⊢
    rw [nameRelationships]
    split at apart
    · rename_i reachable
      rw [if_pos reachable, if_pos reachable]
      cases success : give rules overrides used (relationshipRequest relationship) with
      | error failure =>
        rw [success] at apart
        rw [give_extends_error success extended]
        dsimp only at apart ⊢
        rw [inductionHypothesis extended (List.forall_mem_cons.mp apart).2]
      | ok result =>
        obtain ⟨given, next⟩ := result
        rw [success] at apart
        obtain ⟨apartHere, apartRest⟩ := List.forall_mem_cons.mp apart
        obtain ⟨moreNext, givenMore, stillExtended⟩ :=
          give_extends_ok success extended (apartHere given rfl)
        rw [givenMore]
        dsimp only
        rw [inductionHypothesis stillExtended apartRest]
    · rename_i unreachable
      rw [if_neg unreachable, if_neg unreachable,
        inductionHypothesis extended (List.forall_mem_cons.mp apart).2]

end Naming

end SchemaForward
