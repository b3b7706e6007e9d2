import SchemaForward.Proofs.Identifier.Suffixes
import SchemaForward.Proofs.Script.Naming

/-!
# Naming piece by piece

A model is named piece by piece, each from what those before it have taken, and the first failure
ends a table. What is taken can be accounted for exactly: by the identifiers of a table that was
named, and by those that a skipped table was given until it failed.
-/

namespace SchemaForward

namespace TakenNames

/-- Certain keys are taken besides the others. -/
def Extends (extra : Namespace → String → Prop) (used more : TakenNames) : Prop :=
  ∀ scope key, more.contains scope key = true ↔ used.contains scope key = true ∨ extra scope key

end TakenNames

open TakenNames (Extends)

namespace Naming

variable {α β : Type}

/-- One piece of naming after another, if the first does not fail. -/
def andThen (result : Except NamingFailure α × TakenNames)
    (continuation : α → TakenNames → Except NamingFailure β × TakenNames) :
    Except NamingFailure β × TakenNames :=
  match result with
  | (.error failure, next) => (.error failure, next)
  | (.ok value, next) => continuation value next

/-- A continuation goes on from what the first piece has brought back and left taken. -/
theorem andThen_ok (value : α) (next : TakenNames)
    (continuation : α → TakenNames → Except NamingFailure β × TakenNames) :
    andThen (.ok value, next) continuation = continuation value next :=
  rfl

/-- A continuation that only hands on what it got changes nothing. -/
theorem andThen_pure (result : Except NamingFailure α × TakenNames) :
    (andThen result fun value next => (.ok value, next)) = result := by
  rcases result with ⟨_ | value, next⟩ <;> rfl

/-- Three pieces may be put together from either end. A failure of any of them ends the whole with
what it has left taken. -/
theorem andThen_assoc {γ : Type} (result : Except NamingFailure α × TakenNames)
    (continuation : α → TakenNames → Except NamingFailure β × TakenNames)
    (last : β → TakenNames → Except NamingFailure γ × TakenNames) :
    andThen (andThen result continuation) last =
      andThen result fun value next => andThen (continuation value next) last := by
  rcases result with ⟨_ | value, next⟩ <;> rfl

/-- Two pieces succeed together only if both do. The second one then started from what the first had
left taken. -/
theorem andThen_eq_ok {result : Except NamingFailure α × TakenNames}
    {continuation : α → TakenNames → Except NamingFailure β × TakenNames} {value : β}
    {last : TakenNames} (success : andThen result continuation = (.ok value, last)) :
    ∃ first next, result = (.ok first, next) ∧ continuation first next = (.ok value, last) := by
  rcases result with ⟨_ | first, next⟩
  · cases success
  · exact ⟨first, next, rfl, success⟩

variable {rules : IdentifierRules} {overrides : Overrides} {used next : TakenNames}

/-- One identifier. A request that fails takes nothing. -/
def ask (rules : IdentifierRules) (overrides : Overrides) (request : NameRequest)
    (used : TakenNames) : Except NamingFailure GivenIdentifier × TakenNames :=
  match give rules overrides used request with
  | .error failure => (.error failure, used)
  | .ok (given, next) => (.ok given, next)

/-- Requests are made one after the other, and the first failure ends them. What was given before it
stays taken. -/
theorem giveAll_cons (request : NameRequest) (rest : List NameRequest) (used : TakenNames) :
    giveAll rules overrides used (request :: rest) =
      andThen (ask rules overrides request used) fun given next =>
        andThen (giveAll rules overrides next rest) fun others last =>
          (.ok (given :: others), last) := by
  rw [giveAll, ask]
  cases give rules overrides used request with
  | error failure => rfl
  | ok result =>
    rcases ended : giveAll rules overrides result.2 rest with ⟨_ | others, last⟩ <;>
      simp only [andThen, ended]

/-- Making requests in two goes comes to the same as making them in one. -/
theorem giveAll_append (first second : List NameRequest) (used : TakenNames) :
    giveAll rules overrides used (first ++ second) =
      andThen (giveAll rules overrides used first) fun entries next =>
        andThen (giveAll rules overrides next second) fun others last =>
          (.ok (entries ++ others), last) := by
  induction first generalizing used with
  | nil => exact (andThen_pure _).symm
  | cons request rest inductionHypothesis =>
    simp only [List.cons_append, giveAll_cons, inductionHypothesis, andThen_assoc, andThen_ok]

/-- Naming what belongs to a table, as pieces put together: its columns, its key and its indexes. In
this form what holds of single requests and of pieces put together holds of the whole. -/
theorem nameContents_eq (table : Table) (identifier : GivenIdentifier) (used : TakenNames) :
    nameContents rules overrides used table identifier =
      andThen (giveAll rules overrides used (columnRequests table identifier.name))
        fun columns afterColumns =>
          andThen (ask rules overrides (keyRequest rules table identifier.name) afterColumns)
            fun key afterKey =>
              andThen (giveAll rules overrides afterKey (indexRequests rules table))
                fun indexes last => (.ok ⟨identifier, columns, key, indexes⟩, last) := by
  rw [nameContents]
  rcases giveAll rules overrides used (columnRequests table identifier.name) with
    ⟨_ | columns, afterColumns⟩
  · rfl
  · simp only [andThen, ask]
    rcases give rules overrides afterColumns (keyRequest rules table identifier.name) with
      _ | ⟨key, afterKey⟩
    · rfl
    · rcases ended : giveAll rules overrides afterKey (indexRequests rules table) with
        ⟨_ | indexes, last⟩ <;> simp only [ended]

/-- The contents of a table are named by giving all identifiers for them in order. -/
theorem giveAll_contentRequests (table : Table) (identifier : GivenIdentifier)
    (used : TakenNames) :
    giveAll rules overrides used (contentRequests rules table identifier.name) =
      andThen (nameContents rules overrides used table identifier) fun named last =>
        (.ok (named.columns ++ named.key :: named.indexes), last) := by
  simp only [contentRequests, giveAll_append, giveAll_cons, nameContents_eq, andThen_assoc,
    andThen_ok]

/-- Naming a table, as pieces put together: its own identifier, and then what belongs to it. -/
theorem nameTable_eq (table : Table) (used : TakenNames) :
    nameTable rules overrides used table =
      andThen (ask rules overrides (tableRequest table) used) fun identifier next =>
        nameContents rules overrides next table identifier := by
  rw [nameTable, ask]
  cases give rules overrides used (tableRequest table) <;> rfl

/-- A table that is skipped fails at one of its requests. They are made in parts, but one behind the
other they are the requests of one list, made for the identifier of the table or for any name if
that one fails. -/
theorem exists_giveAll_of_nameTable_error {table : Table} {failure : NamingFailure}
    (failed : nameTable rules overrides used table = (.error failure, next)) :
    ∃ name, giveAll rules overrides used (requestsFor rules table name) =
      (.error failure, next) := by
  rw [nameTable_eq] at failed
  rcases asked : ask rules overrides (tableRequest table) used with ⟨_ | identifier, afterTable⟩
  · -- The request for the table comes first, whatever the identifier.
    refine ⟨"", ?_⟩
    rw [asked] at failed
    rw [requestsFor, giveAll_cons, asked]
    cases failed
    rfl
  · refine ⟨identifier.name, ?_⟩
    rw [asked, andThen_ok] at failed
    rw [requestsFor, giveAll_cons, asked, andThen_ok, giveAll_contentRequests, failed]
    rfl

/-- Between two stages exactly the keys of certain identifiers are taken. -/
def Takes (rules : IdentifierRules) (used : TakenNames) (entries : List GivenIdentifier)
    (next : TakenNames) : Prop :=
  Extends (fun scope key => (scope, key) ∈ entries.map (place rules)) used next

/-- Between two stages that are the same, nothing is taken. -/
theorem Takes.nil (used : TakenNames) : Takes rules used [] used := by
  intro scope key
  simp

/-- What is taken between three stages is what is taken in the first part and in the second. -/
theorem Takes.append {first second : List GivenIdentifier} {last : TakenNames}
    (earlier : Takes rules used first next) (later : Takes rules next second last) :
    Takes rules used (first ++ second) last := by
  intro scope key
  rw [later scope key, earlier scope key, or_assoc, List.map_append]
  exact or_congr_right List.mem_append.symm

/-- A request that succeeds as a piece of naming has succeeded by itself. -/
theorem give_of_ask {request : NameRequest} {given : GivenIdentifier}
    (success : ask rules overrides request used = (.ok given, next)) :
    give rules overrides used request = .ok (given, next) := by
  rw [ask] at success
  split at success
  · cases success
  · rename_i isGiven
    cases success
    exact isGiven

/-- A request that succeeds takes the key of its identifier and no other. -/
theorem takes_of_ask {request : NameRequest} {given : GivenIdentifier}
    (success : ask rules overrides request used = (.ok given, next)) :
    Takes rules used [given] next := by
  have isGiven := give_of_ask success
  rw [give] at isGiven
  split at isGiven
  · cases isGiven
  · rename_i legal last found
    obtain ⟨rfl, rfl⟩ := Prod.mk.inj (Except.ok.inj isGiven)
    obtain ⟨-, rfl, -⟩ := IdentifierRules.of_identifierFor found
    intro scope key
    rw [TakenNames.contains_insert_iff]
    simp only [List.map_cons, List.map_nil, List.mem_singleton, place, Prod.mk.injEq]

/-- Requests that succeed take the keys of their identifiers and no others, by induction on them. -/
theorem takes_of_giveAll {requests : List NameRequest} {entries : List GivenIdentifier}
    (success : giveAll rules overrides used requests = (.ok entries, next)) :
    Takes rules used entries next := by
  induction requests generalizing used entries with
  | nil =>
    cases success
    exact .nil _
  | cons request rest inductionHypothesis =>
    rw [giveAll_cons] at success
    obtain ⟨given, between, isGiven, remaining⟩ := andThen_eq_ok success
    obtain ⟨others, last, areOthers, parts⟩ := andThen_eq_ok remaining
    cases parts
    exact (takes_of_ask isGiven).append (inductionHypothesis areOthers)

/-- Requests of which one fails take the keys of the identifiers for those before it. They are given
to no object in the end, and their keys stay taken none the less. -/
theorem takes_of_giveAll_error {requests : List NameRequest} {failure : NamingFailure}
    (failed : giveAll rules overrides used requests = (.error failure, next)) :
    ∃ done entries, done <+: requests ∧ List.Forall₂ (Answers rules) done entries ∧
      Gives rules used entries next ∧ Takes rules used entries next := by
  induction requests generalizing used with
  | nil => cases failed
  | cons request rest inductionHypothesis =>
    rw [giveAll_cons] at failed
    rcases asked : ask rules overrides request used with ⟨_ | given, between⟩
    · have unchanged : used = between := by
        rw [ask] at asked
        split at asked <;> cases asked
        rfl
      rw [asked] at failed
      cases failed
      exact ⟨[], [], List.nil_prefix, .nil, unchanged ▸ .nil used, unchanged ▸ .nil used⟩
    · rw [asked] at failed
      rcases remaining : giveAll rules overrides between rest with ⟨_ | others, last⟩
      · simp only [andThen, remaining] at failed
        cases failed
        obtain ⟨done, entries, isPrefix, answers, gives, takes⟩ := inductionHypothesis remaining
        obtain ⟨givesHere, answersHere⟩ := of_give (give_of_ask asked)
        exact ⟨request :: done, given :: entries, (List.prefix_cons_inj _).mpr isPrefix,
          .cons answersHere answers, givesHere.append gives, (takes_of_ask asked).append takes⟩
      · simp only [andThen, remaining] at failed
        cases failed

/-- A table that is named takes the keys of its identifiers and no others. A key is taken with each
of them, and none besides. -/
theorem takes_of_nameTable {table : Table} {named : NamedTable}
    (success : nameTable rules overrides used table = (.ok named, next)) :
    Takes rules used named.entries next := by
  rw [nameTable_eq] at success
  obtain ⟨identifier, afterTable, isTable, contents⟩ := andThen_eq_ok success
  rw [nameContents_eq] at contents
  obtain ⟨columns, afterColumns, areColumns, keyed⟩ := andThen_eq_ok contents
  obtain ⟨key, afterKey, isKey, indexed⟩ := andThen_eq_ok keyed
  obtain ⟨indexes, last, areIndexes, parts⟩ := andThen_eq_ok indexed
  cases parts
  exact (takes_of_ask isTable).append ((takes_of_giveAll areColumns).append
    ((takes_of_ask isKey).append (takes_of_giveAll areIndexes)))

/-- If no table is skipped, the tables take the keys of their identifiers and no others. A table
that is skipped would leave keys behind that belong to no identifier. -/
theorem takes_of_nameTables {tables : List Table}
    (kept : ∀ entry ∈ (nameTables rules overrides used tables).1, ∃ named, entry.2 = .ok named) :
    Takes rules used
      ((nameTables rules overrides used tables).1.flatMap fun entry => outcomeEntries entry.2)
      (nameTables rules overrides used tables).2 := by
  induction tables generalizing used with
  | nil => exact .nil _
  | cons table rest inductionHypothesis =>
    obtain ⟨⟨named, isNamed⟩, keptRest⟩ := List.forall_mem_cons.mp kept
    have here : Takes rules used named.entries (nameTable rules overrides used table).2 :=
      takes_of_nameTable (Prod.ext isNamed rfl)
    have both := here.append (inductionHypothesis keptRest)
    rw [show named.entries = outcomeEntries (nameTable rules overrides used table).1 from
      congrArg outcomeEntries isNamed.symm] at both
    exact both

end Naming

end SchemaForward
