import SchemaForward.Proofs.Identifier.Changes
import SchemaForward.Proofs.Script.Contents
import SchemaForward.Proofs.Script.Naming
import SchemaForward.Proofs.Script.Requests

/-!
# What the warnings tell

Every identifier of a run is explained by the warnings on its object: they lead from the name that
was asked for, an override or else a name of the model, to the one that was given, without a gap and
without a step that changes nothing. An identifier without warnings was given as it was asked for.
The converse takes sensible rules, by which the identifier is legal: a name that is not legal may be
changed on the way and come out as it went in.

The explanations stand in the order of the identifiers, and the warnings about column types after
all of them. What was skipped is not spoken of.
-/

namespace SchemaForward

namespace Warning

/-- Warnings on an object lead from one name to another: each takes the name as the one before left
it, and makes another of it. None of them is edited. -/
inductive Explains (subject : ModelElement) : String → List Warning → String → Prop
  | unchanged (name : String) : Explains subject name [] name
  | changed (step : NameStep) {old new last : String} {rest : List Warning} (differ : old ≠ new)
      (further : Explains subject new rest last) :
      Explains subject old (.given subject (.name step) old new :: rest) last

/-- Changes that lead from one name to another give warnings that do so too. Each change becomes one
warning on the object. -/
theorem explains_of_leads (subject : ModelElement) {first last : String}
    {changes : List SpellingChange} (leads : IdentifierRules.Leads first changes last) :
    Explains subject first (changes.map fun change =>
      .given subject (.name change.step) change.old change.new) last := by
  induction leads with
  | nowhere name => exact .unchanged name
  | step differ _ inductionHypothesis => exact .changed _ differ inductionHypothesis

end Warning

/-- Warnings explain an identifier: they lead from the name that was asked for to the one that was
given, at most once by each step and in the order of the steps. -/
structure GivenIdentifier.ExplainedBy (rules : IdentifierRules) (given : GivenIdentifier)
    (chain : List Warning) : Prop where
  explains : Warning.Explains given.object given.requested chain given.name
  reasons : (chain.map (·.reason)).Sublist
    [.name .restricted, .name .truncated, .name .collision]
  unchanged : chain = [] → given.requested = given.name
  silent : rules.Sensible → given.requested = given.name → chain = []

namespace Naming

variable {rules : IdentifierRules} {overrides : Overrides}

/-- The identifier is for the object of a request, in its namespace, and what was asked for is the
override of the object or else the name in the request. -/
structure Asks (overrides : Overrides) (request : NameRequest) (given : GivenIdentifier) :
    Prop where
  object : given.object = request.object
  scope : given.scope = request.scope
  requested : given.requested = requestedName overrides request

/-- An identifier that was given to a request is for its object and in its namespace. What was asked
for is the override of the object, if there is one. -/
theorem asks_of_givenFor {request : NameRequest} {given : GivenIdentifier}
    (isGiven : GivenFor rules overrides request given) : Asks overrides request given := by
  obtain ⟨used, next, success⟩ := isGiven
  obtain ⟨legal, -, rfl⟩ := give_eq_ok_iff.mp success
  exact ⟨rfl, rfl, rfl⟩

/-- The warnings on an identifier explain it. They lead from the name that was asked for to the one
that was given, one warning for each change. -/
theorem explainedBy_of_givenFor {request : NameRequest} {given : GivenIdentifier}
    (isGiven : GivenFor rules overrides request given) :
    given.ExplainedBy rules given.warnings := by
  obtain ⟨used, next, success⟩ := isGiven
  obtain ⟨legal, found, rfl⟩ := give_eq_ok_iff.mp success
  have leads := IdentifierRules.leads_of_identifierFor found
  refine ⟨Warning.explains_of_leads _ leads, ?_, fun none => ?_, fun sensible same => ?_⟩
  · have steps := (IdentifierRules.steps_of_identifierFor found).map WarningCause.name
    rw [List.map_map] at steps
    rw [GivenIdentifier.warnings, List.map_map]
    exact steps
  · have unchanged : legal.changes = [] := List.map_eq_nil_iff.mp none
    rw [unchanged] at leads
    exact leads.eq_of_nil
  · -- Only a legal name is sure to come through all steps unchanged.
    have isLegal := sensible.isLegal_of_identifierFor found
    exact List.map_eq_nil_iff.mpr (IdentifierRules.changes_eq_nil found isLegal same)

end Naming

namespace ScriptWriter

/-- The warnings of a run are an explanation of each identifier, and after them the changes of the
column types of the tables that were named. -/
structure Reports (dialect : Dialect) (overrides : Overrides) (model : Model)
    (result : ScriptWriter) (naming : Naming) (chains : List (List Warning)) : Prop where
  tables : naming.tables.map Prod.fst = model.tables
  relationships : naming.relationships.map Prod.fst = model.relationships
  skipped : result.skipped = naming.skipped
  names : result.names = naming.entries
  asked : List.Forall₂ (Naming.Asks overrides) (naming.requests dialect.identifiers) result.names
  explained : List.Forall₂ (GivenIdentifier.ExplainedBy dialect.identifiers) result.names chains
  warnings : result.warnings =
    chains.flatten ++ naming.generated.flatMap fun entry => NamedTable.typeWarnings dialect entry.1

/-- A run over a valid model completes and reports each change of a name once, between the name that
was asked for and the one that was given, in the order of the names. The rules of the known dialects
are sensible, so that no warning is given on a name of theirs exactly if it is unchanged. -/
theorem warnings_explain_names (writer : ScriptWriter) {model : Model}
    (valid : model.validate = .ok ()) :
    let result := writer.generate model
    result.1 = .ok () ∧
      (∃ naming chains, Reports writer.dialect writer.overrides model result.2 naming chains) ∧
      ∀ spelling dialect, Dialect.named? spelling = some dialect →
        dialect.identifiers.Sensible := by
  intro result
  rw [show result = _ from writer.generate_of_valid valid]
  let naming := Naming.ofModel writer.dialect.identifiers writer.overrides model
  have answered : List.Forall₂ (Naming.GivenFor writer.dialect.identifiers writer.overrides)
      (naming.requests writer.dialect.identifiers) naming.entries :=
    Naming.forall₂_requests writer.dialect.identifiers writer.overrides model
  refine ⟨rfl, ⟨naming, naming.entries.map (·.warnings), ?_⟩, fun _ _ => Dialect.sensible_of_named⟩
  exact {
    tables := Naming.map_fst_tables_ofModel _ _ model
    relationships := Naming.map_fst_relationships_ofModel _ _ model
    skipped := rfl
    names := rfl
    asked := answered.imp fun _ _ => Naming.asks_of_givenFor
    explained := by
      refine List.forall₂_map_right_iff.mpr (List.forall₂_same.mpr fun given member => ?_)
      obtain ⟨request, -, isGiven⟩ := exists_of_forall₂_of_mem_right answered member
      exact Naming.explainedBy_of_givenFor isGiven
    warnings := rfl }

/-- A dialect with short names and a single suffix, in which indexes are named among the tables. -/
def terse : Dialect :=
  { scant with
    identifiers := { scant.identifiers with maxLength := some 6, indexesShareTables := true } }

/-- A table with a reserved name and two columns of names that are too long and become the same, and
two more tables, the second of which finds no room for its key. -/
def lengthy : Model where
  tables := [
    { name := "order", keyName := some "K", columns := [
      { name := "a long b", typeCode := .time },
      { name := "a long c", typeCode := .integer },
      { name := "PLAIN", typeCode := .integer }] },
    { name := "B", keyName := some "K", columns := [{ name := "ID", typeCode := .other }] },
    { name := "c", keyName := some "K", columns := [{ name := "id", typeCode := .other }] }]

/-- The names of the lengthy tables and what they were asked for, one by an override, with the
reasons of all warnings. The last table is not among them. -/
theorem lengthy_warnings_explain_names :
    let writer := (new terse).withOverride (.column "order" "PLAIN") "id"
    let result := writer.generate lengthy
    lengthy.validate = .ok () ∧
      result.2.names.map (fun given => (given.requested, given.name)) = [("order", "ORDER_"),
        ("a long b", "A_LONG"), ("a long c", "A_LO_1"), ("id", "ID"), ("K", "K"), ("B", "B"),
        ("ID", "ID"), ("K", "K_1")] ∧
      result.2.warnings.map (·.reason) = [.name .restricted, .name .restricted, .name .truncated,
        .name .restricted, .name .truncated, .name .collision, .name .restricted,
        .name .collision, .typeCoerced] ∧
      ∃ naming chains, Reports writer.dialect writer.overrides lengthy result.2 naming chains := by
  intro writer result
  have valid : lengthy.validate = .ok () := by decide +kernel
  exact ⟨valid, by decide +kernel, by decide +kernel,
    (writer.warnings_explain_names valid).2.1⟩

end ScriptWriter

end SchemaForward
