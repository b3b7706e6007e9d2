import Mathlib.Logic.Relation
import SchemaForward.Proofs.Model.Validity
import SchemaForward.Proofs.Script.Overrides
import SchemaForward.Proofs.Script.Warnings

/-!
# Runs do not depend on history

A writer keeps two kinds of things: its settings, which are the dialect, the schema and the
overrides, and the results of its last run. A run reads the settings and the model only. It replaces
all results or, if the model is refused, leaves none, and never touches the settings. So what a
writer has been through shows only in its settings, and a new writer brought to the same settings
does the same from there on.

Overrides are the same when they ask for the same names; in which order they were put together is no
matter.
-/

namespace SchemaForward

namespace ScriptWriter

/-- What can happen to a writer. Between runs its warnings may be overwritten at will, but none is
added and none removed. -/
inductive Step : ScriptWriter → ScriptWriter → Prop
  | generate (writer : ScriptWriter) (model : Model) : Step writer (writer.generate model).2
  | edit (writer : ScriptWriter) (warnings : List Warning)
      (sameLength : warnings.length = writer.warnings.length) : Step writer { writer with warnings }
  | withOverride (writer : ScriptWriter) (object : ModelElement) (name : String) :
      Step writer (writer.withOverride object name)
  | adoptEdits (writer : ScriptWriter) : Step writer writer.adoptEdits.2
  | withoutOverrides (writer : ScriptWriter) : Step writer writer.withoutOverrides
  | inSchema (writer : ScriptWriter) (schema : Option String) : Step writer (writer.inSchema schema)

/-- Overwriting one warning is one way of overwriting all of them. Nothing happens if there is none
at the position. -/
theorem Step.editWarning (writer : ScriptWriter) (position : Nat) (value : String) :
    Step writer (writer.editWarning position value) :=
  .edit writer _ (List.length_modify _ _ _)

/-- A writer for the dialect with anything behind it. -/
def Reached (dialect : Dialect) (writer : ScriptWriter) : Prop :=
  Relation.ReflTransGen Step (new dialect) writer

/-- What is kept by all that can happen to a writer: its dialect, and that no schema of an empty
name is set. -/
structure Keeps (dialect : Dialect) (writer : ScriptWriter) : Prop where
  dialect : writer.dialect = dialect
  schema : writer.targetSchema.filter (fun name => !name.isEmpty) = writer.targetSchema

/-- A run leaves the dialect as it is, whether or not the model is refused. -/
theorem dialect_generate (writer : ScriptWriter) (model : Model) :
    (writer.generate model).2.dialect = writer.dialect := by
  rw [generate]
  cases model.validate <;> rfl

/-- A run leaves the schema as it is, whether or not the model is refused. -/
theorem targetSchema_generate (writer : ScriptWriter) (model : Model) :
    (writer.generate model).2.targetSchema = writer.targetSchema := by
  rw [generate]
  cases model.validate <;> rfl

/-- A run leaves the overrides as they are. Edited warnings only become overrides when they are
adopted. -/
theorem overrides_generate (writer : ScriptWriter) (model : Model) :
    (writer.generate model).2.overrides = writer.overrides := by
  rw [generate]
  cases model.validate <;> rfl

/-- Whatever happens to a writer keeps its dialect, and no schema of an empty name gets set. Only
one kind of step sets a schema at all, and it takes an empty name for none. -/
theorem Keeps.step {dialect : Dialect} {before after : ScriptWriter} (keeps : Keeps dialect before)
    (step : Step before after) : Keeps dialect after := by
  cases step with
  | generate model =>
    exact ⟨(dialect_generate before model).trans keeps.dialect, by
      rw [targetSchema_generate]
      exact keeps.schema⟩
  | edit warnings sameLength => exact ⟨keeps.dialect, keeps.schema⟩
  | withOverride object name => exact ⟨keeps.dialect, keeps.schema⟩
  | adoptEdits => exact ⟨keeps.dialect, keeps.schema⟩
  | withoutOverrides => exact ⟨keeps.dialect, keeps.schema⟩
  | inSchema schema => exact ⟨keeps.dialect, by rw [inSchema, Option.filter_filter]; simp⟩

/-- A writer that has been through anything still has its dialect and no schema of an empty name.
The proof goes along its history, which started from a writer without a schema. -/
theorem Reached.keeps {dialect : Dialect} {writer : ScriptWriter}
    (reached : Reached dialect writer) : Keeps dialect writer := by
  induction reached with
  | refl => exact ⟨rfl, rfl⟩
  | tail _ step inductionHypothesis => exact inductionHypothesis.step step

/-- Writers have the same settings. -/
structure SameSettings (first second : ScriptWriter) : Prop where
  dialect : first.dialect = second.dialect
  targetSchema : first.targetSchema = second.targetSchema
  overrides : ∀ object, first.overrides.get? object = second.overrides.get? object

/-- Runs have the same results. -/
structure SameResults (first second : Except ModelFault Unit × ScriptWriter) : Prop where
  outcome : first.1 = second.1
  state : first.2.state = second.2.state
  definitions : first.2.definitions = second.2.definitions
  statements : first.2.statements = second.2.statements
  names : first.2.names = second.2.names
  warnings : first.2.warnings = second.2.warnings
  skipped : first.2.skipped = second.2.skipped

/-- A run reads nothing of the writer but its settings. What earlier runs have left, edited warnings
included, is overwritten or thrown away. Overrides count only by what they say of each object. -/
theorem sameResults_generate {first second : ScriptWriter} (same : SameSettings first second)
    (model : Model) : SameResults (first.generate model) (second.generate model) := by
  have sameNaming : Naming.ofModel second.dialect.identifiers first.overrides model =
      Naming.ofModel second.dialect.identifiers second.overrides model :=
    Naming.ofModel_congr same.overrides
  rw [generate, generate]
  -- The overrides may differ as lists, and so may the writers after the run; their results do not.
  cases model.validate with
  | error fault => exact ⟨rfl, rfl, rfl, rfl, rfl, rfl, rfl⟩
  | ok _ =>
    constructor <;> simp only [completed, same.dialect, same.targetSchema, sameNaming]

/-- A new writer brought to a schema and overrides. -/
def configured (dialect : Dialect) (schema : Option String)
    (overrides : List (ModelElement × String)) : ScriptWriter :=
  overrides.foldr (fun entry writer => writer.withOverride entry.1 entry.2)
    ((new dialect).inSchema schema)

/-- Bringing a new writer to some overrides changes its overrides and nothing else. What is set last
stands first in the list. -/
theorem configured_eq (dialect : Dialect) (schema : Option String)
    (overrides : List (ModelElement × String)) : configured dialect schema overrides =
      { (new dialect).inSchema schema with
        overrides := overrides.foldr (fun entry rest => rest.insert entry.1 entry.2) .empty } := by
  induction overrides with
  | nil => rfl
  | cons entry rest inductionHypothesis =>
    rw [configured, List.foldr_cons, ← configured, inductionHypothesis]
    rfl

/-- Whatever a writer has been through, a new one can be brought to its settings. -/
theorem Reached.sameSettings_configured {dialect : Dialect} {writer : ScriptWriter}
    (reached : Reached dialect writer) :
    SameSettings writer (configured dialect writer.targetSchema writer.overrides.entries) := by
  have keeps := reached.keeps
  rw [configured_eq]
  exact ⟨keeps.dialect, keeps.schema.symm,
    fun object => (Overrides.get?_foldr_insert _ object).symm⟩

/-- A writer has no results. -/
structure IsBlank (writer : ScriptWriter) : Prop where
  state : writer.state = .notStarted
  definitions : writer.definitions = []
  statements : writer.statements = []
  names : writer.names = []
  warnings : writer.warnings = []
  skipped : writer.skipped = []

/-- Whatever a writer has been through, its next run is that of a new writer with its settings. It
fails exactly if some reference of the model leads nowhere, and then leaves no results; otherwise it
completes. In both cases the settings stay as they are. -/
theorem generate_forgets_history {dialect : Dialect} {writer : ScriptWriter}
    (reached : Reached dialect writer) (model : Model) :
    let result := writer.generate model
    let fresh := configured dialect writer.targetSchema writer.overrides.entries
    (SameSettings writer fresh ∧ SameResults result (fresh.generate model) ∧
        ∀ other, SameSettings writer other → SameResults result (other.generate model)) ∧
      ((∃ fault, result.1 = .error fault) ↔ model.Dangles) ∧
      (model.Dangles → result.2.IsBlank) ∧
      (¬model.Dangles → result.1 = .ok () ∧ result.2.state = .done) ∧
      result.2.dialect = writer.dialect ∧ result.2.targetSchema = writer.targetSchema ∧
      result.2.overrides = writer.overrides := by
  intro result fresh
  have same := reached.sameSettings_configured
  refine ⟨⟨same, sameResults_generate same model, ?_⟩, ?_, ?_, ?_,
    dialect_generate writer model, targetSchema_generate writer model,
    overrides_generate writer model⟩
  · intro other sameOther
    exact sameResults_generate sameOther model
  · rw [← Model.exists_validate_eq_error_iff, show result = writer.generate model from rfl,
      generate]
    cases model.validate <;> rfl
  · intro dangles
    obtain ⟨fault, refused⟩ := Model.exists_validate_eq_error_iff.mpr dangles
    rw [show result = writer.generate model from rfl, generate, refused]
    exact ⟨rfl, rfl, rfl, rfl, rfl, rfl⟩
  · intro intact
    rw [show result = _ from writer.generate_of_valid (Model.validate_eq_ok_iff.mpr intact)]
    exact ⟨rfl, rfl⟩

/-- A table with an index on a column that it does not have. -/
def loose : Model where
  tables := [{ name := "t", indexes := [{ name := "i", columns := ["a"] }] }]

/-- A writer with an edited name as an override, whose last run failed. -/
def weathered : ScriptWriter :=
  let edited := (((new terse).generate lengthy).2.editWarning 0 "BOOK").adoptEdits.2
  (edited.generate loose).2.inSchema (some "S")

/-- The weathered writer goes on as a new one with the same schema and override. Its failed run has
left nothing behind, and the edited warning only counts through the override that was made of it. -/
theorem weathered_generate_forgets_history :
    Reached terse weathered ∧ weathered.state = .notStarted ∧
      weathered.overrides.entries = [(.table "order", "BOOK")] ∧ loose.Dangles ∧
      SameResults (weathered.generate lengthy)
        ((configured terse (some "S") [(.table "order", "BOOK")]).generate lengthy) := by
  have reached : Reached terse weathered :=
    Relation.ReflTransGen.refl.tail (.generate _ lengthy) |>.tail (.editWarning _ 0 "BOOK")
      |>.tail (.adoptEdits _) |>.tail (.generate _ loose) |>.tail (.inSchema _ (some "S"))
  have adopted : weathered.overrides.entries = [(.table "order", "BOOK")] := by decide +kernel
  have results := (generate_forgets_history reached lengthy).1.2.1
  rw [adopted] at results
  have dangles : loose.Dangles := .indexColumn _ List.mem_cons_self _ List.mem_cons_self "a"
    List.mem_cons_self (by simp [Table.HasColumn])
  exact ⟨reached, rfl, adopted, dangles, results⟩

end ScriptWriter

end SchemaForward
