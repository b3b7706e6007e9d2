import SchemaForward.Failure
import SchemaForward.Script.Contents

/-!
# Script writers

A writer makes scripts for one dialect. It keeps the results of its last run: statements, names,
warnings and the objects it had to skip. Each run replaces them, whatever came before; a model that
is not valid leaves none. Between runs warnings can be edited, and edited names become overrides for
the next run.
-/

namespace SchemaForward

/-- How far a writer has come: it has a complete script, or none. A run is one call, and nobody can
look at the writer while it is under way, so what it is writing at a time is no state of its own. -/
inductive ScriptState where
  | notStarted
  | done
  deriving DecidableEq, Repr, Inhabited

namespace ScriptState

/-- The name of a state. -/
def name : ScriptState → String
  | .notStarted => "NotStarted"
  | .done => "Done"

end ScriptState

/-- A writer for a dialect. -/
structure ScriptWriter where
  dialect : Dialect
  targetSchema : Option String
  overrides : Overrides
  state : ScriptState
  definitions : List Definition
  statements : List Statement
  names : List GivenIdentifier
  warnings : List Warning
  skipped : List SkippedObject
  deriving DecidableEq, Repr, Inhabited

namespace ScriptWriter

/-- A writer that has not run. -/
def new (dialect : Dialect) : ScriptWriter where
  dialect
  targetSchema := none
  overrides := .empty
  state := .notStarted
  definitions := []
  statements := []
  names := []
  warnings := []
  skipped := []

/-- The writer with objects in the given schema; an empty name is no schema. -/
def inSchema (writer : ScriptWriter) (schema : Option String) : ScriptWriter :=
  { writer with targetSchema := schema.filter fun name => !name.isEmpty }

/-- The writer with a name asked for an object. -/
def withOverride (writer : ScriptWriter) (object : ModelElement) (name : String) : ScriptWriter :=
  { writer with overrides := writer.overrides.insert object name }

/-- The writer without overrides. -/
def withoutOverrides (writer : ScriptWriter) : ScriptWriter :=
  { writer with overrides := .empty }

/-- The writer with another new value in one of its warnings. -/
def editWarning (writer : ScriptWriter) (position : Nat) (value : String) : ScriptWriter :=
  { writer with
    warnings := writer.warnings.modify position fun warning =>
      { warning with newValue := value } }

/-- The warnings that ask for another name. -/
def requests (writer : ScriptWriter) : List Warning :=
  writer.warnings.filter fun warning => warning.reason.isName && warning.isEdited

/-- The writer with the edited names as overrides, and their number. -/
def adoptEdits (writer : ScriptWriter) : Nat × ScriptWriter :=
  (writer.requests.length,
    { writer with
      overrides := writer.requests.foldl
        (fun overrides warning => overrides.insert warning.subject warning.newValue)
        writer.overrides })

/-- The writer without results. -/
def cleared (writer : ScriptWriter) : ScriptWriter :=
  { writer with
    state := .notStarted
    definitions := []
    statements := []
    names := []
    warnings := []
    skipped := [] }

/-- The writer with the results for a valid model. -/
def completed (writer : ScriptWriter) (model : Model) : ScriptWriter :=
  let naming := Naming.ofModel writer.dialect.identifiers writer.overrides model
  let definitions := naming.definitions writer.dialect
  { writer with
    state := .done
    definitions
    statements := definitions.map (·.statement writer.dialect writer.targetSchema)
    names := naming.entries
    warnings := naming.warnings writer.dialect
    skipped := naming.skipped }

/-- The writer after a run over a model, and whether the model was valid. -/
def generate (writer : ScriptWriter) (model : Model) : Except ModelFault Unit × ScriptWriter :=
  match model.validate with
  | .error fault => (.error fault, writer.cleared)
  | .ok () => (.ok (), writer.completed model)

/-- The statements as a script. -/
def script (writer : ScriptWriter) : String :=
  Statement.scriptText writer.dialect.templates.terminator writer.statements

end ScriptWriter

end SchemaForward
