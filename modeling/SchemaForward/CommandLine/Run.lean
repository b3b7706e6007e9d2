import SchemaForward.CommandLine.Arguments
import SchemaForward.CommandLine.Connection
import SchemaForward.Deployment
import SchemaForward.Script.Writer

/-!
# Running a command

What a command prints and changes, as a function of its arguments and surroundings: the files of
the working directory, the text of standard input and the environment. The configuration is read
first, then the model, then the dialect; the script is complete before a database is opened.
-/

namespace SchemaForward.CommandLine

/-- The surroundings of a run. -/
structure Surroundings where
  directory : Directory
  input : String := ""
  databaseAddress : Option String := none
  deriving Repr, Inhabited

/-- Why a run failed. -/
inductive RunError where
  | forward (error : Failure)
  | output (fault : FileFault)
  | noTarget
  | stage (stage : Stage) (error : Failure)
  deriving DecidableEq, Repr, Inhabited

namespace RunError

/-- The error in words. -/
def message : RunError → String
  | .forward error => error.message
  | .output fault => fault.message
  | .noTarget => "no target database: pass --database or set DATABASE_URL"
  | .stage at_ error => s!"{at_.name} stage failed: {error.message}"

end RunError

/-- What a run leaves: its output, the warnings it gave, whether it asked for a decision, the files,
and an error if it failed. -/
structure RunResult where
  output : String := ""
  warnings : String := ""
  asked : Bool := false
  directory : Directory
  error : Option RunError := none
  deriving Repr, Inhabited

/-- A line of dashes under a heading. -/
def rule : String :=
  String.ofList (List.replicate 60 '-') ++ "\n"

/-- A text followed by blanks up to a width. -/
def padded (width : Nat) (text : String) : String :=
  text ++ String.ofList (List.replicate (width - text.length) ' ')

/-- The list of known dialects. -/
def dialectList : String :=
  "\nBuilt-in dialects:\n" ++ rule ++
    String.join (Dialect.known.map fun dialect =>
      let limit := match dialect.identifiers.maxLength with
        | some length => toString length.toNat
        | none => "unlimited"
      s!" {padded 12 dialect.name} max identifier length: {limit}\n") ++ "\n"

/-- The list of warnings, if there are some. -/
def warningList (warnings : List Warning) : String :=
  if warnings.isEmpty then ""
  else
    "\nWarnings:\n" ++ rule ++
      String.join (warnings.map fun warning =>
        s!" {warning.reason.describe} {warning.subject.describe}: " ++
          s!"{warning.oldValue} -> {warning.newValue}\n") ++ "\n"

/-- The drops of a plan, one a line. -/
def dropList (drops : List DropStep) : String :=
  String.join (drops.map fun planned => s!" {planned.statement}\n")

/-- What a user is told before deciding about conflicts. The question ends its line, so that what is
printed next starts a line of its own. -/
def prompt (conflicts : List ConflictTree) (drops : List DropStep) : String :=
  s!"\nConflicting objects ({conflicts.length}):\n" ++ rule ++
    String.join (conflicts.map ConflictTree.render) ++ "\nWould drop:\n" ++ dropList drops ++
    "\nDrop these objects? [y]es / [n]o, keep them / [c]ancel: \n"

/-- The decision that an answer spells. Whatever is neither yes nor no calls the run off. -/
def decisionOf (input : String) : Decision :=
  let line := input.toList.takeWhile (· != '\n')
  let answer := Text.lower (String.ofList (Text.trimmed line))
  if answer == "y" || answer == "yes" then .drop
  else if answer == "n" || answer == "no" then .keep
  else .cancel

/-- The gate of a policy. -/
def gateOf (policy : ConflictPolicy) (input : String) : Gate := fun _ _ =>
  match policy with
  | .ask => ⟨decisionOf input, false⟩
  | .always => ⟨.drop, false⟩
  | .never => ⟨.keep, false⟩

/-- The configuration of an invocation. The address of a database in the arguments counts more than
one in the environment, and either more than one in the file. -/
def configurationOf (invocation : Invocation) (surroundings : Surroundings) :
    Except Failure Configuration :=
  let address := match invocation.database with
    | some address => some address
    | none => surroundings.databaseAddress
  let read := match invocation.configuration with
    | some path => surroundings.directory.decode Configuration.ofJson? path
    | none => .ok {}
  read.map fun configuration =>
    match address with
    | some address => { configuration with databaseAddress := some address }
    | none => configuration

/-- The configuration with what is given about a script. A dialect file counts more than a name, and
a name does away with a file from the configuration. -/
def withScript (configuration : Configuration) (script : ScriptArguments) : Configuration :=
  let named := match script.dialectFile, script.dialect with
    | some path, _ => { configuration with dialectFile := some path }
    | none, some name => { configuration with dialectFile := none, dialect := some name }
    | none, none => configuration
  match script.schemaName with
  | some schema => { named with targetSchema := some schema }
  | none => named

/-- The writer after a run over the model of a script. -/
def generate (directory : Directory) (configuration : Configuration) (script : ScriptArguments) :
    Except Failure ScriptWriter :=
  match directory.decode Model.ofJson? script.model with
  | .error error => .error error
  | .ok model =>
    match directory.dialect configuration with
    | .error error => .error error
    | .ok dialect =>
      match ((ScriptWriter.new dialect).inSchema configuration.targetSchema).generate
          model with
      | (.error fault, _) => .error (.invalidModel fault)
      | (.ok (), writer) => .ok writer

/-- What a dry run prints: the conflicts and their drops, then the script. -/
def preview (writer : ScriptWriter) (connection : Connection) : Except Failure String :=
  match (Clearance.ofScript writer.dialect writer.statements).find Connection.calls
      (.start connection) with
  | (.failed error, _, _) => .error error
  | (_, clearance, _) =>
    let script := s!"\n{writer.script}\n"
    if clearance.conflicts.isEmpty then .ok ("\nNo conflicting objects.\n" ++ script)
    else
      clearance.plan.map fun drops =>
        "\nConflicting objects:\n" ++ rule ++ clearance.tree ++ "\nWould drop:\n" ++
          dropList drops ++ script

/-- The policy of a run, in which arguments count more than the configuration. -/
def policyOf (configuration : Configuration) (drop keep : Bool) : ConflictPolicy :=
  if drop then .always else if keep then .never else configuration.dropPolicy

/-- Applies a script to a database. -/
def apply (writer : ScriptWriter) (connection : Connection) (policy : ConflictPolicy)
    (surroundings : Surroundings) (result : RunResult) : RunResult :=
  let (report, session) := Deployment.run Connection.calls writer.dialect
    writer.statements (gateOf policy surroundings.input) (.start connection)
  let asked := policy == .ask && report.decision.isSome
  { result with
    output := if asked then prompt report.conflicts report.drops else ""
    asked
    directory := session.target.save result.directory
    error := match report.outcome with
      | .failed stage error => some (.stage stage error)
      | _ => none }

/-- Prints a script, or writes it to a file. -/
def runGenerate (configuration : Configuration) (script : ScriptArguments)
    (output : Option String) (result : RunResult) : RunResult :=
  match generate result.directory (withScript configuration script) script with
  | .error error => { result with error := some (.forward error) }
  | .ok writer =>
    let text := s!"{writer.script}\n"
    let noted := { result with warnings := warningList writer.warnings }
    match output with
    | none => { noted with output := text }
    | some path =>
      match result.directory.write path text with
      | .ok directory => { noted with directory }
      | .error fault => { result with error := some (.output fault) }

/-- Applies a script to a database, or shows what that would do. -/
def runForward (configuration : Configuration) (script : ScriptArguments)
    (drop keep dryRun : Bool) (surroundings : Surroundings) (result : RunResult) : RunResult :=
  match generate result.directory (withScript configuration script) script with
  | .error error => { result with error := some (.forward error) }
  | .ok writer =>
    let noted := { result with warnings := warningList writer.warnings }
    match configuration.databaseAddress with
    | none => { noted with error := some .noTarget }
    | some address =>
      match Connection.ofAddress result.directory address with
      | .error fault => { noted with error := some (.forward (.database fault)) }
      | .ok connection =>
        let opened := { noted with directory := connection.save noted.directory }
        if dryRun then
          match preview writer connection with
          | .ok output => { opened with output }
          | .error error => { opened with error := some (.forward error) }
        else apply writer connection (policyOf configuration drop keep) surroundings opened

/-- Runs an invocation. -/
def run (invocation : Invocation) (surroundings : Surroundings) : RunResult :=
  let result : RunResult := { directory := surroundings.directory }
  match configurationOf invocation surroundings with
  | .error error => { result with error := some (.forward error) }
  | .ok configuration =>
    match invocation.command with
    | .dialects => { result with output := dialectList }
    | .generate script output => runGenerate configuration script output result
    | .forward script drop keep dryRun =>
      runForward configuration script drop keep dryRun surroundings result

/-- The paths of the texts that a run reads, given its configuration. -/
def textPaths (invocation : Invocation) (configuration : Configuration) : List String :=
  invocation.configuration.toList ++
    match invocation.command with
    | .dialects => []
    | .generate script _ => script.model :: (withScript configuration script).dialectFile.toList
    | .forward script _ _ _ =>
      script.model :: (withScript configuration script).dialectFile.toList

/-- The paths that a run has for its database, given its configuration: that of its file, and that
of another with the same permissions. -/
def databasePaths (invocation : Invocation) (configuration : Configuration) : List String :=
  match invocation.command, configuration.databaseAddress with
  | .forward _ _ _ _, some text =>
    match (DatabaseAddress.ofText text).bind (·.request) with
    | .ok request =>
      if request.isPassing then [] else request.path :: request.exemplar.toList
    | .error _ => []
  | _, _ => []

/-- The path that a run writes a script to. -/
def outputPath? (invocation : Invocation) : Option String :=
  match invocation.command with
  | .generate _ output => output
  | _ => none

end SchemaForward.CommandLine
