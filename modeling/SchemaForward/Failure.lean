import SchemaForward.DataType.Code
import SchemaForward.Identifier.Legal
import SchemaForward.Model.Validity
import SchemaForward.Progress
import SchemaForward.Statement.DatabaseObject

/-!
# Failures

What can go wrong between a model and a database, by cause. The wording of an error is a function
of its cause.
-/

namespace SchemaForward

/-- Why a file could not be read or written. -/
inductive FileFault where
  | missing
  | notDirectory
  | isDirectory
  | notText
  | nameTooLong
  | badPath
  deriving DecidableEq, Repr, Inhabited

namespace FileFault

/-- The fault as the operating system words it. -/
def message : FileFault → String
  | .missing => "No such file or directory (os error 2)"
  | .notDirectory => "Not a directory (os error 20)"
  | .isDirectory => "Is a directory (os error 21)"
  | .notText => "stream did not contain valid UTF-8"
  | .nameTooLong => "File name too long (os error 36)"
  | .badPath => "file name contained an unexpected NUL byte"

end FileFault

/-- What a database refused or could not tell. -/
inductive DatabaseFault where
  | unreadable (message : String)
  | rejected (code : Nat) (message : String)
  | badAddress (message : String)
  | unsendable (message : String)
  deriving DecidableEq, Repr, Inhabited

namespace DatabaseFault

/-- The fault in words. -/
def message : DatabaseFault → String
  | .unreadable detail => s!"encountered unexpected or invalid data: {detail}"
  | .rejected code detail => s!"error returned from database: (code: {code}) {detail}"
  | .badAddress detail => s!"error with configuration: {detail}"
  | .unsendable detail => s!"error communicating with database: {detail}"

end DatabaseFault

/-- An operation that was called for in the wrong state. -/
inductive StateFault where
  | scannedAlready
  | notScanned
  | unownedConstraint (object : DatabaseObject)
  | stageVanished (stage : Stage)
  deriving DecidableEq, Repr, Inhabited

namespace StateFault

/-- The fault in words. -/
def message : StateFault → String
  | .scannedAlready => "conflict scan already ran on this resolver"
  | .notScanned => "conflicts must be found before they can be dropped"
  | .unownedConstraint object => s!"cannot drop {object.describe}: owning table unknown"
  | .stageVanished stage => s!"{stage.name} stage ended without reporting"

end StateFault

/-- What a failed statement was about: an object, the script as a whole, or nothing known. -/
inductive ExecutionSubject where
  | object (named : DatabaseObject)
  | script
  | unknown
  deriving DecidableEq, Repr, Inhabited

namespace ExecutionSubject

/-- The subject in words. -/
def describe : ExecutionSubject → String
  | .object named => named.describe
  | .script => "script"
  | .unknown => ""

end ExecutionSubject

/-- An error of forward engineering. -/
inductive Failure where
  | unmappedType (code : TypeCode) (dialect : String)
  | illegalName (failure : NamingFailure)
  | invalidModel (fault : ModelFault)
  | scanFailed (object : DatabaseObject) (cause : String)
  | executionFailed (subject : ExecutionSubject) (statement cause : String)
  | invalidState (fault : StateFault)
  | unknownDialect (name : String)
  | database (fault : DatabaseFault)
  | file (fault : FileFault)
  | malformed
  deriving DecidableEq, Repr, Inhabited

namespace Failure

/-- The error in words. What exactly is wrong with a malformed text is not told. -/
def message : Failure → String
  | .unmappedType code dialect => s!"Type {code.name} is not mapped by dialect '{dialect}'"
  | .illegalName failure =>
    s!"Cannot legalize {failure.scope.describe} name '{failure.name}': " ++
      failure.obstacle.describe
  | .invalidModel fault => s!"Invalid schema graph: {fault.describe}"
  | .scanFailed object cause =>
    s!"Failed to scan target database for conflicts with {object.describe}: {cause}"
  | .executionFailed subject statement cause =>
    s!"Statement for {subject.describe} failed: {cause}\n{statement}"
  | .invalidState fault => s!"Invalid state: {fault.message}"
  | .unknownDialect name => s!"Unknown dialect '{name}'"
  | .database fault => s!"Database error: {fault.message}"
  | .file fault => s!"IO error: {fault.message}"
  | .malformed => "Failed to parse"

/-- What the target said when it failed, without the words that this program puts around it. -/
def reportedMessage : Failure → String
  | .executionFailed _ _ cause => cause
  | .database fault => fault.message
  | other => other.message

end Failure

end SchemaForward
