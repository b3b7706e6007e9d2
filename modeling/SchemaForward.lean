import SchemaForward.CommandLine.Address
import SchemaForward.CommandLine.Arguments
import SchemaForward.CommandLine.Connection
import SchemaForward.CommandLine.Directory
import SchemaForward.CommandLine.Location
import SchemaForward.CommandLine.Run
import SchemaForward.Configuration
import SchemaForward.Conflict.Clearance
import SchemaForward.Conflict.Plan
import SchemaForward.Conflict.Scan
import SchemaForward.Conflict.Tree
import SchemaForward.DataType.Code
import SchemaForward.DataType.Map
import SchemaForward.DataType.Native
import SchemaForward.Deployment
import SchemaForward.Dialect.Basic
import SchemaForward.Dialect.Definition
import SchemaForward.Dialect.Known
import SchemaForward.Failure
import SchemaForward.Identifier.Legal
import SchemaForward.Identifier.Rules
import SchemaForward.Identifier.Taken
import SchemaForward.Json.Basic
import SchemaForward.Json.Printer
import SchemaForward.Json.Reader
import SchemaForward.Json.Record
import SchemaForward.Json.Token
import SchemaForward.Main
import SchemaForward.Model.Basic
import SchemaForward.Model.Encoding
import SchemaForward.Model.Validity
import SchemaForward.Progress
import SchemaForward.Proofs.Conflict.Catalogue
import SchemaForward.Proofs.Conflict.Closure
import SchemaForward.Proofs.Conflict.Delivery
import SchemaForward.Proofs.Conflict.DropOrder
import SchemaForward.Proofs.Conflict.Order
import SchemaForward.Proofs.Conflict.Scan
import SchemaForward.Proofs.Conflict.Steps
import SchemaForward.Proofs.Deployment.Approval
import SchemaForward.Proofs.Deployment.Cancellation
import SchemaForward.Proofs.Deployment.Course
import SchemaForward.Proofs.Deployment.Sequence
import SchemaForward.Proofs.Identifier.Legal
import SchemaForward.Proofs.Script.ForeignKeys
import SchemaForward.Proofs.Script.Naming
import SchemaForward.Proofs.Script.Order
import SchemaForward.Proofs.Target.Delivery
import SchemaForward.Proofs.Target.Steps
import SchemaForward.Script.Contents
import SchemaForward.Script.Naming
import SchemaForward.Script.Writer
import SchemaForward.Statement.Basic
import SchemaForward.Statement.DatabaseObject
import SchemaForward.Target.Basic
import SchemaForward.Target.Fixed
import SchemaForward.Target.Sqlite.Catalogue
import SchemaForward.Target.Sqlite.Clause
import SchemaForward.Target.Sqlite.Command
import SchemaForward.Target.Sqlite.Database
import SchemaForward.Target.Sqlite.Expression
import SchemaForward.Target.Sqlite.FileName
import SchemaForward.Target.Sqlite.Part
import SchemaForward.Target.Sqlite.TableBody
import SchemaForward.Target.Sqlite.Token
import SchemaForward.Text.Blank
import SchemaForward.Text.Escaped
import SchemaForward.Text.Letters
import SchemaForward.Text.Percent
import SchemaForward.Text.Quoted
import SchemaForward.Text.Shown
import SchemaForward.Text.Utf8
import SchemaForward.Warning.Basic
import SchemaForward.Proofs.Identifier.Changes
import SchemaForward.Proofs.Model.Validity
import SchemaForward.Proofs.Script.Contributions
import SchemaForward.Proofs.Script.Warnings
import SchemaForward.Proofs.Script.Overrides
import SchemaForward.Proofs.Script.Settled
import SchemaForward.Proofs.Script.History
import SchemaForward.Proofs.Script.Growth
import SchemaForward.Proofs.Conflict.Counting
import SchemaForward.Proofs.Deployment.Counting
import SchemaForward.Proofs.Conflict.Dealings
import SchemaForward.Proofs.Conflict.Steady
import SchemaForward.Proofs.Deployment.Preview
import SchemaForward.Proofs.Conflict.Precedence
import SchemaForward.Proofs.Conflict.FirstReady
import SchemaForward.Proofs.Conflict.Cycles
import SchemaForward.Proofs.Json.Reading
import SchemaForward.Proofs.Json.Records
import SchemaForward.Proofs.Script.KeyColumns
import SchemaForward.Proofs.Conflict.Rounds
import SchemaForward.Proofs.Identifier.Suffixes
import SchemaForward.Proofs.Script.Skipping
import SchemaForward.Proofs.DataType.Limits
import SchemaForward.Proofs.Conflict.Repetition
import SchemaForward.Proofs.Conflict.Attempts
import SchemaForward.Proofs.Script.PrimaryKeys
import SchemaForward.Proofs.Script.TypeWarnings
import SchemaForward.Proofs.DataType.Literals
import SchemaForward.Proofs.DataType.Fallback
