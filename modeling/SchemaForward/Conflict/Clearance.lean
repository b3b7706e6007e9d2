import SchemaForward.Conflict.Plan
import SchemaForward.Conflict.Scan
import SchemaForward.Statement.Basic

/-!
# Clearing the way

A clearance finds the conflicts of one script and drops them. It scans once. A scan that is
cancelled or fails leaves no conflicts behind, and then nothing can be dropped. Dropping looks at
the cancel flag before each statement and stops at the first that fails; what is dropped by then
stays dropped.

A scan that the target never comes back to is the last call of all: nobody is left who could look at
what it had found by then, and it is not kept.
-/

namespace SchemaForward

/-- The clearance of the objects that a script creates. -/
structure Clearance where
  dialect : Dialect
  subjects : List DatabaseObject
  conflicts : List ConflictTree
  progress : Nat
  dropped : Nat
  started : Bool
  finished : Bool

namespace Clearance

/-- The clearance for a script that has not scanned yet. -/
def ofScript (dialect : Dialect) (statements : List Statement) : Clearance where
  dialect
  subjects := statements.flatMap Statement.createdObjects
  conflicts := []
  progress := 0
  dropped := 0
  started := false
  finished := false

/-- The number of objects to look for. -/
def jobSize (clearance : Clearance) : Nat :=
  clearance.subjects.length

/-- Looks for every object that the script creates. What was found is kept only by a scan that runs
to its end, as the number of objects done is by every scan. -/
def find {σ : Type} (target : Target σ) (clearance : Clearance) (session : Session σ) :
    Ending Unit × Clearance × Session σ :=
  if clearance.started then (.failed (.invalidState .scannedAlready), clearance, session)
  else
    let begun := { clearance with started := true }
    match Scan.run target clearance.jobSize clearance.subjects ⟨[], clearance.progress⟩
        (session.publish .find clearance.jobSize 0) with
    | (.finished (), state, next) =>
      (.finished (),
        { begun with conflicts := state.found, progress := state.done, finished := true }, next)
    | (.cancelled, state, next) => (.cancelled, { begun with progress := state.done }, next)
    | (.failed error, state, next) => (.failed error, { begun with progress := state.done }, next)
    | (.crashed, state, next) => (.crashed, { begun with progress := state.done }, next)

/-- The statements that drop all conflicts, in order. -/
def plan (clearance : Clearance) : Except Failure (List DropStep) :=
  DropPlan.ofTrees clearance.dialect clearance.conflicts

/-- The error of a drop that failed. -/
def dropFailure (planned : DropStep) (error : Failure) : Failure :=
  .executionFailed (.object planned.object) planned.statement error.reportedMessage

/-- Runs drops in order. Given are the size of the job, the drops done so far and the last count of
drops that was kept; each accepted drop is counted anew. -/
def runDrops {σ : Type} (target : Target σ) (jobSize : Nat) :
    List DropStep → (done dropped : Nat) → Session σ → Ending Unit × Nat × Session σ
  | [], _, dropped, session => (.finished (), dropped, session)
  | planned :: rest, done, dropped, session =>
    if session.cancelled then (.cancelled, dropped, session)
    else
      match target.executeIn planned.statement session with
      | (.answer (), next) =>
        runDrops target jobSize rest (done + 1) (done + 1)
          (next.publish .resolve jobSize (done + 1))
      | (.failure error, next) => (.failed (dropFailure planned error), dropped, next)
      | (.crash, next) => (.crashed, dropped, next)

/-- Drops all conflicts in order. -/
def drop {σ : Type} (target : Target σ) (clearance : Clearance) (session : Session σ) :
    Ending Unit × Clearance × Session σ :=
  if clearance.finished then
    match clearance.plan with
    | .error error => (.failed error, clearance, session)
    | .ok drops =>
      let (ending, dropped, next) := runDrops target drops.length drops 0 clearance.dropped
        (session.publish .resolve drops.length 0)
      (ending, { clearance with dropped }, next)
  else (.failed (.invalidState .notScanned), clearance, session)

/-- The conflict trees as indented text. -/
def tree (clearance : Clearance) : String :=
  String.join (clearance.conflicts.map ConflictTree.render)

end Clearance

end SchemaForward
