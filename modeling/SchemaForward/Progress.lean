/-!
# Progress

The three stages of applying a script, and how far a stage has come.
-/

namespace SchemaForward

/-- A stage of applying a script. -/
inductive Stage where
  | find
  | resolve
  | execute
  deriving DecidableEq, Repr, Inhabited

namespace Stage

/-- The name of a stage. -/
def name : Stage → String
  | .find => "find"
  | .resolve => "resolve"
  | .execute => "execute"

end Stage

/-- A stage, the units of work in it and how many of them are done. -/
structure Progress where
  stage : Stage
  jobSize : Nat
  done : Nat
  deriving DecidableEq, Repr, Inhabited

namespace Progress

/-- What is reported before any stage has begun. -/
def initial : Progress :=
  ⟨.find, 0, 0⟩

/-- The progress in words. -/
def describe (progress : Progress) : String :=
  s!"{progress.stage.name} {progress.done}/{progress.jobSize}"

end Progress

end SchemaForward
