import SchemaForward.Target.Basic

/-!
# Fixed catalogues

A target whose catalogue is a list of objects and of dependencies between them. Statements are
recorded and change nothing, so its catalogue answers depend on the key of an object alone. It can
be told to fail on certain statements and on questions about certain names.
-/

namespace SchemaForward

/-- A fixed catalogue, with the statements it has accepted and the number of lookups made.
A dependency comes first and what depends on it second. -/
structure FixedCatalogue where
  objects : List DatabaseObject := []
  dependencies : List (DatabaseObject × DatabaseObject) := []
  statementFailures : List (String × String) := []
  catalogueFailures : List (String × String) := []
  executed : List String := []
  lookups : Nat := 0
  deriving DecidableEq, Repr, Inhabited

namespace FixedCatalogue

/-- The target with one object more. -/
def addObject (target : FixedCatalogue) (object : DatabaseObject) : FixedCatalogue :=
  { target with objects := target.objects ++ [object] }

/-- The target with one dependency more. The dependent is part of the catalogue from then on. -/
def addDependent (target : FixedCatalogue) (dependency dependent : DatabaseObject) :
    FixedCatalogue :=
  { target with
    objects :=
      if target.objects.contains dependent then target.objects
      else target.objects ++ [dependent]
    dependencies := target.dependencies ++ [(dependency, dependent)] }

/-- The target that fails with a message on statements that contain a pattern. -/
def refusingStatement (target : FixedCatalogue) (pattern message : String) : FixedCatalogue :=
  { target with statementFailures := target.statementFailures ++ [(pattern, message)] }

/-- The target that fails with a message on questions about objects of a name. -/
def refusingQuestion (target : FixedCatalogue) (name message : String) : FixedCatalogue :=
  { target with catalogueFailures := target.catalogueFailures ++ [(name, message)] }

/-- The failure of a question about a name. -/
def catalogueFailure? (target : FixedCatalogue) (name : String) : Option Failure :=
  (target.catalogueFailures.find? fun failure => Text.sameLetters failure.1 name).map
    fun failure => .database (.unreadable failure.2)

/-- The failure of a statement. -/
def statementFailure? (target : FixedCatalogue) (statement : String) : Option Failure :=
  (target.statementFailures.find? fun failure =>
    Text.occursIn failure.1.toList statement.toList).map
    fun failure => .executionFailed .unknown statement failure.2

/-- The objects that depend on the object of a key. -/
def directDependents (target : FixedCatalogue) (key : ObjectKey) : List DatabaseObject :=
  (target.dependencies.filter (·.1.key == key)).map (·.2)

/-- The first object of the catalogue that stands in the way of a subject. -/
def find (subject : DatabaseObject) (target : FixedCatalogue) :
    Call FixedCatalogue (Option DatabaseObject) where
  reply := match target.catalogueFailure? subject.name with
    | some error => .failure error
    | none => .answer (target.objects.find? (·.collidesWith subject))
  cancels := false
  next := { target with lookups := target.lookups + 1 }

/-- The dependents of an object. -/
def dependents (object : DatabaseObject) (target : FixedCatalogue) :
    Call FixedCatalogue (List DatabaseObject) where
  reply := match target.catalogueFailure? object.name with
    | some error => .failure error
    | none => .answer (target.directDependents object.key)
  cancels := false
  next := target

/-- Records a statement. -/
def execute (statement : String) (target : FixedCatalogue) : Call FixedCatalogue Unit :=
  match target.statementFailure? statement with
  | some error => ⟨.failure error, false, target⟩
  | none => ⟨.answer (), false, { target with executed := target.executed ++ [statement] }⟩

/-- The calls on a fixed catalogue. Below an object there is no key but those of dependents. -/
def calls : Target FixedCatalogue where
  size := fun target => target.dependencies.length
  find := find
  dependents := dependents
  execute := execute

end FixedCatalogue

end SchemaForward
