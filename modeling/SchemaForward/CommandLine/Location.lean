/-!
# Locations

Where the steps of a path lead, judged by their names alone: a step to the directory itself leads
nowhere, a step up takes back the last name, and any other step goes down by one name. Above the
directory in which a run is made names are not known, so steps up from it are counted. Above the
root there is nothing, and a step up from it leads back to it.
-/

namespace SchemaForward

/-- Where names begin: at the root, or so many levels above the directory of the run. -/
inductive Base where
  | root
  | above (levels : Nat)
  deriving DecidableEq, Repr, Inhabited

/-- A location: the names that lead to it from a base, the innermost first. -/
structure Location where
  base : Base := .above 0
  names : List (List Char) := []
  deriving DecidableEq, Repr, Inhabited

namespace Location

/-- The step to the directory itself. -/
def here : List Char :=
  ['.']

/-- The step to the directory around it. -/
def around : List Char :=
  ['.', '.']

/-- The location around a location. -/
def outer : Location → Location
  | ⟨base, _ :: names⟩ => ⟨base, names⟩
  | ⟨.above levels, []⟩ => ⟨.above (levels + 1), []⟩
  | ⟨.root, []⟩ => ⟨.root, []⟩

/-- The location of a name inside a location. -/
def inside (location : Location) (name : List Char) : Location :=
  { location with names := name :: location.names }

/-- The location after a step. -/
def step (location : Location) (name : List Char) : Location :=
  if name == here then location
  else if name == around then location.outer
  else location.inside name

/-- Where a path begins. -/
def start (path : String) : Location :=
  if path.toList.head? == some '/' then ⟨.root, []⟩ else ⟨.above 0, []⟩

/-- The steps of a path. -/
def steps (path : String) : List (List Char) :=
  (path.toList.splitOn '/').filter (!·.isEmpty)

/-- The location that a path spells. -/
def ofPath (path : String) : Location :=
  (steps path).foldl step (start path)

/-- A location is, or is inside, another. -/
def isWithin (location container : Location) : Bool :=
  location.base == container.base && container.names.isSuffixOf location.names

/-- A path to a location. -/
def path (location : Location) : String :=
  let names := location.names.reverse
  match location.base with
  | .root => String.ofList ('/' :: ['/'].intercalate names)
  | .above levels =>
    let all := List.replicate levels around ++ names
    String.ofList (['/'].intercalate (if all.isEmpty then [here] else all))

/-- The number of bytes of a name. -/
def nameSize (name : List Char) : Nat :=
  (String.ofList name).utf8ByteSize

end Location

end SchemaForward
