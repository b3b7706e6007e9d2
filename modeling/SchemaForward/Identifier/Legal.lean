import SchemaForward.Identifier.Taken

/-!
# Legal names

A name of a model becomes an identifier in three steps. Characters that are not allowed are
replaced, a leading part is put in front of a name that does not start with a letter, the case is
folded and a reserved word is escaped. Then the name is cut to the maximum length. If the result is
taken, or cutting has turned it back into a reserved word, it gets the first numeric suffix that
makes it unique. Each step that changes the name is reported.
-/

namespace SchemaForward

/-- What was done to a name. -/
inductive NameStep where
  | restricted
  | truncated
  | collision
  deriving DecidableEq, Repr, Inhabited

/-- One change of a name. -/
structure SpellingChange where
  step : NameStep
  old : String
  new : String
  deriving DecidableEq, Repr, Inhabited

/-- Why no identifier could be found. -/
inductive NamingObstacle where
  | noRoom (limit : UInt64) (suffix : String)
  | exhausted (maxSuffix : UInt32)
  deriving DecidableEq, Repr, Inhabited

namespace NamingObstacle

/-- The obstacle in words. -/
def describe : NamingObstacle → String
  | .noRoom limit suffix => s!"maximum length {limit.toNat} leaves no room for suffix {suffix}"
  | .exhausted maxSuffix => s!"all suffixes up to _{maxSuffix.toNat} are taken"

end NamingObstacle

/-- A name that could not be made into an identifier. -/
structure NamingFailure where
  scope : Namespace
  name : String
  obstacle : NamingObstacle
  deriving DecidableEq, Repr, Inhabited

/-- An identifier and the changes that led to it, in order. -/
structure LegalName where
  name : String
  changes : List SpellingChange
  deriving DecidableEq, Repr, Inhabited

namespace IdentifierRules

/-- The name with an underscore in place of every character that is not allowed. -/
def replaceIllegal (rules : IdentifierRules) (name : List Char) : List Char :=
  name.map fun character => if rules.isAllowed character then character else '_'

/-- The name with the leading part in front, unless it starts with a letter. -/
def fixStart (rules : IdentifierRules) (name : List Char) : List Char :=
  match name with
  | first :: _ => if first.isAlpha then name else rules.leading.toList ++ name
  | [] => rules.leading.toList

/-- The name with an underscore behind it if it is a reserved word. -/
def escapeReserved (rules : IdentifierRules) (name : String) : String :=
  if rules.isReserved name then name ++ "_" else name

/-- The name in allowed characters and in the case of the dialect, not reserved as it stands. -/
def restrict (rules : IdentifierRules) (name : String) : String :=
  rules.escapeReserved <| rules.fold <| String.ofList <|
    rules.fixStart (rules.replaceIllegal name.toList)

/-- The first characters of a name. -/
def cut (length : Nat) (name : String) : String :=
  String.ofList (name.toList.take length)

/-- The name cut to the maximum length. -/
def truncate (rules : IdentifierRules) (name : String) : String :=
  match rules.maxLength with
  | some limit => cut limit.toNat name
  | none => name

/-- The name cannot be given in this namespace any more, or not at all. -/
def isUnavailable (rules : IdentifierRules) (scope : Namespace) (used : TakenNames)
    (name : String) : Bool :=
  used.contains scope (rules.key name) || rules.isReserved name

/-- The suffix with a given number. -/
def suffix (number : Nat) : String :=
  s!"_{number}"

/-- The name with a numbered suffix, cut so that both fit together. If the suffix alone fills the
maximum length, that length is the error. -/
def candidate (rules : IdentifierRules) (base : String) (number : Nat) : Except UInt64 String :=
  match rules.maxLength with
  | some limit =>
    if limit.toNat ≤ (suffix number).length then .error limit
    else .ok (cut (limit.toNat - (suffix number).length) base ++ suffix number)
  | none => .ok (base ++ suffix number)

/-- The first candidate that is not taken, among so many suffixes from a given number on. -/
def firstFree (rules : IdentifierRules) (scope : Namespace) (used : TakenNames) (base : String) :
    Nat → Nat → Except NamingObstacle String
  | 0, _ => .error (.exhausted rules.maxSuffix)
  | remaining + 1, number =>
    match rules.candidate base number with
    | .error limit => .error (.noRoom limit (suffix number))
    | .ok name =>
      if rules.isUnavailable scope used name then
        firstFree rules scope used base remaining (number + 1)
      else .ok name

/-- The change from one name to another, if they differ. -/
def change (step : NameStep) (old new : String) : List SpellingChange :=
  if old == new then [] else [⟨step, old, new⟩]

/-- The identifier for a name in a namespace, and the taken names with it. -/
def identifierFor (rules : IdentifierRules) (scope : Namespace) (used : TakenNames) (raw : String) :
    Except NamingFailure (LegalName × TakenNames) :=
  let restricted := rules.restrict raw
  let truncated := rules.truncate restricted
  let changes := change .restricted raw restricted ++ change .truncated restricted truncated
  if rules.isUnavailable scope used truncated then
    match rules.firstFree scope used truncated rules.maxSuffix.toNat 1 with
    | .error obstacle => .error ⟨scope, truncated, obstacle⟩
    | .ok unique =>
      .ok (⟨unique, changes ++ [⟨.collision, truncated, unique⟩]⟩,
        used.insert scope (rules.key unique))
  else
    .ok (⟨truncated, changes⟩, used.insert scope (rules.key truncated))

end IdentifierRules

end SchemaForward
