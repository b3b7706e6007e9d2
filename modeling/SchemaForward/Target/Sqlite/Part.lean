import SchemaForward.Failure
import SchemaForward.Target.Sqlite.Token

/-!
# Parts of a statement

A statement is read as a sequence of parts, in which everything between a pair of parentheses is one
part. What is inside is kept as tokens, and can be cut into parts in turn. A parenthesis that stays
open makes a part of all that follows it. A reader takes parts from the front and refuses the first
one that has no place there.
-/

namespace SchemaForward.Sqlite

/-- A refusal of the database. -/
def refusal (message : String) : DatabaseFault :=
  .rejected 1 message

/-- A token outside parentheses, or the tokens between a pair of them, or those behind one that
stays open. -/
inductive Part where
  | single (token : Token)
  | group (inside : List Token)
  | unclosed (inside : List Token)
  deriving DecidableEq, Repr, Inhabited

/-- Tokens read up to a point: how many parentheses are open, the tokens inside the outer one, and
the parts before it, both with the latest first. -/
structure Nesting where
  depth : Nat := 0
  inside : List Token := []
  parts : List Part := []
  deriving Repr, Inhabited

namespace Nesting

/-- One more token. A parenthesis that closes nothing is a part like any other token. -/
def add (nesting : Nesting) (token : Token) : Nesting :=
  match nesting.depth with
  | 0 =>
    if token.isMark '(' then { nesting with depth := 1, inside := [] }
    else { nesting with parts := .single token :: nesting.parts }
  | outer + 1 =>
    if token.isMark '(' then { nesting with depth := outer + 2, inside := token :: nesting.inside }
    else if token.isMark ')' then
      if outer == 0 then
        { depth := 0, parts := .group nesting.inside.reverse :: nesting.parts }
      else { nesting with depth := outer, inside := token :: nesting.inside }
    else { nesting with inside := token :: nesting.inside }

end Nesting

namespace Part

/-- The parts of a sequence of tokens. -/
def ofTokens (tokens : List Token) : List Part :=
  let nesting := tokens.foldl Nesting.add {}
  let last := if nesting.depth == 0 then [] else [.unclosed nesting.inside.reverse]
  nesting.parts.reverse ++ last

/-- The token that a part is. -/
def token? : Part → Option Token
  | .single token => some token
  | _ => none

/-- The part is a given mark. -/
def isMark (mark : Char) (part : Part) : Bool :=
  part.token?.any (·.isMark mark)

/-- The part is a given word. -/
def isWord (word : String) (part : Part) : Bool :=
  part.token?.any (·.isWord word)

/-- The part is one of some words. -/
def isAnyWord (words : List String) (part : Part) : Bool :=
  part.token?.any (·.isAnyWord words)

/-- The number of tokens in a part, its parentheses included. -/
def length : Part → Nat
  | .single _ => 1
  | .group inside => inside.length + 2
  | .unclosed inside => inside.length + 1

/-- The name that a part is, if it can be one. -/
def name? (part : Part) : Option Token :=
  part.token?.filter (·.isName)

/-- The part is a name that can stand for a type or a value. -/
def isIdentifier (part : Part) : Bool :=
  part.token?.any (·.isIdentifier)

/-- The refusal of a statement that stops too early. -/
def incomplete : DatabaseFault :=
  refusal "incomplete input"

/-- The refusal of a mark. -/
def unexpectedMark (mark : String) : DatabaseFault :=
  refusal s!"near \"{mark}\": syntax error"

/-- The refusal of a token. -/
def unexpectedToken (token : Token) : DatabaseFault :=
  if token.kind == .unknown then refusal s!"unrecognized token: \"{token.written}\""
  else unexpectedMark token.written

/-- The refusal of what stands in front. -/
def unexpected : List Part → DatabaseFault
  | [] => incomplete
  | .single token :: _ => unexpectedToken token
  | .group _ :: _ => unexpectedMark "("
  | .unclosed _ :: _ => unexpectedMark "("

/-- The refusal of the first token among some that no statement has a place for. -/
def unknownIn (inside : List Token) : Option DatabaseFault :=
  (inside.find? (·.kind == .unknown)).map unexpectedToken

/-- The refusal of a parenthesis that stays open. -/
def cutOff (inside : List Token) : DatabaseFault :=
  (unknownIn inside).getD incomplete

/-- A result for parts that may be followed by a mark. Where they stop too early, the mark is what
has no place there. -/
def followedBy {α : Type} (mark : Option String) (result : Except DatabaseFault α) :
    Except DatabaseFault α :=
  match result, mark with
  | .error fault, some mark => .error (if fault == incomplete then unexpectedMark mark else fault)
  | _, _ => result

/-- The items between commas, each with the mark behind it. What closes the last one is given. -/
def items (parts : List Part) (closing : Option String) : List (List Part × Option String) :=
  let found := parts.splitOnP (isMark ',')
  found.zipIdx.map fun (item, index) =>
    (item, if index + 1 == found.length then closing else some ",")

end Part

/-- A reader of parts, which refuses what it cannot take. -/
abbrev PartReader (α : Type) :=
  StateT (List Part) (Except DatabaseFault) α

namespace PartReader

/-- Refuses the part in front. -/
def refuse {α : Type} : PartReader α := do
  throw (Part.unexpected (← get))

/-- Takes a part that passes a test if it stands in front, and tells whether it does. -/
def acceptPart (test : Part → Bool) : PartReader Bool := do
  match ← get with
  | part :: rest =>
    if test part then
      set rest
      return true
    else return false
  | [] => return false

/-- Takes a word if it stands in front, and tells whether it does. -/
def accept (word : String) : PartReader Bool :=
  acceptPart (·.isWord word)

/-- Takes a mark if it stands in front, and tells whether it does. -/
def acceptMark (mark : Char) : PartReader Bool :=
  acceptPart (·.isMark mark)

/-- Takes one of some words if it stands in front, and tells whether it does. -/
def acceptAny (words : List String) : PartReader Bool :=
  acceptPart (·.isAnyWord words)

/-- Takes a word that must stand in front. -/
def expect (word : String) : PartReader Unit := do
  unless ← accept word do refuse

/-- Takes one of several words that must stand in front. -/
def expectAny (words : List String) : PartReader Unit := do
  unless ← acceptAny words do refuse

/-- One of some words stands in front. -/
def isNext (words : List String) : PartReader Bool := do
  return (← get).head?.any (·.isAnyWord words)

/-- Parentheses stand in front. -/
def isGroupNext : PartReader Bool := do
  match ← get with
  | .group _ :: _ => return true
  | .unclosed _ :: _ => return true
  | _ => return false

/-- Takes a name. -/
def name : PartReader Token := do
  match ← get with
  | part :: rest =>
    match part.name? with
    | some token =>
      set rest
      return token
    | none => refuse
  | [] => refuse

/-- Takes what stands between a pair of parentheses. -/
def group : PartReader (List Token) := do
  match ← get with
  | .group inside :: rest =>
    if let some fault := Part.unknownIn inside then throw fault
    set rest
    return inside
  | .unclosed inside :: _ => throw (Part.cutOff inside)
  | _ => refuse

/-- Refuses whatever is left. -/
def finish : PartReader Unit := do
  unless (← get).isEmpty do refuse

/-- A reading of tokens to their end. -/
def runToEnd {α : Type} (reader : PartReader α) (tokens : List Token) :
    Except DatabaseFault α :=
  (do
    let value ← reader
    finish
    return value : PartReader α).run' (Part.ofTokens tokens)

/-- Reads what stands between a pair of parentheses to its end. -/
def within {α : Type} (reader : PartReader α) : PartReader α := do
  match ← get with
  | .group inside :: rest =>
    let value ← Part.followedBy (some ")") (runToEnd reader inside)
    set rest
    return value
  | .unclosed inside :: _ =>
    let _value ← runToEnd reader inside
    throw Part.incomplete
  | _ => refuse

/-- Reads one thing or more with commas between them, as many as a number beyond the first. -/
def commaList {α : Type} (reader : PartReader α) : Nat → PartReader (List α)
  | 0 => return [← reader]
  | further + 1 => do
    let first ← reader
    if ← acceptMark ',' then
      let others ← commaList reader further
      return first :: others
    else return [first]

/-- Reads things with commas between them. -/
def separated {α : Type} (reader : PartReader α) : PartReader (List α) := do
  commaList reader (← get).length

end PartReader

end SchemaForward.Sqlite
