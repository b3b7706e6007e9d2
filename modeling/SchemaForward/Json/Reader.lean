import SchemaForward.Json.Token

/-!
# Reading a JSON text

The reader takes one token at a time. What it still has to close is kept in frames, so reading is
a single pass over the tokens, whatever the depth of the nesting.
-/

namespace SchemaForward.Json

/-- An open array or object around the value that is being read: what came before that value, the
latest first. A name that spells no text is kept as its absence. -/
inductive Frame where
  | element (earlier : List Json)
  | member (earlier : List (Option String × Json)) (name : Option String)

/-- What the reader waits for, inside the frames that are open. -/
inductive Reader where
  | awaitValue (frames : List Frame)
  | awaitFirstElement (frames : List Frame)
  | awaitFirstName (frames : List Frame)
  | awaitName (earlier : List (Option String × Json)) (frames : List Frame)
  | awaitColon (earlier : List (Option String × Json)) (name : Option String) (frames : List Frame)
  | complete (value : Json) (frames : List Frame)

/-- The object with these members, the latest first; it is unreadable if one of its names is. -/
def ofMembers (members : List (Option String × Json)) : Json :=
  match members.reverse.mapM fun member => member.1.map (·, member.2) with
  | some named => .object named
  | none => .unreadable

namespace Reader

/-- A token where a value must start. -/
def startValue (frames : List Frame) : Token → Option Reader
  | .scalar value => some (.complete value frames)
  | .leftBracket => some (.awaitFirstElement frames)
  | .leftBrace => some (.awaitFirstName frames)
  | _ => none

/-- A token where the name of a member must stand. -/
def startName (earlier : List (Option String × Json)) (frames : List Frame) :
    Token → Option Reader
  | .scalar (.text name) => some (.awaitColon earlier (some name) frames)
  | .scalar .unreadable => some (.awaitColon earlier none frames)
  | _ => none

/-- The reader after one more token. -/
def step : Reader → Token → Option Reader
  | .awaitValue frames, token => startValue frames token
  | .awaitFirstElement frames, .rightBracket => some (.complete (.array []) frames)
  | .awaitFirstElement frames, token => startValue (.element [] :: frames) token
  | .awaitFirstName frames, .rightBrace => some (.complete (.object []) frames)
  | .awaitFirstName frames, token => startName [] frames token
  | .awaitName earlier frames, token => startName earlier frames token
  | .awaitColon earlier name frames, .colon => some (.awaitValue (.member earlier name :: frames))
  | .complete value (.element earlier :: frames), .comma =>
    some (.awaitValue (.element (value :: earlier) :: frames))
  | .complete value (.element earlier :: frames), .rightBracket =>
    some (.complete (.array (value :: earlier).reverse) frames)
  | .complete value (.member earlier name :: frames), .comma =>
    some (.awaitName ((name, value) :: earlier) frames)
  | .complete value (.member earlier name :: frames), .rightBrace =>
    some (.complete (ofMembers ((name, value) :: earlier)) frames)
  | _, _ => none

/-- The value read, if nothing is left open. -/
def finish : Reader → Option Json
  | .complete value [] => some value
  | _ => none

end Reader

/-- The value of a JSON text, or nothing if the text is malformed. -/
def ofText? (text : String) : Option Json := do
  let found ← tokens [] text.toList
  let reader ← found.reverse.foldlM Reader.step (.awaitValue [])
  reader.finish

end SchemaForward.Json
