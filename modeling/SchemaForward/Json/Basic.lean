/-!
# JSON values

Values as they stand in a text. An object keeps its members in order and keeps a repeated name, so
that a reader can refuse it; a number that is no natural number keeps its literal, because nothing
here has a use for its value. A string literal whose escapes spell no Unicode text is still a
well-formed value that a reader may step over; it is `unreadable`, and so is an object one of
whose names is spelled that way.
-/

namespace SchemaForward

/-- A JSON value. -/
inductive Json where
  | null
  | bool (value : Bool)
  | natural (value : Nat)
  | number (literal : String)
  | text (value : String)
  | array (elements : List Json)
  | object (members : List (String × Json))
  | unreadable
  deriving Inhabited

namespace Json

/-- An optional value, with `null` for its absence. -/
def ofOption {α : Type} (encode : α → Json) : Option α → Json
  | none => .null
  | some value => encode value

/-- A list of values as an array. -/
def ofList {α : Type} (encode : α → Json) (values : List α) : Json :=
  .array (values.map encode)

/-- A 32-bit number. -/
def ofUInt32 (value : UInt32) : Json :=
  .natural value.toNat

/-- A 64-bit number. -/
def ofUInt64 (value : UInt64) : Json :=
  .natural value.toNat

/-- The member of an object with the given name; a missing member reads as `null`. -/
def member (name : String) : Json → Json
  | .object members => (members.lookup name).getD .null
  | _ => .null

/-- The text of a string value. -/
def text? : Json → Option String
  | .text value => some value
  | _ => none

/-- The truth value of a Boolean. -/
def bool? : Json → Option Bool
  | .bool value => some value
  | _ => none

/-- The value of a natural number. -/
def natural? : Json → Option Nat
  | .natural value => some value
  | _ => none

/-- A natural number that fits 32 bits. -/
def uint32? : Json → Option UInt32
  | .natural value => if value < UInt32.size then some (UInt32.ofNat value) else none
  | _ => none

/-- A natural number that fits 64 bits. -/
def uint64? : Json → Option UInt64
  | .natural value => if value < UInt64.size then some (UInt64.ofNat value) else none
  | _ => none

/-- The elements of an array, each read in turn. -/
def list? {α : Type} (read : Json → Option α) : Json → Option (List α)
  | .array elements => elements.mapM read
  | _ => none

/-- A value that may be `null`. -/
def optional? {α : Type} (read : Json → Option α) : Json → Option (Option α)
  | .null => some none
  | json => (read json).map some

/-- A value out of a table of names. It is written as its name, or as an object whose only member
has that name and the value `null`. -/
def named? {α : Type} (table : List (String × α)) : Json → Option α
  | .text name => table.lookup name
  | .object [(name, .null)] => table.lookup name
  | _ => none

end Json

end SchemaForward
