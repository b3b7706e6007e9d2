import SchemaForward.Json.Basic

/-!
# Records

A record has named members in a fixed order. It is written either as an object, whose members may
come in any order and among others that are ignored, or as an array of its members in their order.
An object must not repeat a name of the record. An array may end early, but only before members
that have a default of their own: a member that merely may be absent has to be written there.
-/

namespace SchemaForward.Json

/-- Where the members of a record are found. -/
inductive Record where
  | byName (members : List (String × Json))
  | byPosition (elements : List Json)

/-- The record with these member names that a value holds. -/
def record? (names : List String) : Json → Option Record
  | .object members =>
    if names.all fun name => (members.filter (·.1 == name)).length ≤ 1 then
      some (.byName members)
    else none
  | .array elements =>
    if elements.length ≤ names.length then some (.byPosition elements) else none
  | _ => none

namespace Record

/-- The member of a record, if it is written. -/
def find? (record : Record) (position : Nat) (name : String) : Option Json :=
  match record with
  | .byName members => members.lookup name
  | .byPosition elements => elements[position]?

/-- A member that has to be written. -/
def required {α : Type} (record : Record) (position : Nat) (name : String)
    (read : Json → Option α) : Option α :=
  (record.find? position name).bind read

/-- A member with a default. -/
def defaulted {α : Type} (record : Record) (position : Nat) (name : String)
    (read : Json → Option α) (default : α) : Option α :=
  match record.find? position name with
  | some json => read json
  | none => some default

/-- A member that may be `null`, and may be left out of an object. -/
def nullable {α : Type} (record : Record) (position : Nat) (name : String)
    (read : Json → Option α) : Option (Option α) :=
  match record, record.find? position name with
  | _, some json => optional? read json
  | .byName _, none => some none
  | .byPosition _, none => none

end Record

end SchemaForward.Json
