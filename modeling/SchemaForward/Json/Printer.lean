import SchemaForward.Json.Basic
import SchemaForward.Text.Letters

/-!
# Printing a JSON value

A value is printed on one line, without spaces. Control characters, quotes and backslashes are
escaped; every other character stands for itself.
-/

namespace SchemaForward.Json

/-- The hexadecimal digit of a number below sixteen. -/
def hexCharacter (digit : Nat) : Char :=
  if digit < 10 then Char.ofNat ('0'.toNat + digit) else Char.ofNat ('a'.toNat + (digit - 10))

/-- A character inside a string literal. -/
def escaped (character : Char) : List Char :=
  if character == '"' then ['\\', '"']
  else if character == '\\' then ['\\', '\\']
  else if character.toNat < 0x20 then
    ['\\', 'u', '0', '0', hexCharacter (character.toNat / 16), hexCharacter (character.toNat % 16)]
  else [character]

/-- A text as a string literal. -/
def literal (text : String) : String :=
  String.ofList ('"' :: text.toList.flatMap escaped ++ ['"'])

mutual

/-- The text of a value. What cannot be read cannot be told apart, and is printed as `null`. -/
def render : Json → String
  | .null => "null"
  | .bool true => "true"
  | .bool false => "false"
  | .natural value => toString value
  | .number literal => literal
  | .text value => literal value
  | .array elements => "[" ++ Text.join "," (renderElements elements) ++ "]"
  | .object members => "\x7b" ++ Text.join "," (renderMembers members) ++ "\x7d"
  | .unreadable => "null"

/-- The texts of the elements of an array. -/
def renderElements : List Json → List String
  | [] => []
  | element :: rest => render element :: renderElements rest

/-- The texts of the members of an object. -/
def renderMembers : List (String × Json) → List String
  | [] => []
  | (name, value) :: rest => (literal name ++ ":" ++ render value) :: renderMembers rest

end

end SchemaForward.Json
