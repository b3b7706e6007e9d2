import SchemaForward.Text.Shown

/-!
# Escaped text

A text inside a message stands between double quotes, and every character of it can be told by
looking: five characters and the double quote have an escape of their own, and any other that does
not show is written by its code point.
-/

namespace SchemaForward.Text

/-- A character as it is written between double quotes. -/
def escapedCharacter (character : Char) : List Char :=
  match character with
  | '\x00' => ['\\', '0']
  | '\t' => ['\\', 't']
  | '\r' => ['\\', 'r']
  | '\n' => ['\\', 'n']
  | '\\' => ['\\', '\\']
  | '"' => ['\\', '"']
  | _ =>
    if isShown character then [character]
    else ['\\', 'u', '\x7b'] ++ Nat.toDigits 16 character.toNat ++ ['\x7d']

/-- A text between double quotes. -/
def escaped (text : String) : String :=
  String.ofList (['"'] ++ text.toList.flatMap escapedCharacter ++ ['"'])

end SchemaForward.Text
