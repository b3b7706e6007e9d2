import SchemaForward.Text.Utf8

/-!
# Percent signs

A percent sign with two hexadecimal digits stands for a byte, and any other percent sign for itself.
In a form, a plus sign also stands for a blank. Writing leaves some characters of ASCII as they are.
-/

namespace SchemaForward.Text

/-- The value of a hexadecimal digit. -/
def hexValue? (byte : UInt8) : Option Nat :=
  let character := Char.ofNat byte.toNat
  if '0' ≤ character && character ≤ '9' then some (character.toNat - '0'.toNat)
  else if 'a' ≤ character && character ≤ 'f' then some (character.toNat - 'a'.toNat + 10)
  else if 'A' ≤ character && character ≤ 'F' then some (character.toNat - 'A'.toNat + 10)
  else none

/-- The byte of two hexadecimal digits. -/
def hexByte? (high low : UInt8) : Option UInt8 :=
  match hexValue? high, hexValue? low with
  | some left, some right => some (UInt8.ofNat (left * 16 + right))
  | _, _ => none

/-- The byte is a given character of ASCII. -/
def isByte (character : Char) (byte : UInt8) : Bool :=
  byte.toNat == character.toNat

/-- The bytes that a sequence with percent signs stands for. -/
def percentDecoded : List UInt8 → List UInt8
  | first :: high :: low :: after =>
    match if isByte '%' first then hexByte? high low else none with
    | some byte => byte :: percentDecoded after
    | none => first :: percentDecoded (high :: low :: after)
  | rest => rest

/-- The bytes that a part of a form stands for. -/
def formDecoded (bytes : List UInt8) : List UInt8 :=
  percentDecoded <| bytes.map fun byte => if isByte '+' byte then ' '.toUInt8 else byte

/-- A hexadecimal digit of a byte. -/
def hexDigit (value : Nat) : UInt8 :=
  (Nat.digitChar value).toUpper.toUInt8

/-- A byte as a percent sign with two digits. -/
def percentEncodedByte (byte : UInt8) : List UInt8 :=
  ['%'.toUInt8, hexDigit (byte.toNat / 16), hexDigit (byte.toNat % 16)]

/-- The byte is a letter or a digit of ASCII. -/
def isPlainByte (byte : UInt8) : Bool :=
  byte.toNat < 0x80 && (Char.ofNat byte.toNat).isAlphanum

/-- Bytes with percent signs for all but letters and digits. -/
def percentEncoded (bytes : List UInt8) : List UInt8 :=
  bytes.flatMap fun byte => if isPlainByte byte then [byte] else percentEncodedByte byte

/-- Bytes as a part of a form, in which four signs stand for themselves. -/
def formEncoded (bytes : List UInt8) : List UInt8 :=
  bytes.flatMap fun byte =>
    if isPlainByte byte || "*-._".toList.any (isByte · byte) then [byte]
    else if isByte ' ' byte then ['+'.toUInt8]
    else percentEncodedByte byte

/-- The text of bytes of ASCII. -/
def ofAscii (bytes : List UInt8) : List Char :=
  bytes.map fun byte => Char.ofNat byte.toNat

end SchemaForward.Text
