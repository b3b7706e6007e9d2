/-!
# UTF-8

Bytes read as the characters they spell. A character begins with a byte that tells how many others
follow; each of those lies between bounds, and the bounds of the second leave out every spelling
that is too long, that is half of a pair, or that is beyond the last character. Bytes that begin a
character but do not go on as they must are set aside together, and reading starts again after them.
-/

namespace SchemaForward.Text

/-- What stands in front of a byte sequence: a character, bytes that spell none, or the beginning of
a character that the end cuts off. -/
inductive Utf8Piece where
  | character (value : Char)
  | broken (size : Nat)
  | unfinished
  deriving DecidableEq, Repr, Inhabited

/-- The rest of a character, given how many bytes it still needs, the bounds of the next one, and
the value and number of those that are read. -/
def followed (needed least greatest value size : Nat) (bytes : List UInt8) :
    Utf8Piece × List UInt8 :=
  match needed, bytes with
  | 0, rest => (.character (Char.ofNat value), rest)
  | _ + 1, [] => (.unfinished, [])
  | further + 1, byte :: rest =>
    if least ≤ byte.toNat && byte.toNat ≤ greatest then
      followed further 0x80 0xBF (value * 64 + (byte.toNat - 0x80)) (size + 1) rest
    else (.broken size, byte :: rest)

/-- The bytes that follow the first one of a character are taken from those at hand, so no more are
left. -/
theorem length_followed_le (needed least greatest value size : Nat) (bytes : List UInt8) :
    (followed needed least greatest value size bytes).2.length ≤ bytes.length := by
  fun_induction followed needed least greatest value size bytes with
  | case1 => simp
  | case2 => simp
  | case3 least greatest value size further byte rest _ ih =>
    simp only [List.length_cons]
    omega
  | case4 => simp

/-- The piece that begins with a byte, and what follows it. -/
def pieceFrom (first : UInt8) (rest : List UInt8) : Utf8Piece × List UInt8 :=
  let byte := first.toNat
  if byte < 0x80 then (.character (Char.ofNat byte), rest)
  else if byte < 0xC2 then (.broken 1, rest)
  else if byte < 0xE0 then followed 1 0x80 0xBF (byte - 0xC0) 1 rest
  else if byte < 0xF0 then
    followed 2 (if byte == 0xE0 then 0xA0 else 0x80) (if byte == 0xED then 0x9F else 0xBF)
      (byte - 0xE0) 1 rest
  else if byte < 0xF5 then
    followed 3 (if byte == 0xF0 then 0x90 else 0x80) (if byte == 0xF4 then 0x8F else 0xBF)
      (byte - 0xF0) 1 rest
  else (.broken 1, rest)

/-- A piece takes its first byte and maybe more, and what is left is read in the same way. That
bytes run out is why reading ends. -/
theorem length_pieceFrom_le (first : UInt8) (rest : List UInt8) :
    (pieceFrom first rest).2.length ≤ rest.length := by
  simp only [pieceFrom]
  split
  · simp
  split
  · simp
  split
  · exact length_followed_le ..
  split
  · exact length_followed_le ..
  split
  · exact length_followed_le ..
  · simp

/-- The pieces of a byte sequence in order. -/
def utf8Pieces (bytes : List UInt8) : List Utf8Piece :=
  match bytes with
  | [] => []
  | first :: rest => (pieceFrom first rest).1 :: utf8Pieces (pieceFrom first rest).2
termination_by bytes.length
decreasing_by
  have bounded := length_pieceFrom_le first rest
  simp only [List.length_cons]
  omega

/-- Where a byte sequence stops to spell text, and how many bytes are at fault there. An unfinished
character has no number. -/
structure Utf8Fault where
  index : Nat
  size : Option Nat
  deriving DecidableEq, Repr, Inhabited

namespace Utf8Fault

/-- The fault in words. -/
def message : Utf8Fault → String
  | ⟨index, some size⟩ => s!"invalid utf-8 sequence of {size} bytes from index {index}"
  | ⟨index, none⟩ => s!"incomplete utf-8 byte sequence from index {index}"

end Utf8Fault

/-- The characters of pieces, the first of which stands at an index, or the first fault among
them. -/
def spelled (index : Nat) : List Utf8Piece → Except Utf8Fault (List Char)
  | [] => .ok []
  | .character value :: rest => (spelled (index + value.utf8Size) rest).map (value :: ·)
  | .broken size :: _ => .error ⟨index, some size⟩
  | .unfinished :: _ => .error ⟨index, none⟩

/-- The text that bytes spell. -/
def ofUtf8 (bytes : List UInt8) : Except Utf8Fault String :=
  (spelled 0 (utf8Pieces bytes)).map String.ofList

/-- The character that stands for bytes without one. -/
def replacement : Char :=
  '\uFFFD'

/-- The text that bytes spell, with one replacement for every piece that is no character. -/
def ofUtf8Lossy (bytes : List UInt8) : String :=
  String.ofList <| (utf8Pieces bytes).map fun piece =>
    match piece with
    | .character value => value
    | .broken _ => replacement
    | .unfinished => replacement

/-- The bytes of a text. -/
def utf8 (text : String) : List UInt8 :=
  text.toUTF8.toList

end SchemaForward.Text
