import SchemaForward.Json.Basic

/-!
# Tokens of a JSON text

A text is read strictly: no comments, no trailing characters inside a number, no raw control
characters in a string, no escapes besides the eight short ones and four hexadecimal digits.
Every scalar value is one token, so what is left for the reader of tokens is the nesting. Escapes
of surrogate halves are resolved here: a leading half must be followed at once by a trailing one.
-/

namespace SchemaForward.Json

/-- A token: a bracket, a separator or a complete scalar value. -/
inductive Token where
  | leftBracket
  | rightBracket
  | leftBrace
  | rightBrace
  | comma
  | colon
  | scalar (value : Json)

/-- A part of a string literal: a character, or the 16-bit unit of a hexadecimal escape. -/
inductive Piece where
  | char (character : Char)
  | unit (code : Nat)

/-- The value of a hexadecimal digit. -/
def hexDigit? (digit : Char) : Option Nat :=
  if digit.isDigit then some (digit.toNat - '0'.toNat)
  else if 'a'.toNat ≤ digit.toNat && digit.toNat ≤ 'f'.toNat then
    some (digit.toNat - 'a'.toNat + 10)
  else if 'A'.toNat ≤ digit.toNat && digit.toNat ≤ 'F'.toNat then
    some (digit.toNat - 'A'.toNat + 10)
  else none

/-- The 16-bit unit spelled by four hexadecimal digits. -/
def unit? (first second third fourth : Char) : Option Nat := do
  let a ← hexDigit? first
  let b ← hexDigit? second
  let c ← hexDigit? third
  let d ← hexDigit? fourth
  return ((a * 16 + b) * 16 + c) * 16 + d

/-- The character that a short escape stands for. -/
def shortEscape? : Char → Option Char
  | '"' => some '"'
  | '\\' => some '\\'
  | '/' => some '/'
  | 'b' => some (Char.ofNat 8)
  | 'f' => some (Char.ofNat 12)
  | 'n' => some '\n'
  | 'r' => some '\r'
  | 't' => some '\t'
  | _ => none

/-- The rest of a string literal after its opening quote: the pieces, the last one first, and what
follows the closing quote. -/
def stringBody (earlier : List Piece) : List Char → Option (List Piece × List Char)
  | [] => none
  | '"' :: rest => some (earlier, rest)
  | '\\' :: 'u' :: first :: second :: third :: fourth :: rest =>
    match unit? first second third fourth with
    | some code => stringBody (.unit code :: earlier) rest
    | none => none
  | '\\' :: escape :: rest =>
    match shortEscape? escape with
    | some character => stringBody (.char character :: earlier) rest
    | none => none
  | character :: rest =>
    if character.toNat < 0x20 then none
    else stringBody (.char character :: earlier) rest

/-- A string literal is shorter than the text it opens. Reading a value inside it therefore gets
nearer to the end, which is what the reader's recursion needs. -/
theorem length_lt_of_stringBody {earlier pieces : List Piece} {input rest : List Char}
    (found : stringBody earlier input = some (pieces, rest)) : rest.length < input.length := by
  fun_induction stringBody earlier input with
  | case1 => simp at found
  | case2 earlier after => simp_all
  | case3 earlier _ _ _ _ after code _ ih =>
    have shorter := ih found
    simp only [List.length_cons]
    omega
  | case4 => simp at found
  | case5 earlier _ after _ character _ ih =>
    have shorter := ih found
    simp only [List.length_cons]
    omega
  | case6 => simp at found
  | case7 => simp at found
  | case8 earlier character after _ _ _ _ ih =>
    have shorter := ih found
    simp only [List.length_cons]
    omega

/-- The leading half of a surrogate pair. -/
def isLeading (code : Nat) : Bool :=
  0xD800 ≤ code && code < 0xDC00

/-- The trailing half of a surrogate pair. -/
def isTrailing (code : Nat) : Bool :=
  0xDC00 ≤ code && code < 0xE000

/-- The text spelled by pieces, given with the last one first, in front of what is spelled already.
A surrogate half outside a pair spells nothing. -/
def spell (later : List Char) : List Piece → Option (List Char)
  | [] => some later
  | .char character :: earlier => spell (character :: later) earlier
  | .unit trailing :: .unit leading :: earlier =>
    if isTrailing trailing then
      if isLeading leading then
        let code := 0x10000 + (leading - 0xD800) * 0x400 + (trailing - 0xDC00)
        spell (Char.ofNat code :: later) earlier
      else none
    else if isLeading trailing then none
    else spell (Char.ofNat trailing :: later) (.unit leading :: earlier)
  | .unit code :: earlier =>
    if isTrailing code || isLeading code then none
    else spell (Char.ofNat code :: later) earlier

/-- The value of a string literal. -/
def ofPieces (pieces : List Piece) : Json :=
  match spell [] pieces with
  | some characters => .text (String.ofList characters)
  | none => .unreadable

/-- What follows at least one digit. -/
def afterDigits? : List Char → Option (List Char)
  | [] => none
  | digit :: rest => if digit.isDigit then some (rest.dropWhile Char.isDigit) else none

/-- What follows the whole part of a number, which starts with zero only if it is zero. -/
def afterWhole? : List Char → Option (List Char)
  | '0' :: rest => some rest
  | input => afterDigits? input

/-- What follows an optional fraction. -/
def afterFraction? : List Char → Option (List Char)
  | '.' :: rest => afterDigits? rest
  | input => some input

/-- What follows an optional exponent. -/
def afterExponent? : List Char → Option (List Char)
  | [] => some []
  | mark :: rest =>
    if mark == 'e' || mark == 'E' then
      match rest with
      | '+' :: digits => afterDigits? digits
      | '-' :: digits => afterDigits? digits
      | digits => afterDigits? digits
    else some (mark :: rest)

/-- The characters are the literal of a number. -/
def isNumber (literal : List Char) : Bool :=
  let unsigned := match literal with
    | '-' :: rest => rest
    | rest => rest
  match (afterWhole? unsigned).bind fun rest => (afterFraction? rest).bind afterExponent? with
  | some [] => true
  | _ => false

/-- The number spelled by decimal digits. -/
def ofDigits (digits : List Char) : Nat :=
  digits.foldl (fun value digit => value * 10 + (digit.toNat - '0'.toNat)) 0

/-- The value of a run of number characters, if it is a number. -/
def ofNumber? (literal : List Char) : Option Json :=
  if isNumber literal then
    if literal.all Char.isDigit then some (.natural (ofDigits literal))
    else some (.number (String.ofList literal))
  else none

/-- A character that may stand in a number. -/
def isNumberCharacter (character : Char) : Bool :=
  character.isDigit || character == '-' || character == '+' || character == '.' ||
    character == 'e' || character == 'E'

/-- The value of a run of letters, if it is one of the three words. -/
def ofWord? (word : List Char) : Option Json :=
  if word == "null".toList then some .null
  else if word == "true".toList then some (.bool true)
  else if word == "false".toList then some (.bool false)
  else none

/-- The white space allowed between tokens. -/
def isSpace (character : Char) : Bool :=
  character == ' ' || character == '\n' || character == '\t' || character == '\r'

/-- The bracket or separator that a character is. -/
def mark? : Char → Option Token
  | '[' => some .leftBracket
  | ']' => some .rightBracket
  | '\x7b' => some .leftBrace
  | '\x7d' => some .rightBrace
  | ',' => some .comma
  | ':' => some .colon
  | _ => none

/-- What is left of a list after some of it was passed over is no longer than the list. The length
of the rest is what the tokens of a text are read by. -/
theorem length_dropWhile_le {α : Type} (test : α → Bool) (items : List α) :
    (items.dropWhile test).length ≤ items.length :=
  (List.dropWhile_sublist test).length_le

/-- The tokens of a text, the last one first. -/
def tokens (earlier : List Token) (input : List Char) : Option (List Token) :=
  match input with
  | [] => some earlier
  | character :: rest =>
    if isSpace character then tokens earlier rest
    else match mark? character with
      | some mark => tokens (mark :: earlier) rest
      | none =>
        if character == '"' then
          match found : stringBody [] rest with
          | some (pieces, after) =>
            have _shorter := length_lt_of_stringBody found
            tokens (.scalar (ofPieces pieces) :: earlier) after
          | none => none
        else if character.isDigit || character == '-' then
          match ofNumber? (character :: rest.takeWhile isNumberCharacter) with
          | some value => tokens (.scalar value :: earlier) (rest.dropWhile isNumberCharacter)
          | none => none
        else
          match ofWord? (character :: rest.takeWhile Char.isAlpha) with
          | some value => tokens (.scalar value :: earlier) (rest.dropWhile Char.isAlpha)
          | none => none
termination_by input.length
decreasing_by
  · simp
  · simp
  · simp only [List.length_cons]
    omega
  · have bounded := length_dropWhile_le isNumberCharacter rest
    simp only [List.length_cons]
    omega
  · have bounded := length_dropWhile_le Char.isAlpha rest
    simp only [List.length_cons]
    omega

end SchemaForward.Json
