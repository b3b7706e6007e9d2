import SchemaForward.Text.Letters

/-!
# Tokens of a statement

A text of statements is cut into tokens from the left, each as long as it can be. Quotes, brackets
and comments run to their ends whatever is inside, so nothing in them can be taken for a clause.
Blanks and comments stand between tokens. A character that begins no token is one by itself, which
no statement has a place for.
-/

namespace SchemaForward.Sqlite

/-- What a token is. A value is a number or a binary literal. -/
inductive TokenKind where
  | blank
  | word
  | quotedName
  | quotedText
  | value
  | parameter
  | mark
  | unknown
  deriving DecidableEq, Repr, Inhabited

/-- A token as it is written. -/
structure Token where
  kind : TokenKind
  text : List Char
  deriving DecidableEq, Repr, Inhabited

namespace Token

/-- A character of a word. Every character outside ASCII is one. -/
def isWordCharacter (character : Char) : Bool :=
  character.isAlphanum || character == '_' || character == '$' || 0x80 ≤ character.toNat

/-- A character that begins a blank. -/
def beginsBlank (character : Char) : Bool :=
  character == ' ' || character == '\t' || character == '\n' || character == '\r' ||
    character == '\x0c'

/-- A hexadecimal digit. -/
def isHexDigit (character : Char) : Bool :=
  character.isDigit || ('a' ≤ character && character ≤ 'f') || ('A' ≤ character && character ≤ 'F')

/-- The number of characters in front that pass a test. -/
def run (test : Char → Bool) (text : List Char) : Nat :=
  (text.takeWhile test).length

/-- How far the closing mark of a quote is, in which the mark itself is written twice. -/
def quoteEnd? (mark : Char) : List Char → Option Nat
  | [] => none
  | first :: rest =>
    if first == mark then
      match rest with
      | second :: after =>
        if second == mark then (quoteEnd? mark after).map (· + 2) else some 1
      | [] => some 1
    else (quoteEnd? mark rest).map (· + 1)

/-- How far a comment between marks goes, after its opening mark. -/
def commentEnd : List Char → Nat
  | '*' :: '/' :: _ => 2
  | _ :: rest => commentEnd rest + 1
  | [] => 0

/-- The length of a run of digits, which may be grouped. -/
def digits (text : List Char) : Nat :=
  run (fun character => character.isDigit || character == '_') text

/-- The length of the exponent in front, if there is one. -/
def exponent : List Char → Nat
  | mark :: sign :: digit :: rest =>
    if mark == 'e' || mark == 'E' then
      if sign.isDigit then 1 + digits (sign :: digit :: rest)
      else if (sign == '+' || sign == '-') && digit.isDigit then 2 + digits (digit :: rest)
      else 0
    else 0
  | [mark, digit] => if (mark == 'e' || mark == 'E') && digit.isDigit then 2 else 0
  | _ => 0

/-- The length of the number in front. -/
def numberEnd (text : List Char) : Nat :=
  match text with
  | '0' :: mark :: digit :: rest =>
    if (mark == 'x' || mark == 'X') && isHexDigit digit then 2 + run isHexDigit (digit :: rest)
    else decimalEnd text
  | _ => decimalEnd text
where
  /-- The length of the decimal number in front. -/
  decimalEnd (text : List Char) : Nat :=
    let whole := digits text
    let fraction := match text.drop whole with
      | '.' :: rest => 1 + digits rest
      | _ => 0
    whole + fraction + exponent (text.drop (whole + fraction))

/-- Marks of more than one character. -/
def longMarks : List String :=
  ["->>", "->", "==", "<=", "<>", "<<", ">=", ">>", "!=", "||"]

/-- Marks of one character. -/
def shortMarks : List Char :=
  "();+-*/%=<>|,&~.".toList

/-- The kind of the token that a character begins, and how many characters of the rest belong to
it. -/
def extent (first : Char) (rest : List Char) : TokenKind × Nat :=
  if beginsBlank first then
    (.blank, run (fun next => beginsBlank next || next == '\x0b') rest)
  else if first == '\uFEFF' then (.blank, 0)
  else if first == '-' && rest.head? == some '-' then (.blank, run (· != '\n') rest)
  else if first == '/' && rest.head? == some '*' && 1 < rest.length then
    (.blank, 1 + commentEnd (rest.drop 1))
  else if first == '\'' || first == '"' || first == '\x60' then
    match quoteEnd? first rest with
    | some length => (if first == '\'' then .quotedText else .quotedName, length)
    | none => (.unknown, rest.length)
  else if first == '[' then
    let inside := run (· != ']') rest
    if inside < rest.length then (.quotedName, inside + 1) else (.unknown, inside)
  else if first.isDigit || (first == '.' && (rest.head?.map Char.isDigit).getD false) then
    let number := numberEnd (first :: rest)
    let more := run isWordCharacter (rest.drop (number - 1))
    (if more == 0 then .value else .unknown, number - 1 + more)
  else if (first == 'x' || first == 'X') && rest.head? == some '\'' then
    let inside := run isHexDigit (rest.drop 1)
    if inside % 2 == 0 && (rest.drop (1 + inside)).head? == some '\'' then (.value, inside + 2)
    else (.unknown, 2 + run (· != '\'') (rest.drop 1))
  else if first == '$' || first == '@' || first == ':' || first == '#' then
    let name := run isWordCharacter rest
    (if name == 0 then .unknown else if first == '#' then .mark else .parameter, name)
  else if first == '?' then (.parameter, run Char.isDigit rest)
  else if isWordCharacter first then (.word, run isWordCharacter rest)
  else
    match longMarks.find? fun mark => mark.toList.isPrefixOf (first :: rest) with
    | some mark => (.mark, mark.length - 1)
    | none => (if shortMarks.contains first then .mark else .unknown, 0)

/-- The tokens of a text in order, blanks among them. -/
def split (text : List Char) : List Token :=
  match text with
  | [] => []
  | first :: rest =>
    let (kind, length) := extent first rest
    ⟨kind, first :: rest.take length⟩ :: split (rest.drop length)
termination_by text.length
decreasing_by simp only [List.length_drop, List.length_cons]; omega

/-- The tokens of a text without blanks. A zero character ends the text. -/
def ofText (text : List Char) : List Token :=
  (split (text.takeWhile (· != '\x00'))).filter (·.kind != .blank)

/-- A quoted text without its quotes, in which a mark written twice stands for one. -/
def unquoted (mark : Char) : List Char → List Char
  | [] => []
  | first :: rest =>
    if first == mark then
      match rest with
      | [] => []
      | _ :: after => mark :: unquoted mark after
    else first :: unquoted mark rest

/-- The text of a token as it is written. -/
def written (token : Token) : String :=
  String.ofList token.text

/-- The name that a token stands for. -/
def name (token : Token) : String :=
  match token.kind, token.text with
  | .quotedName, '[' :: rest => String.ofList rest.dropLast
  | .quotedName, mark :: rest => String.ofList (unquoted mark rest)
  | .quotedText, mark :: rest => String.ofList (unquoted mark rest)
  | _, text => String.ofList text

/-- The token is a given mark. -/
def isMark (mark : Char) (token : Token) : Bool :=
  token.kind == .mark && token.text == [mark]

/-- The token is a given word, in any case. -/
def isWord (word : String) (token : Token) : Bool :=
  token.kind == .word && Text.sameLetters token.written word

/-- The token is one of some marks. -/
def isAnyMark (marks : List String) (token : Token) : Bool :=
  token.kind == .mark && marks.contains token.written

/-- The token is one of some words, in any case. -/
def isAnyWord (words : List String) (token : Token) : Bool :=
  words.any token.isWord

/-- The words that are never names. -/
def reservedWords : List String :=
  ["ADD", "ALL", "ALTER", "AND", "AS", "AUTOINCREMENT", "BETWEEN", "CASE", "CHECK", "COLLATE",
    "COMMIT", "CONSTRAINT", "CREATE", "DEFAULT", "DEFERRABLE", "DELETE", "DISTINCT", "DROP",
    "ELSE", "ESCAPE", "EXCEPT", "EXISTS", "FOREIGN", "FROM", "GROUP", "HAVING", "IN", "INDEX",
    "INSERT", "INTERSECT", "INTO", "IS", "ISNULL", "JOIN", "LIMIT", "NOT", "NOTHING", "NOTNULL",
    "NULL", "ON", "OR", "ORDER", "PRIMARY", "REFERENCES", "RETURNING", "SELECT", "SET", "TABLE",
    "THEN", "TO", "TRANSACTION", "UNION", "UNIQUE", "UPDATE", "USING", "VALUES", "WHEN", "WHERE"]

/-- The token can be a name: quoted in any way, or a word that is not reserved. -/
def isName (token : Token) : Bool :=
  match token.kind with
  | .quotedName => true
  | .quotedText => true
  | .word => !reservedWords.contains (Text.upper token.written)
  | _ => false

/-- The token is a value that is written out. -/
def isLiteral (token : Token) : Bool :=
  token.kind == .value || token.kind == .quotedText ||
    token.isAnyWord ["NULL", "CURRENT_DATE", "CURRENT_TIME", "CURRENT_TIMESTAMP"]

/-- The words for joins, which are names only where nothing but a name can stand. -/
def joinWords : List String :=
  ["CROSS", "FULL", "INNER", "LEFT", "NATURAL", "OUTER", "RIGHT"]

/-- The token can be a name wherever there is one. -/
def isIdentifier (token : Token) : Bool :=
  token.isName && !token.isAnyWord joinWords

end Token

end SchemaForward.Sqlite
