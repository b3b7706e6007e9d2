/-!
# Letters and case

Identifiers, file keywords and object names differ in case only within ASCII: a letter outside it
is compared and folded as it stands. The order of names is the order of their code points, which
is also the byte order of their encoded text.
-/

namespace SchemaForward.Text

/-- The text with every ASCII letter in upper case. -/
def upper (text : String) : String :=
  String.ofList (text.toList.map Char.toUpper)

/-- The text with every ASCII letter in lower case. -/
def lower (text : String) : String :=
  String.ofList (text.toList.map Char.toLower)

/-- Two texts agree up to the case of their ASCII letters. -/
def sameLetters (first second : String) : Bool :=
  upper first == upper second

/-- A text precedes another, or equals it, in the lexicographic order of code points. -/
def notAfter : List Char → List Char → Bool
  | [], _ => true
  | _ :: _, [] => false
  | first :: firstRest, second :: secondRest =>
    Nat.blt first.toNat second.toNat ||
      (first.toNat == second.toNat && notAfter firstRest secondRest)

/-- Names in the order of their code points; equal names keep their places. -/
def inOrder (names : List String) : List String :=
  names.mergeSort fun first second => notAfter first.toList second.toList

/-- Whether a text occurs inside another, at any place. -/
def occursIn (pattern : List Char) : List Char → Bool
  | [] => pattern.isEmpty
  | head :: rest => pattern.isPrefixOf (head :: rest) || occursIn pattern rest

/-- The texts one after another, with a separator between neighbours. -/
def join (separator : String) (parts : List String) : String :=
  separator.intercalate parts

/-- A text in capitals has as many characters as before, each of them made a capital by itself. -/
@[simp]
theorem toList_upper (text : String) : (upper text).toList = text.toList.map Char.toUpper := by
  simp [upper]

/-- A text in small letters has as many characters as before, each of them made small by itself. -/
@[simp]
theorem toList_lower (text : String) : (lower text).toList = text.toList.map Char.toLower := by
  simp [lower]

end SchemaForward.Text
