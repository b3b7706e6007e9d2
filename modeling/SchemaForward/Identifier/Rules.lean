import SchemaForward.Json.Record
import SchemaForward.Text.Letters

/-!
# Identifier rules

What one dialect accepts as an identifier, how it folds the case of names, and when it takes two
names for the same. Letters and digits are those of ASCII. A legal identifier starts with a letter,
holds only allowed characters, fits the maximum length and is not a reserved word.
-/

namespace SchemaForward

/-- How a dialect folds the case of identifiers. -/
inductive LetterCase where
  | upper
  | lower
  | preserve
  deriving DecidableEq, Repr, Inhabited

namespace LetterCase

/-- The spellings of a letter case. -/
def names : List (String × LetterCase) :=
  [("upper", .upper), ("lower", .lower), ("preserve", .preserve)]

/-- The spelling of a letter case. -/
def name : LetterCase → String
  | .upper => "upper"
  | .lower => "lower"
  | .preserve => "preserve"

end LetterCase

/-- The rules for identifiers in a dialect. The defaults are those of a dialect that says nothing
about them. -/
structure IdentifierRules where
  maxLength : Option UInt64 := none
  letterCase : LetterCase := .preserve
  extraCharacters : String := "_"
  leading : String := "X"
  reservedWords : List String := []
  maxSuffix : UInt32 := 9999
  caseInsensitive : Bool := false
  indexesShareTables : Bool := false
  deriving DecidableEq, Repr, Inhabited

namespace IdentifierRules

/-- A character that may stand in an identifier. -/
def isAllowed (rules : IdentifierRules) (character : Char) : Bool :=
  character.isAlphanum || rules.extraCharacters.toList.contains character

/-- A reserved word, whatever its case. -/
def isReserved (rules : IdentifierRules) (name : String) : Bool :=
  rules.reservedWords.any (Text.sameLetters · name)

/-- The name in the case that the dialect gives to identifiers. -/
def fold (rules : IdentifierRules) (name : String) : String :=
  match rules.letterCase with
  | .upper => Text.upper name
  | .lower => Text.lower name
  | .preserve => name

/-- The key of a name. Two names denote the same object exactly if their keys are equal. -/
def key (rules : IdentifierRules) (name : String) : String :=
  match rules.letterCase, rules.caseInsensitive with
  | .preserve, false => name
  | _, _ => Text.upper name

/-- The name is no longer than the rules allow. -/
def fits (rules : IdentifierRules) (name : List Char) : Bool :=
  match rules.maxLength with
  | some limit => name.length ≤ limit.toNat
  | none => true

/-- The name may stand as an identifier. -/
def isLegal (rules : IdentifierRules) (name : String) : Bool :=
  match name.toList with
  | [] => false
  | first :: rest =>
    first.isAlpha && rest.all rules.isAllowed && rules.fits (first :: rest) &&
      !rules.isReserved name

/-- The members of identifier rules in a record. -/
def memberNames : List String :=
  ["max_length", "case", "extra_chars", "leading_prefix", "reserved_words", "max_suffix",
    "case_insensitive", "indexes_share_table_namespace"]

/-- Identifier rules as a record. -/
def toJson (rules : IdentifierRules) : Json :=
  .object [
    ("max_length", .ofOption .ofUInt64 rules.maxLength),
    ("case", .text rules.letterCase.name),
    ("extra_chars", .text rules.extraCharacters),
    ("leading_prefix", .text rules.leading),
    ("reserved_words", .ofList .text rules.reservedWords),
    ("max_suffix", .ofUInt32 rules.maxSuffix),
    ("case_insensitive", .bool rules.caseInsensitive),
    ("indexes_share_table_namespace", .bool rules.indexesShareTables)]

/-- The identifier rules that a record describes. -/
def ofJson? (json : Json) : Option IdentifierRules := do
  let default : IdentifierRules := {}
  let record ← json.record? memberNames
  let maxLength ←
    record.defaulted 0 "max_length" (Json.optional? Json.uint64?) default.maxLength
  let letterCase ← record.defaulted 1 "case" (Json.named? LetterCase.names) default.letterCase
  let extraCharacters ← record.defaulted 2 "extra_chars" Json.text? default.extraCharacters
  let leading ← record.defaulted 3 "leading_prefix" Json.text? default.leading
  let reservedWords ←
    record.defaulted 4 "reserved_words" (Json.list? Json.text?) default.reservedWords
  let maxSuffix ← record.defaulted 5 "max_suffix" Json.uint32? default.maxSuffix
  let caseInsensitive ←
    record.defaulted 6 "case_insensitive" Json.bool? default.caseInsensitive
  let indexesShareTables ←
    record.defaulted 7 "indexes_share_table_namespace" Json.bool? default.indexesShareTables
  return ⟨maxLength, letterCase, extraCharacters, leading, reservedWords, maxSuffix,
    caseInsensitive, indexesShareTables⟩

end IdentifierRules

end SchemaForward
