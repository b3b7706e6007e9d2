import SchemaForward.DataType.Code
import SchemaForward.Json.Record
import SchemaForward.Text.Quoted

/-!
# Native types

How one dialect spells a type code: the native name, the largest precision it takes, what stands
around a literal of the type, and whether a precision or a scale may be given at all.

A default value that already is a complete literal of the type is left as it is. Between single
quotes that means that no quote inside stands alone; other affixes only have to be there.
-/

namespace SchemaForward

/-- Whether columns of a native type may hold the null value. -/
inductive Nullability where
  | notNullOnly
  | nullable
  | unknown
  deriving DecidableEq, Repr, Inhabited

namespace Nullability

/-- The spellings of nullability. -/
def names : List (String × Nullability) :=
  [("NOT_NULL_ONLY", .notNullOnly), ("NULLABLE", .nullable), ("UNKNOWN", .unknown)]

/-- The spelling of a nullability. -/
def name : Nullability → String
  | .notNullOnly => "NOT_NULL_ONLY"
  | .nullable => "NULLABLE"
  | .unknown => "UNKNOWN"

end Nullability

/-- How a dialect spells one type code. -/
structure NativeType where
  name : String
  code : TypeCode
  maxPrecision : UInt32
  literalOpening : Option String
  literalClosing : Option String
  nullability : Nullability
  takesPrecision : Bool
  takesScale : Bool
  deriving DecidableEq, Repr, Inhabited

namespace NativeType

/-- A native type without affixes, precision or scale. -/
def plain (name : String) (code : TypeCode) (maxPrecision : UInt32) : NativeType where
  name
  code
  maxPrecision
  literalOpening := none
  literalClosing := none
  nullability := .nullable
  takesPrecision := false
  takesScale := false

/-- The type with literals between the given affixes. -/
def withLiteral (native : NativeType) (opening closing : Option String) : NativeType :=
  { native with literalOpening := opening, literalClosing := closing }

/-- The type with literals between single quotes. -/
def quoted (native : NativeType) : NativeType :=
  native.withLiteral (some "'") (some "'")

/-- The type with a precision, and a scale if asked for. -/
def withPrecision (native : NativeType) (scale : Bool) : NativeType :=
  { native with takesPrecision := true, takesScale := scale }

/-- The type with the given nullability. -/
def withNullability (native : NativeType) (nullability : Nullability) : NativeType :=
  { native with nullability }

/-- The text of the type with a precision and a scale. A precision of zero counts as none, and
without a precision there is no scale. -/
def render (native : NativeType) (precision scale : Option UInt32) : String :=
  match native.takesPrecision, precision.filter (0 < ·.toNat) with
  | true, some p =>
    match native.takesScale, scale with
    | true, some s => s!"{native.name}({p.toNat},{s.toNat})"
    | _, _ => s!"{native.name}({p.toNat})"
  | _, _ => native.name

/-- What stands between two affixes, if a text starts with the one and ends with the other. -/
def betweenAffixes? (opening closing text : List Char) : Option (List Char) :=
  if opening.isPrefixOf text then
    let rest := text.drop opening.length
    if closing.isSuffixOf rest then some (rest.take (rest.length - closing.length)) else none
  else none

/-- A text is a complete literal between the given affixes. -/
def isLiteral (opening closing text : List Char) : Bool :=
  match betweenAffixes? opening closing text with
  | some inner => opening != ['\''] || !Text.hasLoneQuote inner
  | none => false

/-- A default value between the given affixes, as a literal. -/
def literalBetween (opening closing text : List Char) : List Char :=
  if opening.isEmpty && closing.isEmpty then text
  else if isLiteral opening closing text then text
  else opening ++ (if opening == ['\''] then Text.doubleQuotes text else text) ++ closing

/-- A default value as a literal of the type. -/
def defaultText (native : NativeType) (value : String) : String :=
  String.ofList <| literalBetween (native.literalOpening.getD "").toList
    (native.literalClosing.getD "").toList value.toList

/-- The members of a native type in a record. -/
def memberNames : List String :=
  ["name", "code", "max_precision", "literal_prefix", "literal_suffix", "nullability",
    "precision_supported", "scale_supported"]

/-- A native type as a record. -/
def toJson (native : NativeType) : Json :=
  .object [
    ("name", .text native.name),
    ("code", native.code.toJson),
    ("max_precision", .ofUInt32 native.maxPrecision),
    ("literal_prefix", .ofOption .text native.literalOpening),
    ("literal_suffix", .ofOption .text native.literalClosing),
    ("nullability", .text native.nullability.name),
    ("precision_supported", .bool native.takesPrecision),
    ("scale_supported", .bool native.takesScale)]

/-- The native type that a record describes. -/
def ofJson? (json : Json) : Option NativeType := do
  let record ← json.record? memberNames
  let name ← record.required 0 "name" Json.text?
  let code ← record.required 1 "code" TypeCode.ofJson?
  let maxPrecision ← record.required 2 "max_precision" Json.uint32?
  let literalOpening ← record.defaulted 3 "literal_prefix" (Json.optional? Json.text?) none
  let literalClosing ← record.defaulted 4 "literal_suffix" (Json.optional? Json.text?) none
  let nullability ← record.defaulted 5 "nullability" (Json.named? Nullability.names) .nullable
  let takesPrecision ← record.defaulted 6 "precision_supported" Json.bool? false
  let takesScale ← record.defaulted 7 "scale_supported" Json.bool? false
  return ⟨name, code, maxPrecision, literalOpening, literalClosing, nullability, takesPrecision,
    takesScale⟩

end NativeType

end SchemaForward
