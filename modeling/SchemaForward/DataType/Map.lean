import SchemaForward.DataType.Native

/-!
# Type maps

A type map gives at most one native type to each type code. A code without one is written with the
fallback, the largest character type of the map. Resolving a column type clamps its precision and
scale to what the native type takes, and reports what had to change as a coercion.
-/

namespace SchemaForward

/-- The native types of a dialect, at most one for each type code, in the order of the codes. -/
structure TypeMap where
  entries : List NativeType
  deriving DecidableEq, Repr, Inhabited

/-- A column type that was changed: what was asked for, and what is written. -/
structure Coercion where
  old : String
  new : String
  deriving DecidableEq, Repr, Inhabited

/-- A column type as it is written. -/
structure ResolvedType where
  text : String
  native : NativeType
  coercion : Option Coercion
  deriving DecidableEq, Repr, Inhabited

namespace TypeMap

/-- The last native type in a list for a code. -/
def lastFor? (code : TypeCode) (natives : List NativeType) : Option NativeType :=
  natives.reverse.find? (·.code == code)

/-- The map of a list of native types, in which a later one replaces an earlier one. -/
def ofList (natives : List NativeType) : TypeMap where
  entries := TypeCode.all.filterMap fun code => lastFor? code natives

/-- The native type of a code. -/
def get? (map : TypeMap) (code : TypeCode) : Option NativeType :=
  map.entries.find? (·.code == code)

/-- The codes of character types, from the smallest to the largest as a rule. -/
def characterCodes : List TypeCode :=
  [.char, .varChar, .longVarChar, .clob]

/-- The fallback of a map without character types. -/
def defaultFallback : NativeType :=
  ((NativeType.plain "VARCHAR" .varChar 4000).quoted).withPrecision false

/-- The larger of two character types; of equal ones the later. -/
def larger (best next : NativeType) : NativeType :=
  if next.maxPrecision.toNat < best.maxPrecision.toNat then best else next

/-- The largest of a list of character types, and of equal ones the last. -/
def largest? : List NativeType → Option NativeType
  | [] => none
  | first :: rest => some (rest.foldl larger first)

/-- The native type that stands in for codes without one. -/
def fallback (map : TypeMap) : NativeType :=
  (largest? (characterCodes.filterMap map.get?)).getD defaultFallback

/-- Precision and scale within the limits of a native type; the scale stays within the precision.
A type without precision leaves both alone. -/
def clamp (native : NativeType) (precision scale : Option UInt32) :
    Option UInt32 × Option UInt32 :=
  let lesser (first second : UInt32) : UInt32 :=
    if second.toNat < first.toNat then second else first
  if native.takesPrecision then
    let kept := precision.map (lesser · native.maxPrecision)
    if native.takesScale then
      (kept, scale.map (lesser · (kept.getD native.maxPrecision)))
    else (kept, scale)
  else (precision, scale)

/-- The type that was asked for, in terms of its code. -/
def requestedText (code : TypeCode) (precision scale : Option UInt32) : String :=
  match precision, scale with
  | some p, some s => s!"{code.name}({p.toNat},{s.toNat})"
  | some p, none => s!"{code.name}({p.toNat})"
  | none, _ => code.name

/-- The column type for a code whose native type is known. -/
def resolveMapped (native : NativeType) (precision scale : Option UInt32) : ResolvedType :=
  let kept := clamp native precision scale
  let text := native.render kept.1 kept.2
  { text, native,
    coercion :=
      if native.takesPrecision && kept != (precision, scale) then
        some ⟨native.render precision scale, text⟩
      else none }

/-- The column type for a code without a native type. If no precision is asked for, the fallback
is as wide as it can be. -/
def resolveUnmapped (native : NativeType) (code : TypeCode) (precision scale : Option UInt32) :
    ResolvedType :=
  let requested := match precision with
    | some p => some p
    | none => if native.takesPrecision then some native.maxPrecision else none
  let kept := clamp native requested scale
  let text := native.render kept.1 kept.2
  { text, native, coercion := some ⟨requestedText code precision scale, text⟩ }

/-- The column type for a code, a precision and a scale. -/
def resolve (map : TypeMap) (code : TypeCode) (precision scale : Option UInt32) : ResolvedType :=
  match map.get? code with
  | some native => resolveMapped native precision scale
  | none => resolveUnmapped map.fallback code precision scale

/-- A type map as the list of its native types. -/
def toJson (map : TypeMap) : Json :=
  .ofList NativeType.toJson map.entries

/-- The type map of a list of native types. -/
def ofJson? (json : Json) : Option TypeMap :=
  (Json.list? NativeType.ofJson? json).map ofList

end TypeMap

end SchemaForward
