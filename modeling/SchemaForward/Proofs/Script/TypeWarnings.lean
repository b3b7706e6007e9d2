import SchemaForward.Proofs.DataType.Coercions
import SchemaForward.Proofs.Script.Contents

/-!
# Warnings about column types

A run warns of a column type where resolving it reports a coercion, and gives the two texts of the
coercion. For a code with a native type of its own these are the text that was asked for and the one
that is written, and they differ, unless a scale was cut that neither of them shows. So a warning
that says nothing is given exactly for a scale beyond its limit without a precision above zero.
-/

namespace SchemaForward

namespace NamedTable

/-- A table is warned of for each coercion among the types of its columns. -/
theorem mem_typeWarnings_iff {dialect : Dialect} {table : Table} {warning : Warning} :
    warning ∈ typeWarnings dialect table ↔ ∃ column ∈ table.columns,
      ∃ coercion ∈ (column.resolvedType dialect).coercion,
        warning =
          .given (.column table.name column.name) .typeCoerced coercion.old coercion.new := by
  simp only [typeWarnings, List.mem_filterMap, Option.map_eq_some_iff]
  refine exists_congr fun column => and_congr_right fun _ => ?_
  exact exists_congr fun coercion => and_congr_right fun _ => eq_comm

end NamedTable

namespace Naming

/-- No warning about a name is one about a type. So the two kinds can be told apart by their
reasons. -/
theorem reason_ne_of_mem_warnings {given : GivenIdentifier} {warning : Warning}
    (member : warning ∈ given.warnings) : warning.reason ≠ .typeCoerced := by
  obtain ⟨change, -, rfl⟩ := List.mem_map.mp member
  exact nofun

/-- The warnings of a run about types are those about the tables that were named. Warnings about
names are never about types, and tables that were skipped have none of either kind. -/
theorem mem_warnings_iff {dialect : Dialect} {naming : Naming} {warning : Warning} :
    warning ∈ naming.warnings dialect ∧ warning.reason = .typeCoerced ↔
      ∃ entry ∈ naming.generated, warning ∈ NamedTable.typeWarnings dialect entry.1 := by
  rw [warnings, List.mem_append, List.mem_flatMap, List.mem_flatMap]
  constructor
  · rintro ⟨⟨given, -, ofName⟩ | ofType, isType⟩
    · exact absurd isType (reason_ne_of_mem_warnings ofName)
    · exact ofType
  · rintro ⟨entry, generated, member⟩
    obtain ⟨_, -, _, -, isWarning⟩ := NamedTable.mem_typeWarnings_iff.mp member
    exact ⟨Or.inr ⟨entry, generated, member⟩, congrArg Warning.reason isWarning⟩

end Naming

namespace ScriptWriter

/-- For a code with a native type in a map, a coercion is reported if the text that is written
differs from the one that was asked for, with these two texts. It is reported as well if a scale is
cut that neither of them shows, and then they are the same. So the report tells of a changed text,
no more and no less, exactly if no such scale is cut.

A run with this map over a valid model warns of types for the columns of the tables that it names,
once for each coercion. The old and the new value are the same exactly if such a scale was cut. -/
theorem coercions_tell_changes (map : TypeMap) :
    (∀ (code : TypeCode) (native : NativeType), map.get? code = some native →
      ∀ precision scale,
        TypeMap.Tells native precision scale (map.resolve code precision scale)) ∧
      ∀ writer : ScriptWriter, writer.dialect.types = map →
        ∀ model : Model, model.validate = .ok () →
        let naming := Naming.ofModel writer.dialect.identifiers writer.overrides model
        let result := writer.generate model
        result.1 = .ok () ∧ result.2.names = naming.entries ∧
          (∀ warning, warning ∈ result.2.warnings ∧ warning.reason = .typeCoerced ↔
            ∃ entry ∈ naming.generated, ∃ column ∈ entry.1.columns,
              ∃ coercion ∈ (map.resolve column.typeCode column.precision column.scale).coercion,
                warning = .given (.column entry.1.name column.name) .typeCoerced
                  coercion.old coercion.new) ∧
          ∀ (column : Column) (native : NativeType), map.get? column.typeCode = some native →
            ∀ coercion ∈ (map.resolve column.typeCode column.precision column.scale).coercion,
              coercion.old = coercion.new ↔
                native.CutsUnshownScale column.precision column.scale := by
  have tells : ∀ (code : TypeCode) (native : NativeType), map.get? code = some native →
      ∀ precision scale,
        TypeMap.Tells native precision scale (map.resolve code precision scale) := by
    intro code native mapped precision scale
    rw [TypeMap.resolve, mapped]
    exact TypeMap.tells_resolveMapped native precision scale
  refine ⟨tells, ?_⟩
  rintro writer rfl model valid naming result
  rw [show result = _ from writer.generate_of_valid valid]
  refine ⟨rfl, rfl, fun warning => ?_, fun column native mapped coercion reported => ?_⟩
  · rw [show (writer.completed model).warnings = naming.warnings writer.dialect from rfl,
      Naming.mem_warnings_iff]
    simp only [NamedTable.mem_typeWarnings_iff]
    rfl
  · exact (tells column.typeCode native mapped _ _).old_eq_new_iff reported

/-- The generic dialect with a number type that takes up to thirty-one digits. -/
def narrow : Dialect :=
  { Dialect.Known.generic with
    types := .ofList [(NativeType.plain "DECIMAL" .decimal 31).withPrecision true] }

/-- Four columns of numbers: one within the limits, one beyond them, and two whose scale is beyond
its limit without a precision. -/
def measured : Model where
  tables := [
    { name := "T", columns := [
      { name := "A", typeCode := .decimal, precision := some 10, scale := some 2 },
      { name := "B", typeCode := .decimal, precision := some 50, scale := some 40 },
      { name := "C", typeCode := .decimal, scale := some 50 },
      { name := "D", typeCode := .decimal, precision := some 0, scale := some 3 }] }]

/-- Of the measured columns the first is not warned of, and only the second with a text that has
changed. -/
theorem measured_tell_changes :
    let native := (NativeType.plain "DECIMAL" .decimal 31).withPrecision true
    let result := (new narrow).generate measured
    narrow.types.get? .decimal = some native ∧ measured.validate = .ok () ∧
      TypeMap.Tells native (some 50) (some 40) (narrow.types.resolve .decimal (some 50) (some 40)) ∧
      TypeMap.Tells native none (some 50) (narrow.types.resolve .decimal none (some 50)) ∧
      native.CutsUnshownScale none (some 50) ∧ ¬native.CutsUnshownScale (some 50) (some 40) ∧
      result.1 = .ok () ∧
      result.2.warnings.map (fun warning => (warning.oldValue, warning.newValue)) =
        [("DECIMAL(50,40)", "DECIMAL(31,31)"), ("DECIMAL", "DECIMAL"), ("DECIMAL", "DECIMAL")] := by
  intro native result
  have mapped : narrow.types.get? .decimal = some native := by decide +kernel
  have valid : measured.validate = .ok () := by decide +kernel
  obtain ⟨tells, warns⟩ := coercions_tell_changes narrow.types
  exact ⟨mapped, valid, tells _ native mapped _ _, tells _ native mapped _ _,
    by decide +kernel, by decide +kernel, (warns (new narrow) rfl measured valid).1,
    by decide +kernel⟩

/-- A table with a number column that has a scale beyond its limit and no precision. -/
def scaled : Model where
  name := "scaled"
  tables := [{ name := "T", columns := [{ name := "A", typeCode := .decimal, scale := some 50 }] }]

/-- The scaled column is warned of with two equal texts. Its scale is cut to the limit of the type,
and a scale without a precision is not written. -/
theorem scaled_is_warned_of_unchanged :
    let native := (NativeType.plain "DECIMAL" .decimal 38).withPrecision true
    let resolved := Dialect.Known.generic.types.resolve .decimal none (some 50)
    let result := (new Dialect.Known.generic).generate scaled
    Dialect.Known.generic.types.get? .decimal = some native ∧
      resolved.coercion = some ⟨"DECIMAL", "DECIMAL"⟩ ∧
      ¬(resolved.coercion.isSome = true ↔ resolved.text ≠ native.render none (some 50)) ∧
      scaled.validate = .ok () ∧ result.1 = .ok () ∧
      result.2.warnings = [.given (.column "T" "A") .typeCoerced "DECIMAL" "DECIMAL"] := by
  decide +kernel

end ScriptWriter

end SchemaForward
