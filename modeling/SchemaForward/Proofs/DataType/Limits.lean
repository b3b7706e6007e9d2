import SchemaForward.Proofs.DataType.Entries

/-!
# Limits of column types

The text of a resolved column type never goes beyond what its native type takes. A precision is cut
to the limit of the type and a scale to the precision; a precision of zero is not written, and
without a precision neither is a scale. A code without a native type is written with the fallback,
and that is always reported. Sizes that were cut once are not cut again.
-/

namespace SchemaForward

namespace NativeType

/-- The texts of a native type that keep to its limits: its name alone, with a precision, or with a
precision and a scale. -/
inductive Admits (native : NativeType) : String → Prop where
  | bare : Admits native native.name
  | sized (precision : Nat) (takesPrecision : native.takesPrecision = true)
      (positive : 1 ≤ precision) (within : precision ≤ native.maxPrecision.toNat) :
      Admits native s!"{native.name}({precision})"
  | scaled (precision scale : Nat) (takesPrecision : native.takesPrecision = true)
      (takesScale : native.takesScale = true) (positive : 1 ≤ precision)
      (within : precision ≤ native.maxPrecision.toNat) (noFiner : scale ≤ precision) :
      Admits native s!"{native.name}({precision},{scale})"

/-- The text of a native type for the sizes that are asked for: each is written if the type takes it
and there is something to write, and then it is as large as the limits allow. -/
inductive Fits (native : NativeType) (precision scale : Option UInt32) : String → Prop where
  | bare (unsized : native.takesPrecision = false ∨ native.maxPrecision.toNat = 0 ∨
      precision = none ∨ precision = some 0) : Fits native precision scale native.name
  | sized (asked : UInt32) (written : Nat) (takesPrecision : native.takesPrecision = true)
      (isAsked : precision = some asked)
      (cut : written = min asked.toNat native.maxPrecision.toNat) (positive : 1 ≤ written)
      (unscaled : native.takesScale = false ∨ scale = none) :
      Fits native precision scale s!"{native.name}({written})"
  | scaled (asked askedScale : UInt32) (written writtenScale : Nat)
      (takesPrecision : native.takesPrecision = true) (isAsked : precision = some asked)
      (cut : written = min asked.toNat native.maxPrecision.toNat) (positive : 1 ≤ written)
      (takesScale : native.takesScale = true) (isAskedScale : scale = some askedScale)
      (cutScale : writtenScale = min askedScale.toNat written) :
      Fits native precision scale s!"{native.name}({written},{writtenScale})"

variable {native : NativeType} {precision scale : Option UInt32} {text : String}

/-- A text that fits what is asked for keeps to the limits. -/
theorem Fits.admits (fits : native.Fits precision scale text) : native.Admits text := by
  cases fits with
  | bare _ => exact .bare
  | sized asked written takesPrecision _ cut positive _ =>
    exact .sized written takesPrecision positive (cut ▸ Nat.min_le_right _ _)
  | scaled asked askedScale written writtenScale takesPrecision _ cut positive takesScale _
      cutScale =>
    exact .scaled written writtenScale takesPrecision takesScale positive
      (cut ▸ Nat.min_le_right _ _) (cutScale ▸ Nat.min_le_right _ _)

/-- Where a type takes no precision, its text is its name. -/
theorem render_of_not_takesPrecision (unsized : native.takesPrecision = false)
    (precision scale : Option UInt32) : native.render precision scale = native.name := by
  rw [render, unsized]

/-- Without a precision above zero, the text of a type is its name. -/
theorem render_of_filter_eq_none (unasked : precision.filter (0 < ·.toNat) = none)
    (scale : Option UInt32) : native.render precision scale = native.name := by
  rw [render, unasked]
  cases native.takesPrecision <;> rfl

/-- A precision above zero is written, and a scale behind it where the type takes one. A scale of
zero is written as well. Only a precision of zero counts as none. -/
theorem render_of_pos (sized : native.takesPrecision = true) {kept : UInt32}
    (positive : 0 < kept.toNat) (scale : Option UInt32) :
    native.render (some kept) scale =
      match native.takesScale, scale with
      | true, some keptScale => s!"{native.name}({kept.toNat},{keptScale.toNat})"
      | _, _ => s!"{native.name}({kept.toNat})" := by
  have asked : (some kept).filter (0 < ·.toNat) = some kept :=
    Option.filter_some_pos (decide_eq_true positive)
  cases takesScale : native.takesScale <;> cases scale <;>
    simp only [render, sized, asked, takesScale]

end NativeType

namespace TypeMap

/-- The smaller of two sizes. -/
def lesser (first second : UInt32) : UInt32 :=
  if second.toNat < first.toNat then second else first

/-- The lesser of two sizes is their minimum as numbers. So what is known of minima can be used for
sizes of a fixed width. -/
theorem toNat_lesser (first second : UInt32) :
    (lesser first second).toNat = min first.toNat second.toNat := by
  rw [lesser]
  split <;> omega

/-- What is cut to a limit is not cut to it again. -/
theorem lesser_lesser (first limit : UInt32) :
    lesser (lesser first limit) limit = lesser first limit := by
  refine UInt32.toNat_inj.mp ?_
  rw [toNat_lesser, toNat_lesser]
  omega

variable {native : NativeType} {precision scale : Option UInt32}

/-- A type without a precision leaves the sizes as they are. Neither of them is written, so neither
could exceed anything. -/
theorem clamp_of_not_takesPrecision (unsized : native.takesPrecision = false) :
    clamp native precision scale = (precision, scale) := by
  simp [clamp, unsized]

/-- A type with a precision cuts the precision to what it admits, and then the scale to what is left
of that: no scale exceeds the precision that is kept. A type without a scale leaves the scale as it
is. -/
theorem clamp_of_takesPrecision (sized : native.takesPrecision = true) :
    clamp native precision scale =
      let kept := precision.map (lesser · native.maxPrecision)
      (kept, if native.takesScale then scale.map (lesser · (kept.getD native.maxPrecision))
        else scale) := by
  rw [clamp, if_pos sized]
  cases native.takesScale <;> rfl

/-- Sizes within the limits are left alone. So clamping is done once: a second time the scale is
compared with the same precision, which has not been cut further. -/
theorem clamp_clamp (native : NativeType) (precision scale : Option UInt32) :
    let kept := clamp native precision scale
    clamp native kept.1 kept.2 = kept := by
  intro kept
  cases takes : native.takesPrecision with
  | false => exact clamp_of_not_takesPrecision takes
  | true =>
    rw [show kept = _ from clamp_of_takesPrecision takes, clamp_of_takesPrecision takes]
    have samePrecision : (precision.map (lesser · native.maxPrecision)).map
        (lesser · native.maxPrecision) = precision.map (lesser · native.maxPrecision) := by
      cases precision with
      | none => rfl
      | some asked => simp [lesser_lesser]
    dsimp only
    rw [samePrecision]
    cases native.takesScale with
    | false => rfl
    | true =>
      cases scale with
      | none => rfl
      | some askedScale => simp [lesser_lesser]

/-- The text for clamped sizes fits what was asked for. Either no size is shown, or the precision is
positive and within the limit, and a scale that is shown with it does not exceed the precision. -/
theorem fits_render_clamp (native : NativeType) (precision scale : Option UInt32) :
    let kept := clamp native precision scale
    native.Fits precision scale (native.render kept.1 kept.2) := by
  intro kept
  cases takes : native.takesPrecision with
  | false =>
    rw [NativeType.render_of_not_takesPrecision takes]
    exact .bare (Or.inl takes)
  | true =>
    rw [show kept = _ from clamp_of_takesPrecision takes]
    cases precision with
    | none =>
      rw [NativeType.render_of_filter_eq_none (by rfl)]
      exact .bare (by simp)
    | some asked =>
      have size := toNat_lesser asked native.maxPrecision
      by_cases positive : 0 < (lesser asked native.maxPrecision).toNat
      · rw [Option.map_some, NativeType.render_of_pos takes positive]
        cases takesScale : native.takesScale with
        | false => exact .sized asked _ takes rfl size positive (Or.inl takesScale)
        | true =>
          cases scale with
          | none => exact .sized asked _ takes rfl size positive (Or.inr rfl)
          | some askedScale =>
            exact .scaled asked askedScale _ _ takes rfl size positive takesScale rfl
              (toNat_lesser askedScale _)
      · have unwritten : native.maxPrecision.toNat = 0 ∨ asked.toNat = 0 := by omega
        rw [NativeType.render_of_filter_eq_none (by simpa using positive)]
        refine .bare (Or.inr ?_)
        rcases unwritten with isZero | isZero
        · exact Or.inl isZero
        · exact Or.inr (Or.inr (congrArg some (UInt32.toNat_inj.mp isZero)))

/-- A clamp leaves nothing for another one: resolving the clamped sizes gives the same text and
reports nothing. -/
theorem resolveMapped_clamp (native : NativeType) (precision scale : Option UInt32) :
    let kept := clamp native precision scale
    resolveMapped native kept.1 kept.2 =
      ⟨(resolveMapped native precision scale).text, native, none⟩ := by
  intro kept
  have again := clamp_clamp native precision scale
  dsimp only at again
  rw [resolveMapped, again]
  simp [resolveMapped, kept]

/-- The text for a code without a native type is that of the fallback, which is asked for its whole
width where no precision is given. -/
theorem fits_resolveUnmapped (native : NativeType) (code : TypeCode)
    (precision scale : Option UInt32) :
    native.Fits (precision.or (some native.maxPrecision)) scale
      (resolveUnmapped native code precision scale).text := by
  cases takes : native.takesPrecision with
  | false =>
    have isName : (resolveUnmapped native code precision scale).text = native.name :=
      NativeType.render_of_not_takesPrecision takes _ _
    rw [isName]
    exact .bare (Or.inl takes)
  | true =>
    have fits := fits_render_clamp native
    cases precision with
    | none => simpa [resolveUnmapped, takes] using fits (some native.maxPrecision) scale
    | some asked => exact fits (some asked) scale

/-- A column type is written within the limits of the last native type that the list has for its
code, or of the fallback if it has none. In the first case its text fits the sizes that were asked
for, and asking for the clamped sizes gives the same text without a coercion. In the second case it
fits them too, with the whole width of the fallback in place of a missing precision, and the text is
reported as what stands for the code. -/
theorem resolve_keeps_limits (natives : List NativeType) (code : TypeCode)
    (precision scale : Option UInt32) :
    let map := ofList natives
    let resolved := map.resolve code precision scale
    resolved.native = (lastFor? code natives).getD map.fallback ∧
      resolved.native.Admits resolved.text ∧
      (∀ native, lastFor? code natives = some native →
        let kept := clamp native precision scale
        native.Fits precision scale resolved.text ∧
          map.resolve code kept.1 kept.2 = ⟨resolved.text, native, none⟩) ∧
      (lastFor? code natives = none →
        map.fallback.Fits (precision.or (some map.fallback.maxPrecision)) scale resolved.text ∧
          resolved.coercion = some ⟨requestedText code precision scale, resolved.text⟩) := by
  intro map resolved
  have own : map.get? code = lastFor? code natives := get?_ofList natives code
  rw [← own]
  cases mapped : map.get? code with
  | some native =>
    have same : ∀ asked askedScale,
        map.resolve code asked askedScale = resolveMapped native asked askedScale := by
      intro asked askedScale
      rw [resolve, mapped]
    have fits := fits_render_clamp native precision scale
    rw [show resolved = _ from same precision scale]
    refine ⟨rfl, fits.admits, ?_, nofun⟩
    rintro _ ⟨⟩
    exact ⟨fits, (same _ _).trans (resolveMapped_clamp native precision scale)⟩
  | none =>
    have same : resolved = resolveUnmapped map.fallback code precision scale := by
      rw [show resolved = map.resolve code precision scale from rfl, resolve, mapped]
    have fits := fits_resolveUnmapped map.fallback code precision scale
    rw [same]
    exact ⟨rfl, fits.admits, nofun, fun _ => ⟨fits, rfl⟩⟩

/-- A number type that is listed twice, a character type, and one that takes no precision. -/
def assorted : List NativeType :=
  [(NativeType.plain "DEC" .decimal 9).withPrecision true,
    (NativeType.plain "CHARACTER" .char 254).withPrecision false,
    (NativeType.plain "DECIMAL" .decimal 31).withPrecision true,
    NativeType.plain "INTEGER" .integer 10]

/-- A number type that is too wide is cut to the limits of the last type that is listed for it, and
a code without a type is written as the character type. -/
theorem assorted_keeps_limits :
    let map := ofList assorted
    let wide := map.resolve .decimal (some 50) (some 40)
    let unmapped := map.resolve .blob none (some 3)
    wide.native.name = "DECIMAL" ∧ wide.text = "DECIMAL(31,31)" ∧
      wide.coercion = some ⟨"DECIMAL(50,40)", "DECIMAL(31,31)"⟩ ∧
      wide.native.Admits wide.text ∧
      map.resolve .decimal (some 31) (some 31) = ⟨wide.text, wide.native, none⟩ ∧
      unmapped.native.Admits unmapped.text ∧ unmapped.text = "CHARACTER(254)" ∧
      unmapped.coercion = some ⟨"BLOB", unmapped.text⟩ := by
  intro map wide unmapped
  have isListed : lastFor? .decimal assorted = some wide.native := by decide +kernel
  have isMissing : lastFor? .blob assorted = none := by decide +kernel
  obtain ⟨-, wideAdmits, ofListed, -⟩ :=
    resolve_keeps_limits assorted .decimal (some 50) (some 40)
  obtain ⟨-, again⟩ := ofListed wide.native isListed
  obtain ⟨-, unmappedAdmits, -, ofMissing⟩ := resolve_keeps_limits assorted .blob none (some 3)
  obtain ⟨-, coerced⟩ := ofMissing isMissing
  exact ⟨by decide +kernel, by decide +kernel, by decide +kernel, wideAdmits, again,
    unmappedAdmits, by decide +kernel, coerced⟩

end TypeMap

end SchemaForward
