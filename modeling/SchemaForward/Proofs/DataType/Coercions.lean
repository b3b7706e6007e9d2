import SchemaForward.Proofs.DataType.Limits

/-!
# Coercions of column types

A coercion is reported when the clamp changed a size, and it gives the texts of the type before and
after. The two texts differ exactly if the sizes that they show do, since a text can be read back
into its sizes. A size that the text does not show can be cut as well: this happens to a scale for
which there is no precision. That is the one case in which a coercion is reported although the text
stays the same; in all others the report and the text agree.
-/

namespace SchemaForward

/-- A number is told from what follows it, if that is no digit. Otherwise the digits of a longer
number could run into what stands behind a shorter one. -/
theorem eq_of_toDigits_append {first second : Nat} {mark other : Char} {rest behind : List Char}
    (isMark : mark.isDigit = false) (isOther : other.isDigit = false)
    (same : Nat.toDigits 10 first ++ mark :: rest = Nat.toDigits 10 second ++ other :: behind) :
    first = second ∧ mark :: rest = other :: behind := by
  have digits : ∀ number, ∀ character ∈ Nat.toDigits 10 number, character.isDigit = true :=
    fun _ _ member => Nat.isDigit_of_mem_toDigits (by decide) (by decide) member
  have sameDigits := congrArg (List.takeWhile Char.isDigit) same
  rw [List.takeWhile_append_of_pos (digits first), List.takeWhile_append_of_pos (digits second),
    List.takeWhile_cons_of_neg (by simp [isMark]), List.takeWhile_cons_of_neg (by simp [isOther]),
    List.append_nil, List.append_nil] at sameDigits
  have sameNumber : first = second := by
    rw [← Nat.ofDigitChars_ten_toDigits (n := first), sameDigits, Nat.ofDigitChars_ten_toDigits]
  rw [sameDigits] at same
  exact ⟨sameNumber, List.append_cancel_left same⟩

namespace NativeType

variable {native : NativeType} {precision scale : Option UInt32}

/-- The sizes that the text of a type shows: a precision above zero if the type takes one, and
behind it a scale if the type takes that too. -/
def shownSizes (native : NativeType) (precision scale : Option UInt32) :
    Option (Nat × Option Nat) :=
  if native.takesPrecision then
    (precision.filter (0 < ·.toNat)).map fun size =>
      (size.toNat, if native.takesScale then scale.map (·.toNat) else none)
  else none

/-- Sizes as they stand behind the name of a type. -/
def sizesText : Option (Nat × Option Nat) → String
  | none => ""
  | some (precision, none) => s!"({precision})"
  | some (precision, some scale) => s!"({precision},{scale})"

/-- A type is written as its name, with the sizes that it shows behind. Which sizes those are and
how they are written are kept apart, so that two types of one name differ exactly in the sizes
shown. -/
theorem render_eq_append (native : NativeType) (precision scale : Option UInt32) :
    native.render precision scale =
      native.name ++ sizesText (native.shownSizes precision scale) := by
  cases takes : native.takesPrecision with
  | false => simp [render_of_not_takesPrecision takes, shownSizes, takes, sizesText]
  | true =>
    cases asked : precision.filter (0 < ·.toNat) with
    | none => simp [render_of_filter_eq_none asked, shownSizes, asked, sizesText]
    | some size =>
      cases takesScale : native.takesScale <;> cases scale <;>
        simp [render, shownSizes, takes, asked, takesScale, sizesText, String.append_assoc,
          toString]

/-- A precision without a scale is written between parentheses. The text is given as characters,
because that is where two sizes are told apart by their digits. -/
theorem toList_sizesText_precision (precision : Nat) :
    (sizesText (some (precision, none))).toList = '(' :: (Nat.toDigits 10 precision ++ [')']) := by
  simp [sizesText, toString]

/-- A scale stands behind the precision, with a comma in front of it. No digit is a comma, so what
is written can be taken apart there. -/
theorem toList_sizesText_scale (precision scale : Nat) :
    (sizesText (some (precision, some scale))).toList =
      '(' :: (Nat.toDigits 10 precision ++ ',' :: (Nat.toDigits 10 scale ++ [')'])) := by
  simp [sizesText, toString]

/-- Sizes can be read off their text. Digits end at a comma or a parenthesis, neither of which is a
digit, and different numbers have different digits. -/
theorem sizesText_injective : Function.Injective sizesText := by
  intro first second same
  have same := congrArg String.toList same
  rcases first with - | ⟨precision, - | scale⟩ <;>
    rcases second with - | ⟨other, - | otherScale⟩ <;>
    simp only [toList_sizesText_precision, toList_sizesText_scale, List.cons_inj_right] at same
  case none.none => rfl
  case some.none.some.none =>
    obtain ⟨rfl, -⟩ := eq_of_toDigits_append rfl rfl same
    rfl
  case some.none.some.some | some.some.some.none =>
    have ends := (eq_of_toDigits_append rfl rfl same).2
    simp at ends
  case some.some.some.some =>
    obtain ⟨rfl, ends⟩ := eq_of_toDigits_append rfl rfl same
    obtain ⟨rfl, -⟩ := eq_of_toDigits_append rfl rfl (List.cons.inj ends).2
    rfl
  all_goals simp [sizesText] at same

/-- Two texts of a type differ exactly if the sizes that they show do. -/
theorem render_eq_render_iff {otherPrecision otherScale : Option UInt32} :
    native.render precision scale = native.render otherPrecision otherScale ↔
      native.shownSizes precision scale = native.shownSizes otherPrecision otherScale := by
  rw [render_eq_append, render_eq_append, String.append_right_inj, sizesText_injective.eq_iff]

/-- Without a positive precision nothing is shown, not even a scale that was asked for. A precision
of zero counts as none. -/
theorem shownSizes_of_filter_eq_none (unasked : precision.filter (0 < ·.toNat) = none)
    (scale : Option UInt32) : native.shownSizes precision scale = none := by
  rw [shownSizes, unasked, Option.map_none, ite_self]

/-- A positive precision is shown by every type that takes one. The scale is shown with it if the
type takes a scale as well, and a scale of zero is shown too. -/
theorem shownSizes_of_pos (takes : native.takesPrecision = true) {size : UInt32}
    (positive : 0 < size.toNat) (scale : Option UInt32) :
    native.shownSizes (some size) scale =
      some (size.toNat, if native.takesScale then scale.map (·.toNat) else none) := by
  have asked : (some size).filter (0 < ·.toNat) = some size :=
    Option.filter_some_pos (decide_eq_true positive)
  rw [shownSizes, if_pos takes, asked, Option.map_some]

/-- A scale goes beyond its limit but is not shown: the type takes both sizes, and no precision
above zero is asked for. The limit is the precision, here zero, or without one that of the type. -/
structure CutsUnshownScale (native : NativeType) (precision scale : Option UInt32) : Prop where
  takesPrecision : native.takesPrecision = true
  takesScale : native.takesScale = true
  unshown : precision = none ∨ precision = some 0
  beyond : ∃ asked ∈ scale, (precision.getD native.maxPrecision).toNat < asked.toNat

instance (native : NativeType) (precision scale : Option UInt32) :
    Decidable (native.CutsUnshownScale precision scale) :=
  decidable_of_iff
    (native.takesPrecision = true ∧ native.takesScale = true ∧
      (precision = none ∨ precision = some 0) ∧
      ∃ asked ∈ scale, (precision.getD native.maxPrecision).toNat < asked.toNat)
    ⟨fun ⟨takesPrecision, takesScale, unshown, beyond⟩ =>
      ⟨takesPrecision, takesScale, unshown, beyond⟩,
    fun cuts => ⟨cuts.takesPrecision, cuts.takesScale, cuts.unshown, cuts.beyond⟩⟩

end NativeType

namespace TypeMap

variable {native : NativeType} {precision scale : Option UInt32}

/-- The lesser of two sizes is the first one exactly if that does not exceed the second. Sizes are
compared as numbers. -/
theorem lesser_eq_self_iff {first second : UInt32} :
    lesser first second = first ↔ first.toNat ≤ second.toNat := by
  rw [← UInt32.toNat_inj, toNat_lesser]
  omega

/-- Without a precision to show, the text is the name of the type whatever the scale. -/
theorem render_of_unshown (unshown : precision = none ∨ precision = some 0) :
    native.render precision scale = native.name := by
  rcases unshown with rfl | rfl <;> exact NativeType.render_of_filter_eq_none rfl scale

/-- Without a precision to show, the clamp leaves the precision and cuts the scale. -/
theorem clamp_of_unshown (takes : native.takesPrecision = true)
    (unshown : precision = none ∨ precision = some 0) :
    clamp native precision scale = (precision, if native.takesScale then
      scale.map (lesser · (precision.getD native.maxPrecision)) else scale) := by
  have same : precision.map (lesser · native.maxPrecision) = precision := by
    rcases unshown with rfl | rfl
    · rfl
    · exact congrArg some (lesser_eq_self_iff.mpr (Nat.zero_le _))
  rw [clamp_of_takesPrecision takes, same]

/-- Without a precision to show, the clamp changes a size exactly if it cuts the scale. A precision
of none or zero is kept by the clamp, and a scale that is cut is then cut unseen: the text shows
neither of them. -/
theorem clamp_eq_iff_of_unshown (takes : native.takesPrecision = true)
    (unshown : precision = none ∨ precision = some 0) :
    clamp native precision scale = (precision, scale) ↔
      ¬native.CutsUnshownScale precision scale := by
  rw [clamp_of_unshown takes unshown]
  constructor
  · rintro same ⟨-, takesScale, -, asked, rfl, beyond⟩
    have kept : lesser asked (precision.getD native.maxPrecision) = asked := by
      simpa [takesScale] using same
    have within := lesser_eq_self_iff.mp kept
    omega
  · intro complete
    cases takesScale : native.takesScale with
    | false => rfl
    | true =>
      cases scale with
      | none => rfl
      | some asked =>
        have within : asked.toNat ≤ (precision.getD native.maxPrecision).toNat :=
          Nat.le_of_not_lt fun beyond =>
            complete ⟨takes, takesScale, unshown, asked, rfl, beyond⟩
        simp [lesser_eq_self_iff.mpr within]

/-- With a precision to show, the text changes whenever a size does. A precision that was cut is
shown with other digits, unless it was cut to zero, in which case it is not shown at all; and the
scale is shown beside it wherever it can be cut. -/
theorem clamp_eq_of_render_eq {asked : UInt32} (positive : 0 < asked.toNat)
    (takes : native.takesPrecision = true)
    (same : let kept := clamp native (some asked) scale
      native.render kept.1 kept.2 = native.render (some asked) scale) :
    clamp native (some asked) scale = (some asked, scale) := by
  rw [NativeType.render_eq_render_iff, NativeType.shownSizes_of_pos takes positive,
    clamp_of_takesPrecision takes, Option.map_some] at same
  rw [clamp_of_takesPrecision takes, Option.map_some]
  -- A precision that was cut to zero is not shown, so that nothing would be left of the text.
  have remains : 0 < (lesser asked native.maxPrecision).toNat := by
    refine Nat.pos_of_ne_zero fun isZero => ?_
    rw [NativeType.shownSizes_of_filter_eq_none (by simp [isZero])] at same
    cases same
  dsimp only at same ⊢
  rw [NativeType.shownSizes_of_pos takes remains, Option.some_inj, Prod.mk.injEq,
    UInt32.toNat_inj] at same
  obtain ⟨samePrecision, sameScale⟩ := same
  rw [samePrecision]
  cases takesScale : native.takesScale with
  | false => rfl
  | true =>
    simp only [takesScale, if_true] at sameScale
    have injective : Function.Injective UInt32.toNat := fun _ _ => UInt32.toNat_inj.mp
    have kept := Option.map_injective injective sameScale
    rw [samePrecision] at kept
    simp only [if_true, kept]

/-- A size changes exactly if the text does or a scale is cut that the text does not show. The
second case is the only change that a reader of the text cannot see. It takes a precision that is
not shown, either none or zero. -/
theorem clamp_ne_iff (takes : native.takesPrecision = true) :
    let kept := clamp native precision scale
    kept ≠ (precision, scale) ↔
      native.render kept.1 kept.2 ≠ native.render precision scale ∨
        native.CutsUnshownScale precision scale := by
  intro kept
  by_cases unshown : precision = none ∨ precision = some 0
  · have sameText : native.render kept.1 kept.2 = native.render precision scale := by
      rw [show kept = _ from clamp_of_unshown takes unshown, render_of_unshown unshown,
        render_of_unshown unshown]
    rw [ne_eq, clamp_eq_iff_of_unshown takes unshown, Classical.not_not]
    exact ⟨Or.inr, fun changes => changes.resolve_left (not_not_intro sameText)⟩
  · obtain ⟨asked, rfl⟩ := Option.ne_none_iff_exists'.mp fun missing => unshown (Or.inl missing)
    have positive : 0 < asked.toNat := by
      refine Nat.pos_of_ne_zero fun isZero => unshown (Or.inr ?_)
      exact congrArg some (UInt32.toNat_inj.mp isZero)
    constructor
    · exact fun changed => Or.inl fun same => changed (clamp_eq_of_render_eq positive takes same)
    · rintro (differ | cuts) same
      · exact differ (by rw [same])
      · exact unshown cuts.unshown

/-- A scale that is cut without being shown leaves the text as it was. -/
theorem render_clamp_of_cutsUnshownScale (cuts : native.CutsUnshownScale precision scale) :
    let kept := clamp native precision scale
    native.render kept.1 kept.2 = native.render precision scale := by
  intro kept
  rw [show kept = _ from clamp_of_unshown cuts.takesPrecision cuts.unshown,
    render_of_unshown cuts.unshown, render_of_unshown cuts.unshown]

/-- A coercion gives the text that was asked for and the one that is written. It is reported if they
differ, and also if a scale is cut that neither of them shows. -/
theorem coercion_resolveMapped (native : NativeType) (precision scale : Option UInt32) :
    let resolved := resolveMapped native precision scale
    let requested := native.render precision scale
    resolved.coercion =
      if resolved.text ≠ requested ∨ native.CutsUnshownScale precision scale then
        some ⟨requested, resolved.text⟩ else none := by
  intro resolved requested
  have reported : resolved.coercion =
      if native.takesPrecision && clamp native precision scale != (precision, scale) then
        some ⟨requested, resolved.text⟩ else none := rfl
  have sameCondition :
      (native.takesPrecision && clamp native precision scale != (precision, scale)) = true ↔
        resolved.text ≠ requested ∨ native.CutsUnshownScale precision scale := by
    rw [Bool.and_eq_true, bne_iff_ne]
    cases takes : native.takesPrecision with
    | true => exact (and_iff_right rfl).trans (clamp_ne_iff takes)
    | false =>
      have sameText : resolved.text = requested := by
        rw [show resolved.text = native.name from NativeType.render_of_not_takesPrecision takes _ _]
        exact (NativeType.render_of_not_takesPrecision takes _ _).symm
      have complete : ¬native.CutsUnshownScale precision scale := by
        intro cuts
        rw [cuts.takesPrecision] at takes
        cases takes
      simp [sameText, complete]
  rw [reported]
  exact ite_congr (propext sameCondition) (fun _ => rfl) fun _ => rfl

/-- What a resolved type tells of a change from the sizes that are asked for. -/
structure Tells (native : NativeType) (precision scale : Option UInt32)
    (resolved : ResolvedType) : Prop where
  coercion_eq : resolved.coercion =
    if resolved.text ≠ native.render precision scale ∨ native.CutsUnshownScale precision scale then
      some ⟨native.render precision scale, resolved.text⟩
    else none
  text_eq : native.CutsUnshownScale precision scale →
    resolved.text = native.render precision scale
  isSome_iff_iff : (resolved.coercion.isSome = true ↔
    resolved.text ≠ native.render precision scale) ↔ ¬native.CutsUnshownScale precision scale

/-- What is told about a type that the dialect maps follows from the types alone: the one that was
asked for and the one that is written. The exception is a scale that was cut and is not shown. -/
theorem tells_resolveMapped (native : NativeType) (precision scale : Option UInt32) :
    Tells native precision scale (resolveMapped native precision scale) := by
  have coercion := coercion_resolveMapped native precision scale
  have same : native.CutsUnshownScale precision scale →
      (resolveMapped native precision scale).text = native.render precision scale :=
    render_clamp_of_cutsUnshownScale
  refine ⟨coercion, same, ?_⟩
  dsimp only at coercion
  rw [coercion, Option.isSome_ite]
  by_cases cuts : native.CutsUnshownScale precision scale <;> simp [cuts, same]

/-- The old and new values of a coercion are the same exactly if a scale is cut without being
shown. -/
theorem Tells.old_eq_new_iff {resolved : ResolvedType}
    (tells : Tells native precision scale resolved) {coercion : Coercion}
    (reported : resolved.coercion = some coercion) :
    coercion.old = coercion.new ↔ native.CutsUnshownScale precision scale := by
  rw [tells.coercion_eq, Option.ite_none_right_eq_some, Option.some_inj] at reported
  obtain ⟨differ | cuts, rfl⟩ := reported
  · exact ⟨fun same => absurd same.symm differ, fun cuts => (tells.text_eq cuts).symm⟩
  · exact ⟨fun _ => cuts, fun _ => (tells.text_eq cuts).symm⟩

end TypeMap

end SchemaForward
