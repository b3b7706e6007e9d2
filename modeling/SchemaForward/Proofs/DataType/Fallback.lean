import SchemaForward.Proofs.DataType.Entries

/-!
# The fallback of a type map

A type map has for each code the last native type that its list has for it, whatever the order of
the list. Its fallback is the largest of its character types. They are compared in the order of
their codes, and each takes the place of the largest before it unless it is smaller, so that of
several largest ones the last remains. A map without character types falls back on a type that is
not its own.

The fallback is found again from the native types of the map, which hold each code once.
-/

namespace SchemaForward

namespace TypeMap

variable {code : TypeCode} {natives : List NativeType} {native : NativeType}

/-- A native type is the last one in a list for a code. -/
def IsLastFor (code : TypeCode) (natives : List NativeType) (last : NativeType) : Prop :=
  ∃ before after, natives = before ++ last :: after ∧ last.code = code ∧
    ∀ later ∈ after, later.code ≠ code

/-- The search finds the last entry of a code. It goes through the list from behind, and the parts
of the list before and after the entry are turned round with it. -/
theorem lastFor?_eq_some_iff :
    lastFor? code natives = some native ↔ IsLastFor code natives native := by
  rw [lastFor?, List.find?_eq_some_iff_append]
  constructor
  · rintro ⟨isCode, after, before, parts, others⟩
    refine ⟨before.reverse, after.reverse, ?_, by simpa using isCode, by simpa using others⟩
    rw [← natives.reverse_reverse, parts]
    simp
  · rintro ⟨before, after, rfl, isCode, others⟩
    exact ⟨by simpa using isCode, after.reverse, before.reverse, by simp, by simpa using others⟩

/-- The last of the largest native types in a list: those before it are not larger, and those after
it are smaller. -/
def IsLargest (natives : List NativeType) (largest : NativeType) : Prop :=
  ∃ before after, natives = before ++ largest :: after ∧
    (∀ other ∈ before, other.maxPrecision.toNat ≤ largest.maxPrecision.toNat) ∧
    ∀ other ∈ after, other.maxPrecision.toNat < largest.maxPrecision.toNat

namespace IsLargest

variable {best next : NativeType}

/-- No type of the list is larger than the largest one. Those in front of it may be just as large,
which is why the last one of them is meant. -/
theorem le (isLargest : IsLargest natives native) {other : NativeType} (member : other ∈ natives) :
    other.maxPrecision.toNat ≤ native.maxPrecision.toNat := by
  obtain ⟨before, after, rfl, notLarger, smaller⟩ := isLargest
  rcases List.mem_append.mp member with earlier | here
  · exact notLarger other earlier
  · rcases List.mem_cons.mp here with rfl | later
    · exact Nat.le_refl _
    · exact Nat.le_of_lt (smaller other later)

/-- A type before the largest one may be as large. -/
theorem cons (isLargest : IsLargest natives native)
    (notLarger : best.maxPrecision.toNat ≤ native.maxPrecision.toNat) :
    IsLargest (best :: natives) native := by
  obtain ⟨before, after, rfl, others, smaller⟩ := isLargest
  exact ⟨best :: before, after, rfl, List.forall_mem_cons.mpr ⟨notLarger, others⟩, smaller⟩

/-- A type that is smaller than the one before it can be left out. The largest is that one or no
less than it, so the smaller one does not come into question. -/
theorem insert (isLargest : IsLargest (best :: natives) native)
    (smaller : next.maxPrecision.toNat < best.maxPrecision.toNat) :
    IsLargest (best :: next :: natives) native := by
  have bound := isLargest.le List.mem_cons_self
  obtain ⟨before, after, parts, notLarger, others⟩ := isLargest
  cases before with
  | nil =>
    obtain ⟨rfl, rfl⟩ := List.cons_eq_cons.mp parts
    exact ⟨[], next :: natives, rfl, notLarger, List.forall_mem_cons.mpr ⟨smaller, others⟩⟩
  | cons first before =>
    obtain ⟨rfl, rfl⟩ := List.cons_eq_cons.mp parts
    obtain ⟨-, notLarger⟩ := List.forall_mem_cons.mp notLarger
    refine ⟨best :: next :: before, after, rfl, ?_, others⟩
    exact List.forall_mem_cons.mpr ⟨bound, List.forall_mem_cons.mpr ⟨by omega, notLarger⟩⟩

/-- A type that is larger than all behind it, and one from its place on that none between them
exceeds, are the same. -/
theorem eq_of_cons_eq_append {other : NativeType} {between after later : List NativeType}
    (parts : native :: after = between ++ other :: later)
    (smaller : ∀ next ∈ after, next.maxPrecision.toNat < native.maxPrecision.toNat)
    (notLarger : ∀ next ∈ between, next.maxPrecision.toNat ≤ other.maxPrecision.toNat) :
    native = other := by
  cases between with
  | nil => exact (List.cons_eq_cons.mp parts).1
  | cons first between =>
    -- The other would be smaller, and at once not smaller.
    obtain ⟨rfl, rfl⟩ := List.cons_eq_cons.mp parts
    have le := notLarger native List.mem_cons_self
    have lt := smaller other (by simp)
    omega

/-- There is only one last of the largest. -/
theorem unique (isLargest : IsLargest natives native) {other : NativeType}
    (isOther : IsLargest natives other) : native = other := by
  obtain ⟨before, after, rfl, notLarger, smaller⟩ := isLargest
  obtain ⟨earlier, later, parts, notLargerThanOther, smallerThanOther⟩ := isOther
  rcases List.append_eq_append_iff.mp parts with ⟨between, rfl, rest⟩ | ⟨between, rfl, rest⟩
  · exact eq_of_cons_eq_append rest smaller
      fun next member => notLargerThanOther next (List.mem_append_right _ member)
  · exact (eq_of_cons_eq_append rest smallerThanOther
      fun next member => notLarger next (List.mem_append_right _ member)).symm

end IsLargest

/-- Comparing one by one finds the last of the largest. Of two that are equal the later one is kept.
The induction goes along the list with the largest so far in front of what is left. -/
theorem isLargest_foldl (first : NativeType) (rest : List NativeType) :
    IsLargest (first :: rest) (rest.foldl larger first) := by
  induction rest generalizing first with
  | nil => exact ⟨[], [], rfl, List.forall_mem_nil _, List.forall_mem_nil _⟩
  | cons next rest inductionHypothesis =>
    rw [List.foldl_cons, larger]
    split
    next smaller => exact (inductionHypothesis first).insert smaller
    next notSmaller =>
      have found := inductionHypothesis next
      have bound := found.le List.mem_cons_self
      exact found.cons (by omega)

/-- What stands in for codes without a native type: the last of the largest character types, or
without any a type for up to four thousand characters. -/
inductive StandsIn : List NativeType → NativeType → Prop
  | largest {characters : List NativeType} {native : NativeType}
      (isLargest : IsLargest characters native) : StandsIn characters native
  | builtIn : StandsIn []
      { name := "VARCHAR", code := .varChar, maxPrecision := 4000, literalOpening := some "'",
        literalClosing := some "'", nullability := .nullable, takesPrecision := true,
        takesScale := false }

/-- Only one type can stand in: the largest one of a list is unique, and the one that is built in
only stands in where there are none to choose from. -/
theorem StandsIn.unique {other : NativeType} (standsIn : StandsIn natives native)
    (otherStandsIn : StandsIn natives other) : native = other := by
  cases standsIn with
  | largest isLargest =>
    cases otherStandsIn with
    | largest isOther => exact isLargest.unique isOther
    | builtIn => simp [IsLargest] at isLargest
  | builtIn =>
    cases otherStandsIn with
    | largest isOther => simp [IsLargest] at isOther
    | builtIn => rfl

/-- The largest of some types stands in, or the one that is built in if there are none. An empty
list is the only one without a largest type. -/
theorem standsIn_getD_largest? (characters : List NativeType) :
    StandsIn characters ((largest? characters).getD defaultFallback) := by
  cases characters with
  | nil => exact .builtIn
  | cons first rest => exact .largest (isLargest_foldl first rest)

/-- A map has for each code the last native type for it, in the order of the codes. Its fallback is
the last of the largest among the types that it has for the four character codes, and no other type
is. The map of its own native types is the same map, and falls back on the same type. -/
theorem ofList_falls_back_on_largest (natives : List NativeType) :
    let map := ofList natives
    let characters := [TypeCode.char, .varChar, .longVarChar, .clob].filterMap map.get?
    (∀ code native, map.get? code = some native ↔ IsLastFor code natives native) ∧
      map.entries = TypeCode.all.filterMap map.get? ∧
      (∀ native, map.fallback = native ↔ StandsIn characters native) ∧
      ofList map.entries = map ∧ (ofList map.entries).fallback = map.fallback := by
  intro map characters
  have standsIn : StandsIn characters map.fallback := standsIn_getD_largest? characters
  have again : ofList map.entries = map := ofList_entries natives
  refine ⟨fun code native => ?_, ?_, fun native => ?_, again, congrArg fallback again⟩
  · rw [get?_ofList]
    exact lastFor?_eq_some_iff
  · have found : map.get? = fun code => lastFor? code natives := funext (get?_ofList natives)
    rw [found]
    rfl
  · constructor
    · rintro rfl
      exact standsIn
    · exact standsIn.unique

example : (ofList [.plain "CLOB" .clob 9, .plain "TEXT" .varChar 20, .plain "VARCHAR" .varChar 9,
    .plain "CHAR" .char 9, .plain "BLOB" .blob 50]).fallback.name = "CLOB" := by
  decide +kernel

end TypeMap

end SchemaForward
