import SchemaForward.DataType.Map

/-!
# Entries of a type map

A type map holds for each code the last native type that its list has for it, and no other. So the
native types of a map, in the order of their codes, make up the map again.
-/

namespace SchemaForward

namespace TypeMap

variable {natives : List NativeType} {native : NativeType} {code : TypeCode}

/-- What is found for a code is a type of that code. The search looks at nothing else, so the
entries of other codes do not matter to it. -/
theorem code_of_lastFor? (found : lastFor? code natives = some native) : native.code = code := by
  simpa using List.find?_some found

/-- What the list has for one code is of another code only if the two are the same. So the entries
of a map, one for each code that has any, are told apart by their codes. -/
theorem any_lastFor?_iff {listed : TypeCode} :
    (lastFor? listed natives).any (·.code == code) = true ↔
      listed = code ∧ (lastFor? code natives).isSome = true := by
  cases found : lastFor? listed natives with
  | none =>
    simp only [Option.any_none, Bool.false_eq_true, false_iff]
    rintro ⟨rfl, present⟩
    simp [found] at present
  | some native =>
    simp only [Option.any_some, beq_iff_eq, code_of_lastFor? found]
    constructor
    · rintro rfl
      exact ⟨rfl, by simp [found]⟩
    · exact fun same => same.1

/-- Among the last native types for some codes, the one for a code is the last for it. Codes without
a type leave no entry behind, and each of the others leaves one of its own code. -/
theorem find?_filterMap_lastFor? {codes : List TypeCode} (member : code ∈ codes) :
    (codes.filterMap fun listed => lastFor? listed natives).find? (·.code == code) =
      lastFor? code natives := by
  rw [List.find?_filterMap]
  cases searched : codes.find? fun listed => (lastFor? listed natives).any (·.code == code) with
  | none =>
    have missing := List.find?_eq_none.mp searched code member
    rw [any_lastFor?_iff] at missing
    have absent : lastFor? code natives = none := by simpa using missing
    rw [absent, Option.bind_none]
  | some listed =>
    have met := List.find?_some searched
    obtain ⟨rfl, _⟩ := any_lastFor?_iff.mp met
    rfl

/-- The map of a list has for each code the last native type for it. -/
theorem get?_ofList (natives : List NativeType) (code : TypeCode) :
    (ofList natives).get? code = lastFor? code natives :=
  find?_filterMap_lastFor? (TypeCode.mem_all code)

/-- The native type of a code is the last one for it among those of the map too. -/
theorem lastFor?_entries (natives : List NativeType) (code : TypeCode) :
    lastFor? code (ofList natives).entries = lastFor? code natives := by
  rw [lastFor?, ofList, ← List.filterMap_reverse]
  exact find?_filterMap_lastFor? (List.mem_reverse.mpr (TypeCode.mem_all code))

/-- The native types of a map make up the map again. -/
theorem ofList_entries (natives : List NativeType) :
    ofList (ofList natives).entries = ofList natives := by
  rw [ofList]
  simp only [lastFor?_entries]
  rfl

end TypeMap

end SchemaForward
