import Mathlib.Data.List.Forall2
import Mathlib.Data.List.Nodup
import SchemaForward.Json.Record

/-!
# Reading values back

The members of an object have no order of their own: a value may come back with the members of its
objects moved, at any depth. A value is read back if whatever it may come back as is read as what it
was written from. Texts, numbers and truth values come back as they are, absence comes back as
`null`, lists and names out of a table come back item by item, and a record has each of its members
under its name wherever it stands.
-/

namespace SchemaForward

namespace Json

/-- The second value is the first with the members of objects moved. -/
inductive Rearranged : Json → Json → Prop
  | refl (json : Json) : Rearranged json json
  | array {elements others : List Json} (each : List.Forall₂ Rearranged elements others) :
      Rearranged (.array elements) (.array others)
  | object {members others moved : List (String × Json)}
      (names : members.map Prod.fst = others.map Prod.fst)
      (values : List.Forall₂ Rearranged (members.map Prod.snd) (others.map Prod.snd))
      (perm : others.Perm moved) : Rearranged (.object members) (.object moved)

/-- Whatever the written value may come back as is read as the value. -/
def ReadsBack {α : Type} (read : Json → Option α) (written : Json) (value : α) : Prop :=
  ∀ json, Rearranged written json → read json = some value

/-- A text is read back from itself, and there is nothing to rearrange in it. -/
theorem readsBack_text (value : String) : ReadsBack text? (.text value) value := by
  intro json rearranged
  cases rearranged
  rfl

/-- A truth value is read back from itself. -/
theorem readsBack_bool (value : Bool) : ReadsBack bool? (.bool value) value := by
  intro json rearranged
  cases rearranged
  rfl

/-- A number is written as an integer within the range that is read. -/
theorem readsBack_uint32 (value : UInt32) : ReadsBack uint32? (.ofUInt32 value) value := by
  intro json rearranged
  cases rearranged
  simp [ofUInt32, uint32?, value.toNat_lt]

/-- A number of sixty-four bits is written as an integer within the range that is read. -/
theorem readsBack_uint64 (value : UInt64) : ReadsBack uint64? (.ofUInt64 value) value := by
  intro json rearranged
  cases rearranged
  simp [ofUInt64, uint64?, value.toNat_lt]

/-- A value out of a table is read back by its name. -/
theorem readsBack_named {α : Type} {table : List (String × α)} {name : String} {value : α}
    (listed : table.lookup name = some value) : ReadsBack (named? table) (.text name) value := by
  intro json rearranged
  cases rearranged
  exact listed

/-- An optional value is read back, as nothing else is written as its absence is. Values of most
types could not be mistaken for it: they are written as texts, numbers, lists or records. -/
theorem readsBack_optional {α : Type} {encode : α → Json} {read : Json → Option α}
    (reads : ∀ value, ReadsBack read (encode value) value) (present : ∀ value, encode value ≠ .null)
    (option : Option α) : ReadsBack (optional? read) (.ofOption encode option) option := by
  intro json rearranged
  cases option with
  | none =>
    cases rearranged
    rfl
  | some value =>
    have found : read json = some value := reads value json rearranged
    cases json with
    | null =>
      have absent : encode value = .null := by
        rw [ofOption] at rearranged
        generalize encode value = written at rearranged
        cases rearranged
        rfl
      exact absurd absent (present value)
    | _ => simp [optional?, found]

/-- What an array comes back as is an array again, item by item. -/
theorem Rearranged.exists_array {elements : List Json} {json : Json}
    (rearranged : Rearranged (.array elements) json) :
    ∃ others, json = .array others ∧ List.Forall₂ Rearranged elements others := by
  cases rearranged with
  | refl => exact ⟨elements, rfl, List.forall₂_same.mpr fun _ _ => .refl _⟩
  | array each => exact ⟨_, rfl, each⟩

/-- Elements that are read one by one are read as a list, in their order. -/
theorem mapM_eq_some {α : Type} {read : Json → Option α} {values : List α} {elements : List Json}
    (each : List.Forall₂ (fun value json => read json = some value) values elements) :
    elements.mapM read = some values := by
  induction each with
  | nil => rfl
  | cons found _ inductionHypothesis => simp [found, inductionHypothesis]

/-- A list is read back if its items are. -/
theorem readsBack_list {α : Type} {encode : α → Json} {read : Json → Option α} {values : List α}
    (reads : ∀ value ∈ values, ReadsBack read (encode value) value) :
    ReadsBack (list? read) (.ofList encode values) values := by
  intro json rearranged
  obtain ⟨others, rfl, each⟩ := rearranged.exists_array
  refine mapM_eq_some (List.Forall₂.imp ?_ ((List.forall₂_and_left _ _).mpr
    ⟨reads, List.forall₂_map_left_iff.mp each⟩))
  exact fun value other ⟨readsValue, moved⟩ => readsValue other moved

/-- What an object comes back as is an object with the same names. -/
theorem Rearranged.exists_object {members : List (String × Json)} {json : Json}
    (rearranged : Rearranged (.object members) json) :
    ∃ others moved : List (String × Json), json = .object moved ∧
      members.map Prod.fst = others.map Prod.fst ∧
      List.Forall₂ Rearranged (members.map Prod.snd) (others.map Prod.snd) ∧ others.Perm moved := by
  cases rearranged with
  | refl =>
    exact ⟨members, members, rfl, rfl, List.forall₂_same.mpr fun _ _ => .refl _, .refl _⟩
  | object names values perm => exact ⟨_, _, rfl, names, values, perm⟩

/-- A member that was written is found under its name, with a value that is at most rearranged
inside. -/
theorem exists_of_mem {members others : List (String × Json)}
    (names : members.map Prod.fst = others.map Prod.fst)
    (values : List.Forall₂ Rearranged (members.map Prod.snd) (others.map Prod.snd))
    {name : String} {json : Json} (written : (name, json) ∈ members) :
    ∃ other, (name, other) ∈ others ∧ Rearranged json other := by
  induction members generalizing others with
  | nil => cases written
  | cons member rest inductionHypothesis =>
    cases others with
    | nil => cases names
    | cons other remaining =>
      obtain ⟨sameName, sameNames⟩ := List.cons.inj names
      cases values with
      | cons moved values =>
        rcases List.mem_cons.mp written with rfl | later
        · have isHead : name = other.1 := sameName
          exact ⟨other.2, isHead ▸ List.mem_cons_self, moved⟩
        · obtain ⟨found, isFound, rearranged⟩ := inductionHypothesis sameNames values later
          exact ⟨found, List.mem_cons_of_mem _ isFound, rearranged⟩

/-- The members of a record are found by their names, and no others are. -/
structure Holds (found members : List (String × Json)) : Prop where
  written : ∀ name json, (name, json) ∈ members →
    ∃ other, found.lookup name = some other ∧ Rearranged json other
  unwritten : ∀ name, name ∉ members.map Prod.fst → found.lookup name = none

/-- A member is found if no name is repeated. -/
theorem lookup_eq_some_of_mem {members : List (String × Json)}
    (distinct : (members.map Prod.fst).Nodup) {name : String} {json : Json}
    (member : (name, json) ∈ members) : members.lookup name = some json := by
  obtain ⟨front, back, rfl⟩ := List.append_of_mem member
  refine List.lookup_eq_some_iff.mpr ⟨front, back, rfl, fun other inFront => ?_⟩
  rw [List.map_append, List.nodup_append] at distinct
  have differ := distinct.2.2 other.1 (List.mem_map_of_mem inFront) name (by simp)
  simpa using differ.symm

/-- What a record with distinct names comes back as is a record with the same members. The order of
its members may be another one. No name comes up twice, which a reader would refuse, and a name that
was not written is not found. -/
theorem Rearranged.record {members : List (String × Json)} {json : Json}
    (rearranged : Rearranged (.object members) json) (distinct : (members.map Prod.fst).Nodup)
    (names : List String) :
    ∃ found, json.record? names = some (.byName found) ∧ Holds found members := by
  obtain ⟨others, moved, rfl, sameNames, values, perm⟩ := rearranged.exists_object
  have distinctMoved : (moved.map Prod.fst).Nodup := by
    rw [← (perm.map Prod.fst).nodup_iff, ← sameNames]
    exact distinct
  refine ⟨moved, ?_, ?_, ?_⟩
  · have single : ∀ name, (moved.filter (·.1 == name)).length ≤ 1 := by
      intro name
      have counted := List.nodup_iff_count_le_one.mp distinctMoved name
      rwa [List.count, List.countP_map, List.countP_eq_length_filter] at counted
    simp [record?, single]
  · intro name json written
    obtain ⟨other, inOthers, rearrangedMember⟩ := exists_of_mem sameNames values written
    exact ⟨other, lookup_eq_some_of_mem distinctMoved (perm.subset inOthers), rearrangedMember⟩
  · intro name unwritten
    rw [sameNames, (perm.map Prod.fst).mem_iff] at unwritten
    refine List.lookup_eq_none_iff.mpr fun member inMoved => ?_
    have differ : name ≠ member.1 := by
      rintro rfl
      exact unwritten (List.mem_map_of_mem inMoved)
    simpa using differ

/-- A record with distinct names is read back if it is read from wherever its members are found. -/
theorem readsBack_record {α : Type} {names : List String} {members : List (String × Json)}
    {read : Record → Option α} {value : α} (distinct : (members.map Prod.fst).Nodup)
    (reads : ∀ found, Holds found members → read (.byName found) = some value) :
    ReadsBack (fun json => (json.record? names).bind read) (.object members) value := by
  intro json rearranged
  obtain ⟨found, isRecord, holds⟩ := rearranged.record distinct names
  dsimp only
  rw [isRecord, Option.bind_some]
  exact reads found holds

namespace Holds

variable {α : Type} {found members : List (String × Json)} {json : Json} {position : Nat}
  {read : Json → Option α} {value default : α}

/-- A member that must be there is read back from wherever it stands among the members. -/
theorem required (holds : Holds found members) (name : String)
    (reads : ReadsBack read json value) (written : (name, json) ∈ members) :
    (Record.byName found).required position name read = some value := by
  obtain ⟨other, isFound, rearranged⟩ := holds.written name json written
  simp [Record.required, Record.find?, isFound, reads other rearranged]

/-- A member with a default is read back if it was written, so that the default plays no part. -/
theorem defaulted (holds : Holds found members) (name : String)
    (reads : ReadsBack read json value) (written : (name, json) ∈ members) :
    (Record.byName found).defaulted position name read default = some value := by
  obtain ⟨other, isFound, rearranged⟩ := holds.written name json written
  simp [Record.defaulted, Record.find?, isFound, reads other rearranged]

/-- A member that is not written is read as its default. -/
theorem defaulted_of_unwritten (holds : Holds found members) (name : String)
    (unwritten : name ∉ members.map Prod.fst) :
    (Record.byName found).defaulted position name read default = some default := by
  simp [Record.defaulted, Record.find?, holds.unwritten name unwritten]

/-- A member that may be null is read back whether it holds a value or none. -/
theorem nullable {option : Option α} (holds : Holds found members) (name : String)
    (reads : ReadsBack (optional? read) json option) (written : (name, json) ∈ members) :
    (Record.byName found).nullable position name read = some option := by
  obtain ⟨other, isFound, rearranged⟩ := holds.written name json written
  simp [Record.nullable, Record.find?, isFound, reads other rearranged]

end Holds

end Json

end SchemaForward
