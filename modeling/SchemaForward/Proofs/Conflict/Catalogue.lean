import Mathlib.Data.Finset.Card
import Mathlib.Logic.Relation
import SchemaForward.Conflict.Scan
import SchemaForward.Target.Fixed

/-!
# Targets with a catalogue

A target has a catalogue if, in certain states that questions do not lead out of, its answers about
dependents come from fixed lists, objects of one key have dependents of the same keys, and no more
keys are listed than the target says it holds. Lookups are not restricted, and any call may fail or
never come back. Dependencies may form cycles, and an object may depend on itself.

A key reaches another if a chain of reported dependents leads from it there. A fixed catalogue is
the standard example.
-/

namespace SchemaForward

/-- A catalogue behind a target: the states in which it holds, and the dependents of objects. -/
structure Catalogue {σ : Type} (target : Target σ) where
  holds : σ → Prop
  dependents : DatabaseObject → List DatabaseObject
  holds_find : ∀ subject state, holds state → holds (target.find subject state).next
  holds_dependents : ∀ object state, holds state → holds (target.dependents object state).next
  answered : ∀ object state, holds state → ∀ found,
    (target.dependents object state).reply = .answer found → found = dependents object
  keyed : ∀ first second : DatabaseObject, first.key = second.key →
    (dependents first).map DatabaseObject.key = (dependents second).map DatabaseObject.key
  keys : Finset ObjectKey
  listed : ∀ object, ∀ dependent ∈ dependents object, dependent.key ∈ keys
  bounded : ∀ state, holds state → keys.card ≤ target.size state

namespace Catalogue

variable {σ : Type} {target : Target σ} (catalogue : Catalogue target)

/-- An object of the second key is reported as a dependent of one of the first. -/
def Reports (key dependent : ObjectKey) : Prop :=
  ∃ object : DatabaseObject, object.key = key ∧
    ∃ found ∈ catalogue.dependents object, found.key = dependent

/-- A chain of reported dependents leads from the first key to the second. -/
def Reaches : ObjectKey → ObjectKey → Prop :=
  Relation.ReflTransGen catalogue.Reports

/-- The target answers the lookup of a subject like this in some state of the catalogue. -/
def Answers (subject : DatabaseObject) (found : Option DatabaseObject) : Prop :=
  ∃ state, catalogue.holds state ∧ (target.find subject state).reply = .answer found

/-- The target answers a lookup with an object, or reports it as a dependent. -/
def Mentions (object : DatabaseObject) : Prop :=
  (∃ subject, catalogue.Answers subject (some object)) ∨
    ∃ other, object ∈ catalogue.dependents other

/-- The error says that the target failed when it was asked about an object. -/
def FailsWith (error : Failure) : Prop :=
  ∃ object state cause, catalogue.holds state ∧ error = Scan.failure object cause ∧
    ((target.find object state).reply = .failure cause ∨
      (target.dependents object state).reply = .failure cause)

/-- The target does not come back from some question about an object. -/
def Crashes : Prop :=
  ∃ object state, catalogue.holds state ∧
    ((target.find object state).reply = .crash ∨ (target.dependents object state).reply = .crash)

variable {catalogue}

/-- What is reported of a key is reported of every object that has it. Objects of one key may differ
in other ways, but their dependents have the same keys in the same order. -/
theorem Reports.exists_dependent {key dependent : ObjectKey}
    (reported : catalogue.Reports key dependent) {object : DatabaseObject}
    (same : object.key = key) :
    ∃ found ∈ catalogue.dependents object, found.key = dependent := by
  obtain ⟨other, otherKey, found, member, foundKey⟩ := reported
  have keys : (catalogue.dependents other).map DatabaseObject.key =
      (catalogue.dependents object).map DatabaseObject.key :=
    catalogue.keyed other object (otherKey.trans same.symm)
  have inKeys : dependent ∈ (catalogue.dependents object).map DatabaseObject.key := by
    rw [← keys, ← foundKey]
    exact List.mem_map_of_mem member
  exact List.mem_map.mp inKeys

/-- A reported dependent is one in terms of keys. -/
theorem reports_of_mem {object found : DatabaseObject}
    (member : found ∈ catalogue.dependents object) : catalogue.Reports object.key found.key :=
  ⟨object, rfl, found, member, rfl⟩

end Catalogue

namespace FixedCatalogue

/-- The states of a fixed catalogue that answer questions as it does. -/
def SameContents (fixed state : FixedCatalogue) : Prop :=
  state.objects = fixed.objects ∧ state.dependencies = fixed.dependencies ∧
    state.catalogueFailures = fixed.catalogueFailures

/-- The catalogue of a fixed catalogue. -/
def catalogue (fixed : FixedCatalogue) : Catalogue calls where
  holds := fixed.SameContents
  dependents object := fixed.directDependents object.key
  holds_find _ _ same := same
  holds_dependents _ _ same := same
  answered object state same found answered := by
    simp only [calls, dependents] at answered
    split at answered
    · cases answered
    · cases answered
      simp only [directDependents, same.2.1]
  keyed first second same := by rw [same]
  keys := (fixed.dependencies.map (·.2.key)).toFinset
  listed object dependent member := by
    simp only [directDependents, List.mem_map, List.mem_filter] at member
    obtain ⟨dependency, ⟨inList, -⟩, rfl⟩ := member
    exact List.mem_toFinset.mpr (List.mem_map_of_mem inList)
  bounded state same := by
    simp only [calls, same.2.1]
    exact (List.toFinset_card_le _).trans (List.length_map _).le

variable {fixed : FixedCatalogue}

/-- One key reports another exactly if some dependency joins them. The catalogue looks for
dependents by the key alone, so the objects of the dependency stand for all others of their keys. -/
theorem reports_iff {key dependent : ObjectKey} :
    fixed.catalogue.Reports key dependent ↔
      (key, dependent) ∈ fixed.dependencies.map fun link => (link.1.key, link.2.key) := by
  simp only [Catalogue.Reports, catalogue, directDependents, List.mem_map, List.mem_filter,
    beq_iff_eq, Prod.mk.injEq]
  constructor
  · rintro ⟨object, rfl, found, ⟨link, ⟨member, same⟩, rfl⟩, rfl⟩
    exact ⟨link, member, same, rfl⟩
  · rintro ⟨link, member, rfl, rfl⟩
    exact ⟨link.1, rfl, link.2, ⟨link, ⟨member, rfl⟩, rfl⟩, rfl⟩

/-- A lookup is answered unless it is told to fail, and always with the first object that stands in
the way. -/
theorem answers_iff {subject : DatabaseObject} {found : Option DatabaseObject} :
    fixed.catalogue.Answers subject found ↔
      fixed.catalogueFailure? subject.name = none ∧
        found = fixed.objects.find? (·.collidesWith subject) := by
  constructor
  · rintro ⟨state, ⟨sameObjects, -, sameFailures⟩, answered⟩
    have sameFailure : state.catalogueFailure? subject.name =
        fixed.catalogueFailure? subject.name := by
      simp only [catalogueFailure?, sameFailures]
    simp only [calls, find, sameFailure, sameObjects] at answered
    split at answered
    · cases answered
    · exact ⟨‹_›, (Reply.answer.inj answered).symm⟩
  · rintro ⟨allowed, rfl⟩
    refine ⟨fixed, ⟨rfl, rfl, rfl⟩, ?_⟩
    simp only [calls, find, allowed]

/-- What a fixed catalogue mentions is among its objects or depends on one of them. -/
theorem mem_of_mentions {object : DatabaseObject} (mentioned : fixed.catalogue.Mentions object) :
    object ∈ fixed.objects ++ fixed.dependencies.map (·.2) := by
  rw [List.mem_append]
  rcases mentioned with ⟨subject, answered⟩ | ⟨other, member⟩
  · exact Or.inl (List.mem_of_find?_eq_some (answers_iff.mp answered).2.symm)
  · simp only [catalogue, directDependents, List.mem_map, List.mem_filter] at member
    obtain ⟨link, ⟨inList, -⟩, rfl⟩ := member
    exact Or.inr (List.mem_map_of_mem inList)

end FixedCatalogue

end SchemaForward
