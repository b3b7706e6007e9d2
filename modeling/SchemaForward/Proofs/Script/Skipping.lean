import SchemaForward.Proofs.Script.Growth
import SchemaForward.Proofs.Script.KeyColumns
import SchemaForward.Proofs.Script.MoreTaken

/-!
# What a skipped table leaves

A table that is skipped contributes nothing but its failure, and yet it is not as if it were not
there. The keys of the names it was given until one of them failed stay taken. A later object that
asks for one of them gets another name, with a warning, or is skipped in its turn.

So without the table everything else stays as it is exactly as long as nobody asks for what it has
left. Of the objects that are created this can be told by their names: none of them has a key that a
skipped table left.
-/

namespace SchemaForward

open TakenNames (Extends Avoids Grows)

namespace Model

variable {model : Model} {earlier later : List Table} {table : Table}

/-- A name leads to the same table without a table of another name. -/
theorem table?_without (parts : model.tables = earlier ++ table :: later) {name : String}
    (otherName : table.name ≠ name) :
    { model with tables := earlier ++ later }.table? name = model.table? name := by
  simp [table?, parts, List.find?_append, otherName]

/-- A model stays valid without a table that no relationship refers to. Its columns and indexes are
no longer checked, and all references by name lead where they did. -/
theorem validate_without (valid : model.validate = .ok ())
    (parts : model.tables = earlier ++ table :: later)
    (unrelated : ∀ relationship ∈ model.relationships,
      relationship.parent ≠ table.name ∧ relationship.child ≠ table.name) :
    { model with tables := earlier ++ later }.validate = .ok () := by
  rw [validate_eq_ok_iff, ← faults_eq_nil_iff, faults, List.append_eq_nil_iff,
    List.flatMap_eq_nil_iff, List.flatMap_eq_nil_iff] at valid ⊢
  obtain ⟨ofTables, ofRelationships⟩ := valid
  refine ⟨fun other member => ofTables other ?_, fun relationship member => ?_⟩
  · rw [parts]
    exact (List.sublist_cons_self table later).append_left earlier |>.subset member
  · obtain ⟨notParent, notChild⟩ := unrelated relationship member
    rw [← ofRelationships relationship member, Relationship.faults, Relationship.faults,
      table?_without parts notParent.symm, table?_without parts notChild.symm]

end Model

namespace Naming

/-- A naming is another one without the entry of one table, which was skipped there. -/
structure IsWithout (rest whole : Naming) (table : Table) (failure : NamingFailure) : Prop where
  tables : ∃ first second, rest.tables = first ++ second ∧
    whole.tables = first ++ (table, .error failure) :: second
  relationships : rest.relationships = whole.relationships

/-- No name leads to a table that was skipped. -/
theorem findTable?_skipped (first second : List (Table × Except NamingFailure NamedTable))
    (table : Table) (failure : NamingFailure) :
    findTable? (first ++ (table, .error failure) :: second) = findTable? (first ++ second) := by
  funext name
  simp [findTable?, List.findSome?_append]

/-- Which relationships are named, and how, depends on the tables that names lead to. Tables that no
name leads to can be added or left out, and so can skipped ones. -/
theorem nameRelationships_of_findTable?_eq {rules : IdentifierRules} {overrides : Overrides}
    {tables others : List (Table × Except NamingFailure NamedTable)}
    (same : findTable? others = findTable? tables) :
    nameRelationships rules overrides others = nameRelationships rules overrides tables := by
  have sameReach : isReachable others = isReachable tables := by
    funext relationship
    rw [isReachable, isReachable, same]
  funext used relationships
  induction relationships generalizing used with
  | nil => rfl
  | cons relationship rest inductionHypothesis =>
    rw [nameRelationships, nameRelationships, sameReach]
    simp only [inductionHypothesis]

namespace IsWithout

variable {rest whole : Naming} {table : Table} {failure : NamingFailure}
  (isWithout : rest.IsWithout whole table failure)

include isWithout

/-- Leaving out a skipped table leaves the generated tables as they are. -/
theorem generated_eq : rest.generated = whole.generated := by
  obtain ⟨first, second, ofRest, ofWhole⟩ := isWithout.tables
  simp [generated, ofRest, ofWhole]

/-- Leaving out a skipped table leaves the named relationships as they are. -/
theorem related_eq : rest.related = whole.related := by
  rw [related, related, isWithout.relationships]

/-- Leaving out a skipped table leaves foreign keys as they are. No side of a relationship was
resolved to that table. -/
theorem foreignKey_eq : rest.foreignKey = whole.foreignKey := by
  obtain ⟨first, second, ofRest, ofWhole⟩ := isWithout.tables
  have sameTables : rest.table? = whole.table? := by
    funext name
    rw [table?, table?, ofRest, ofWhole, findTable?_skipped]
  funext relationship identifier
  simp only [foreignKey, side, sameTables]

/-- Leaving out a skipped table leaves the identifiers as they are. It has contributed none. -/
theorem entries_eq : rest.entries = whole.entries := by
  rw [entries, entries, isWithout.generated_eq, isWithout.related_eq]

/-- Leaving out a skipped table leaves the warnings as they are, those about types included. -/
theorem warnings_eq (dialect : Dialect) : rest.warnings dialect = whole.warnings dialect := by
  rw [warnings, warnings, isWithout.entries_eq, isWithout.generated_eq]

/-- Leaving out a skipped table leaves the definitions as they are. -/
theorem definitions_eq (dialect : Dialect) :
    rest.definitions dialect = whole.definitions dialect := by
  have sameTable : ∀ entry : Table × NamedTable,
      entry.2.definitions dialect rest entry.1 = entry.2.definitions dialect whole entry.1 := by
    intro entry
    simp only [NamedTable.definitions, NamedTable.tableDefinition, inlineForeignKeys,
      isWithout.related_eq, isWithout.foreignKey_eq]
  simp only [definitions, foreignKeys, isWithout.generated_eq, isWithout.related_eq,
    isWithout.foreignKey_eq, sameTable]

/-- What was skipped is the same but for the table. -/
theorem skipped_eq : ∃ first last, rest.skipped = first ++ last ∧
    whole.skipped = first ++ ⟨.table table.name, failure⟩ :: last := by
  obtain ⟨first, second, ofRest, ofWhole⟩ := isWithout.tables
  simp only [skipped, ofRest, ofWhole, isWithout.relationships, List.filterMap_append,
    List.filterMap_cons, List.append_assoc]
  exact ⟨_, _, rfl, rfl⟩

end IsWithout

variable (rules : IdentifierRules) (overrides : Overrides)

/-- What is taken once some tables are named. -/
def takenBy (tables : List Table) : TakenNames :=
  (nameTables rules overrides .empty tables).2

/-- A table leaves a key behind: the key is taken once the table is named too, and was not taken by
the tables before it. -/
def Leaves (earlier : List Table) (table : Table) (scope : Namespace) (key : String) : Prop :=
  (takenBy rules overrides earlier).contains scope key = false ∧
    (takenBy rules overrides (earlier ++ [table])).contains scope key = true

variable {rules overrides} {model : Model} {earlier later : List Table} {table : Table}
  {failure : NamingFailure}

instance (scope : Namespace) (key : String) :
    Decidable (Leaves rules overrides earlier table scope key) :=
  inferInstanceAs (Decidable (_ ∧ _))

/-- Tables that come later start from what the earlier ones have left taken. -/
theorem takenBy_append (first second : List Table) :
    takenBy rules overrides (first ++ second) =
      (nameTables rules overrides (takenBy rules overrides first) second).2 := by
  simp only [takenBy, nameTables_append]

/-- The tables behind some others are named from what those have taken. -/
theorem tables_ofModel_of_append (parts : model.tables = earlier ++ later) :
    (ofModel rules overrides model).tables = (nameTables rules overrides .empty earlier).1 ++
      (nameTables rules overrides (takenBy rules overrides earlier) later).1 := by
  simp only [ofModel, parts, nameTables_append, takenBy]

/-- The relationships of a model are named once all of its tables are, from what these have left
taken. -/
theorem relationships_ofModel :
    (ofModel rules overrides model).relationships =
      nameRelationships rules overrides (ofModel rules overrides model).tables
        (takenBy rules overrides model.tables) model.relationships :=
  rfl

/-- Every table comes to something, one outcome for each. -/
theorem length_nameTables (tables : List Table) :
    (nameTables rules overrides .empty tables).1.length = tables.length :=
  (forall₂_nameTables .empty tables).length_eq.symm

/-- Behind a table exactly the keys that it leaves are taken besides those that were taken before.
Nothing is released, so there is no other difference. -/
theorem extends_leaves : Extends (Leaves rules overrides earlier table)
    (takenBy rules overrides earlier) (takenBy rules overrides (earlier ++ [table])) := by
  intro scope key
  have grows := (nameTables_gives rules overrides (takenBy rules overrides earlier)
    [table]).1.kept scope key
  rw [← takenBy_append] at grows
  cases isTaken : (takenBy rules overrides earlier).contains scope key with
  | true => simp [grows isTaken]
  | false => simp [Leaves, isTaken]

section Skipped

variable (parts : model.tables = earlier ++ table :: later)
  (skipped : (ofModel rules overrides model).tables[earlier.length]? =
    some (table, .error failure))

include parts skipped

/-- A table that was skipped in the naming of a model has failed at its stage, and what it leaves
taken is where the tables behind it start. -/
theorem nameTable_of_skipped :
    nameTable rules overrides (takenBy rules overrides earlier) table =
      (.error failure, takenBy rules overrides (earlier ++ [table])) := by
  rw [tables_ofModel_of_append parts,
    List.getElem?_append_right (length_nameTables earlier).le, length_nameTables,
    Nat.sub_self] at skipped
  rw [takenBy_append]
  exact Prod.ext (congrArg Prod.snd (Option.some.inj skipped)) rfl

/-- A table that was skipped stands between those before it, and those that are named from what it
has left. -/
theorem tables_ofModel_of_skipped :
    (ofModel rules overrides model).tables =
      (nameTables rules overrides .empty earlier).1 ++ (table, .error failure) ::
        (nameTables rules overrides (takenBy rules overrides (earlier ++ [table])) later).1 := by
  rw [tables_ofModel_of_append parts, nameTables, nameTable_of_skipped parts skipped]

/-- A skipped table leaves the keys of the identifiers that it was given until it failed, for the
first of its requests. -/
theorem exists_leaves_iff : ∃ name done given, done <+: requestsFor rules table name ∧
    List.Forall₂ (Answers rules) done given ∧ ∀ scope key,
      Leaves rules overrides earlier table scope key ↔ (scope, key) ∈ given.map (place rules) := by
  obtain ⟨name, failed⟩ :=
    exists_giveAll_of_nameTable_error (nameTable_of_skipped parts skipped)
  obtain ⟨done, entries, isPrefix, answers, gives, takes⟩ := takes_of_giveAll_error failed
  refine ⟨name, done, entries, isPrefix, answers, fun scope key => ?_⟩
  rw [Leaves, takes scope key]
  constructor
  · rintro ⟨free, taken | isPlace⟩
    · rw [free] at taken
      cases taken
    · exact isPlace
  · intro isPlace
    obtain ⟨given, member, samePlace⟩ := List.mem_map.mp isPlace
    obtain ⟨rfl, rfl⟩ := Prod.mk.inj samePlace
    exact ⟨gives.fresh given member, Or.inr isPlace⟩

/-- No name that is given has a key that a skipped table left. An identifier given before the table
has a key that was taken before it, and one given after it a key that was still free then. -/
theorem not_leaves_of_mem_entries {given : GivenIdentifier}
    (member : given ∈ (ofModel rules overrides model).entries) :
    ¬Leaves rules overrides earlier table given.scope (rules.key given.name) := by
  rintro ⟨notBefore, left⟩
  obtain ⟨givesEarlier, -⟩ := nameTables_gives rules overrides .empty earlier
  obtain ⟨givesLater, -⟩ := nameTables_gives rules overrides
    (takenBy rules overrides (earlier ++ [table])) later
  obtain ⟨⟨last, givesRelationships⟩, -⟩ := nameRelationships_gives rules overrides
    (ofModel rules overrides model).tables
    (takenBy rules overrides (earlier ++ [table] ++ later)) model.relationships
  have tables := tables_ofModel_of_skipped parts skipped
  rw [takenBy_append (earlier ++ [table]), tables] at givesRelationships
  rw [Naming.entries_eq, relationships_ofModel, parts, List.append_cons, takenBy_append,
    tables, List.flatMap_append, List.flatMap_cons, List.append_assoc] at member
  rcases List.mem_append.mp member with inEarlier | inLater
  · rw [takenBy, givesEarlier.taken given inEarlier] at notBefore
    cases notBefore
  · rw [(givesLater.append givesRelationships).fresh given inLater] at left
    cases left

/-- As long as neither a table nor a relationship takes what a skipped table left, the other objects
are named as without it. -/
theorem isWithout_of_avoids
    (avoids : Avoids (Leaves rules overrides earlier table)
      (takenBy rules overrides (earlier ++ later)))
    (apart : ∀ given ∈ (ofModel rules overrides
        { model with tables := earlier ++ later }).entries,
      ¬Leaves rules overrides earlier table given.scope (rules.key given.name)) :
    (ofModel rules overrides { model with tables := earlier ++ later }).IsWithout
      (ofModel rules overrides model) table failure := by
  rw [takenBy_append] at avoids
  obtain ⟨sameLater, extended⟩ :=
    (steady_nameTables rules overrides later).alike extends_leaves avoids
  have ofRest : (ofModel rules overrides { model with tables := earlier ++ later }).tables = _ :=
    tables_ofModel_of_append rfl
  have ofWhole := tables_ofModel_of_skipped parts skipped
  rw [sameLater] at ofWhole
  refine ⟨⟨_, _, ofRest, ofWhole⟩, ?_⟩
  have sameTables : findTable? (ofModel rules overrides model).tables =
      findTable? (ofModel rules overrides { model with tables := earlier ++ later }).tables := by
    rw [ofRest, ofWhole, findTable?_skipped]
  rw [← takenBy_append, ← takenBy_append, List.append_assoc] at extended
  rw [relationships_ofModel, relationships_ofModel, nameRelationships_of_findTable?_eq sameTables,
    parts]
  refine (nameRelationships_extends _ extended model.relationships ?_).symm
  intro entry member given isGiven
  refine apart given ?_
  rw [Naming.entries_eq]
  exact List.mem_append_right _ (List.mem_filterMap.mpr ⟨entry, member, isGiven⟩)

end Skipped

/-- If no later table is skipped without the one that was, what that one left is taken there only by
names that are given. -/
theorem avoids_of_not_leaves
    (kept : ∀ entry ∈ (ofModel rules overrides
        { model with tables := earlier ++ later }).tables.drop earlier.length,
      ∃ named, entry.2 = .ok named)
    (apart : ∀ given ∈ (ofModel rules overrides
        { model with tables := earlier ++ later }).entries,
      ¬Leaves rules overrides earlier table given.scope (rules.key given.name)) :
    Avoids (Leaves rules overrides earlier table)
      (takenBy rules overrides (earlier ++ later)) := by
  have ofRest : (ofModel rules overrides { model with tables := earlier ++ later }).tables = _ :=
    tables_ofModel_of_append rfl
  rw [ofRest, ← length_nameTables earlier, List.drop_left] at kept
  rw [takenBy_append]
  intro scope key left
  by_contra taken
  rw [Bool.not_eq_false, takes_of_nameTables kept scope key] at taken
  rcases taken with before | isPlace
  · rw [left.1] at before
    cases before
  · obtain ⟨given, member, samePlace⟩ := List.mem_map.mp isPlace
    obtain ⟨rfl, rfl⟩ := Prod.mk.inj samePlace
    refine apart given ?_ left
    rw [Naming.entries_eq, ofRest, List.flatMap_append]
    exact List.mem_append_left _ (List.mem_append_right _ member)

end Naming

namespace ScriptWriter

/-- The results of a writer are those of another, which has one entry more for what it skipped. -/
def IsWithout (result whole : ScriptWriter) (own : SkippedObject) : Prop :=
  ∃ first last, whole.skipped = first ++ own :: last ∧
    result = { whole with skipped := first ++ last }

/-- What holds of two namings carries over to the results of the two runs: they differ in the one
skipped object and agree in everything else. -/
theorem isWithout_completed {writer : ScriptWriter} {rest model : Model} {table : Table}
    {failure : NamingFailure}
    (isWithout : (Naming.ofModel writer.dialect.identifiers writer.overrides rest).IsWithout
      (Naming.ofModel writer.dialect.identifiers writer.overrides model) table failure) :
    (writer.completed rest).IsWithout (writer.completed model) ⟨.table table.name, failure⟩ := by
  obtain ⟨first, last, ofRest, ofWhole⟩ := isWithout.skipped_eq
  refine ⟨first, last, ofWhole, ?_⟩
  simp only [completed, isWithout.definitions_eq, isWithout.entries_eq, isWithout.warnings_eq,
    ofRest]

/-- A table is skipped in a run over a valid model, and no relationship refers to its name. Then the
model is valid without it too. Besides its entry the table leaves the keys of the identifiers that
it was given until it failed. No name of the run has such a key. If no name of the run without the
table has one either, and no table there takes one, the results of both are the same but for the
entry. If no later table is skipped there, they are so exactly if no name has such a key. -/
theorem generate_without_skipped (writer : ScriptWriter) {model : Model}
    {earlier later : List Table} {table : Table} {failure : NamingFailure}
    (valid : model.validate = .ok ()) (parts : model.tables = earlier ++ table :: later)
    (skipped : (Naming.ofModel writer.dialect.identifiers writer.overrides
      model).tables[earlier.length]? = some (table, .error failure))
    (unrelated : ∀ relationship ∈ model.relationships,
      relationship.parent ≠ table.name ∧ relationship.child ≠ table.name) :
    let rules := writer.dialect.identifiers
    let rest := { model with tables := earlier ++ later }
    let Leaves := Naming.Leaves rules writer.overrides earlier table
    let whole := (writer.generate model).2
    let result := writer.generate rest
    result.1 = .ok () ∧
      (∃ name done given, done <+: Naming.requestsFor rules table name ∧
        List.Forall₂ (Naming.Answers rules) done given ∧
        ∀ scope key, Leaves scope key ↔ (scope, key) ∈ given.map (Naming.place rules)) ∧
      (∀ given ∈ whole.names, ¬Leaves given.scope (rules.key given.name)) ∧
      ((∀ given ∈ result.2.names, ¬Leaves given.scope (rules.key given.name)) →
        Avoids Leaves (Naming.takenBy rules writer.overrides rest.tables) →
        result.2.IsWithout whole ⟨.table table.name, failure⟩) ∧
      ((∀ entry ∈ (Naming.ofModel rules writer.overrides rest).tables.drop earlier.length,
          ∃ named, entry.2 = .ok named) →
        (result.2.IsWithout whole ⟨.table table.name, failure⟩ ↔
          ∀ given ∈ result.2.names, ¬Leaves given.scope (rules.key given.name))) := by
  intro rules rest Leaves whole result
  rw [show whole = _ from congrArg Prod.snd (writer.generate_of_valid valid),
    show result = _ from
      writer.generate_of_valid (Model.validate_without valid parts unrelated)]
  have notLeft : ∀ given ∈ (writer.completed model).names,
      ¬Leaves given.scope (rules.key given.name) :=
    fun given member => Naming.not_leaves_of_mem_entries parts skipped member
  have same : (∀ given ∈ (writer.completed rest).names,
        ¬Leaves given.scope (rules.key given.name)) →
      Avoids Leaves (Naming.takenBy rules writer.overrides rest.tables) →
      (writer.completed rest).IsWithout (writer.completed model) ⟨.table table.name, failure⟩ :=
    fun apart avoids => isWithout_completed (Naming.isWithout_of_avoids parts skipped avoids apart)
  refine ⟨rfl, Naming.exists_leaves_iff parts skipped, notLeft, same,
    fun kept => ⟨?_, fun apart => ?_⟩⟩
  · rintro ⟨first, last, -, isRest⟩
    rw [isRest]
    exact notLeft
  · exact same apart (Naming.avoids_of_not_leaves kept apart)

/-- A table that finds no room for the third of its indexes of one name, when the key of its primary
key is taken already. -/
def overfull : Table where
  name := "A"
  columns := [{ name := "id", typeCode := .integer, keyPosition := some 1 }]
  keyName := some "K"
  indexes := [⟨"I", ["id"], false⟩, ⟨"I", ["id"], false⟩, ⟨"I", ["id"], false⟩]

/-- A table behind it with another one of that name for its primary key. -/
def neighbour (keyName : String) : Table where
  name := "B"
  columns := [{ name := "id", typeCode := .integer, keyPosition := some 1 }]
  keyName := some keyName

/-- The failure of the overfull table. -/
def noRoomForIndex : NamingFailure :=
  ⟨.index, "I", .exhausted 1⟩

/-- A neighbour with a key of its own stays as it is without the overfull table. What the overfull
table leaves taken is the name of its key, and the neighbour asks for another. -/
theorem neighbour_without_overfull :
    let model : Model := { name := "", tables := [overfull, neighbour "L"] }
    let whole := ((new sparing).generate model).2
    let result := (new sparing).generate { model with tables := [neighbour "L"] }
    model.validate = .ok () ∧ whole.skipped = [⟨.table "A", noRoomForIndex⟩] ∧
      Naming.Leaves sparing.identifiers .empty [] overfull .constraint "K" ∧
      result.1 = .ok () ∧ result.2.names.map (·.name) = ["B", "id", "L"] ∧
      result.2.IsWithout whole ⟨.table "A", noRoomForIndex⟩ := by
  intro model whole result
  have valid : model.validate = .ok () := by decide +kernel
  have parts : model.tables = [] ++ overfull :: [neighbour "L"] := rfl
  have skipped : (Naming.ofModel sparing.identifiers .empty model).tables[0]? =
      some (overfull, .error noRoomForIndex) := by
    decide +kernel
  obtain ⟨succeeds, -, -, -, same⟩ := (new sparing).generate_without_skipped valid parts skipped
    (by simp [model])
  have kept : ∀ entry ∈ (Naming.ofModel sparing.identifiers .empty
      { model with tables := [neighbour "L"] }).tables.drop 0, entry.2.toBool = true := by
    decide +kernel
  refine ⟨valid, by decide +kernel, by decide +kernel, succeeds, by decide +kernel,
    (same fun entry member => ?_).mpr (by decide +kernel)⟩
  cases outcome : entry.2 with
  | error failure => simpa [outcome, Except.toBool] using kept entry member
  | ok named => exact ⟨named, rfl⟩

/-- A neighbour whose key is to have the name of the key of the overfull table gets another one,
with a warning, though that table is skipped. -/
theorem neighbour_changes_without_overfull :
    let model : Model := { name := "", tables := [overfull, neighbour "K"] }
    let rest : Model := { model with tables := [neighbour "K"] }
    let whole := (new sparing).generate model
    let result := (new sparing).generate rest
    model.validate = .ok () ∧ model.relationships = [] ∧
      whole.2.skipped = [⟨.table "A", noRoomForIndex⟩] ∧
      whole.2.names.map (·.name) = ["B", "id", "K_1"] ∧
      whole.2.warnings = [.given (.primaryKey "B") (.name .collision) "K" "K_1"] ∧
      result.1 = .ok () ∧ result.2.names.map (·.name) = ["B", "id", "K"] ∧
      result.2.warnings = [] ∧ result.2.statements ≠ whole.2.statements := by
  decide +kernel

end ScriptWriter

end SchemaForward
