import SchemaForward.Proofs.Script.Contributions

/-!
# Growing a model

Names are given in the order of the model, and what is given depends only on what was given before.
So a model that is a continuation of another has the names of the other to begin with. Relationships
come after all tables: more of them change no name at all. More tables change no name of a table
before them, but may well take one that a relationship would have had.

The definitions of a table speak of other objects only where they hold foreign keys. In a dialect
that adds these later, what a script defines for a table therefore stays as it is too.
-/

namespace SchemaForward

/-- Contributions of one table to two runs: they agree in everything but foreign keys that stand in
the definition of the table. -/
structure Contribution.Agrees (dialect : Dialect) (part other : Contribution) : Prop where
  names : part.names = other.names
  typeWarnings : part.typeWarnings = other.typeWarnings
  skipped : part.skipped = other.skipped
  definitions : dialect.templates.addsConstraints = true → part.definitions = other.definitions

namespace Naming

variable {rules : IdentifierRules} {overrides : Overrides}

/-- Tables that come later are named from what the earlier ones have left taken. -/
theorem nameTables_append (used : TakenNames) (first second : List Table) :
    nameTables rules overrides used (first ++ second) =
      let named := nameTables rules overrides used first
      let later := nameTables rules overrides named.2 second
      (named.1 ++ later.1, later.2) := by
  induction first generalizing used with
  | nil => rfl
  | cons table rest inductionHypothesis =>
    simp only [List.cons_append, nameTables, inductionHypothesis]

/-- Relationships that come later have no part in the names of those before them. They come in
order, and what is taken at the turn of each was taken by those before. -/
theorem nameRelationships_prefix (tables : List (Table × Except NamingFailure NamedTable))
    (used : TakenNames) (first second : List Relationship) :
    nameRelationships rules overrides tables used first <+:
      nameRelationships rules overrides tables used (first ++ second) := by
  induction first generalizing used with
  | nil => exact List.nil_prefix
  | cons relationship rest inductionHypothesis =>
    rw [List.cons_append, nameRelationships, nameRelationships]
    split
    · split
      · exact (List.prefix_cons_inj _).mpr (inductionHypothesis _)
      · exact (List.prefix_cons_inj _).mpr (inductionHypothesis _)
    · exact (List.prefix_cons_inj _).mpr (inductionHypothesis _)

variable (rules overrides) (model : Model)

/-- More relationships leave the tables as they are, and continue the relationships. -/
theorem ofModel_append_relationships (more : List Relationship) :
    let grown := ofModel rules overrides
      { model with relationships := model.relationships ++ more }
    grown.tables = (ofModel rules overrides model).tables ∧
      (ofModel rules overrides model).relationships <+: grown.relationships :=
  ⟨rfl, nameRelationships_prefix _ _ model.relationships more⟩

/-- More tables continue the tables. -/
theorem ofModel_append_tables (more : List Table) :
    ∃ added,
      (ofModel rules overrides { model with tables := model.tables ++ more }).tables =
        (ofModel rules overrides model).tables ++ added := by
  refine ⟨(nameTables rules overrides
    (nameTables rules overrides .empty model.tables).2 more).1, ?_⟩
  simp only [ofModel, nameTables_append]

variable {rules overrides model}

/-- A foreign key depends on the names of the tables alone. -/
theorem foreignKey_congr {naming other : Naming} (same : other.tables = naming.tables) :
    other.foreignKey = naming.foreignKey := by
  funext relationship identifier
  simp only [foreignKey, side, table?, same]

/-- A relationship contributes the same wherever the tables have the same names. -/
theorem relationshipContribution_congr {naming other : Naming}
    (same : other.tables = naming.tables) (dialect : Dialect) :
    other.relationshipContribution dialect = naming.relationshipContribution dialect := by
  funext entry
  simp only [relationshipContribution, foreignKey_congr same]

/-- What a table contributes does not depend on the names of other objects, but for the foreign keys
that stand in it. -/
theorem agrees_tableContribution (dialect : Dialect) (naming other : Naming)
    (entry : Table × Except NamingFailure NamedTable) :
    Contribution.Agrees dialect (naming.tableContribution dialect entry)
      (other.tableContribution dialect entry) := by
  obtain ⟨table, outcome⟩ := entry
  cases outcome with
  | error failure => exact ⟨rfl, rfl, rfl, fun _ => rfl⟩
  | ok named =>
    refine ⟨rfl, rfl, rfl, fun adds => ?_⟩
    simp only [tableContribution, NamedTable.definitions, NamedTable.tableDefinition, adds,
      if_true]

/-- Each of some tables contributes to two runs alike. -/
theorem forall₂_agrees (dialect : Dialect) (naming other : Naming)
    (tables : List (Table × Except NamingFailure NamedTable)) :
    List.Forall₂ (Contribution.Agrees dialect) (tables.map (naming.tableContribution dialect))
      (tables.map (other.tableContribution dialect)) := by
  rw [List.forall₂_map_left_iff, List.forall₂_map_right_iff]
  exact List.forall₂_same.mpr fun entry _ => agrees_tableContribution dialect naming other entry

end Naming

/-- Contributions of the same tables to two runs. -/
abbrev AgreeInOrder (dialect : Dialect) (parts others : List Contribution) : Prop :=
  List.Forall₂ (Contribution.Agrees dialect) parts others

/-- Contributions that agree have the same names among them. -/
theorem AgreeInOrder.flatMap_names {dialect : Dialect} {parts others : List Contribution}
    (agree : AgreeInOrder dialect parts others) :
    parts.flatMap (·.names) = others.flatMap (·.names) := by
  rw [List.flatMap_def, List.flatMap_def,
    map_eq_map_of_forall₂ (agree.imp fun _ _ agrees => agrees.names)]

/-- Contributions that agree have the same definitions among them, if foreign keys are added
later. -/
theorem AgreeInOrder.flatMap_definitions {dialect : Dialect} {parts others : List Contribution}
    (agree : AgreeInOrder dialect parts others)
    (adds : dialect.templates.addsConstraints = true) :
    parts.flatMap (·.definitions) = others.flatMap (·.definitions) := by
  rw [List.flatMap_def, List.flatMap_def,
    map_eq_map_of_forall₂ (agree.imp fun _ _ agrees => agrees.definitions adds)]

namespace ScriptWriter

/-- The statements for the header and for definitions behind it. -/
def written (writer : ScriptWriter) (parts : List Contribution) : List Statement :=
  (.header :: parts.flatMap (·.definitions)).map (·.statement writer.dialect writer.targetSchema)

/-- What the first contributions make stands in front of the results. -/
theorem MadeOf.prefixes {result : ScriptWriter} {parts rest : List Contribution}
    (made : result.MadeOf (parts ++ rest)) :
    parts.flatMap (·.names) <+: result.names ∧ result.written parts <+: result.statements := by
  rw [made.names, made.statements, made.definitions, List.flatMap_append, List.flatMap_append,
    ← List.cons_append]
  exact ⟨List.prefix_append _ _, (List.prefix_append _ _).map _⟩

variable (writer : ScriptWriter) (model : Model)

/-- The results for a model with more relationships are made of what the tables contribute anyway,
and of more contributions behind those of the relationships. -/
theorem madeOf_append_relationships (more : List Relationship) :
    ∃ tables others relationships added,
      (writer.completed model).MadeOf (tables ++ relationships) ∧
        (writer.completed { model with relationships := model.relationships ++ more }).MadeOf
          (others ++ relationships ++ added) ∧
        AgreeInOrder writer.dialect tables others := by
  obtain ⟨sameTables, rest, continued⟩ := Naming.ofModel_append_relationships
    writer.dialect.identifiers writer.overrides model more
  have before := writer.madeOf_completed model
  have after := writer.madeOf_completed
    { model with relationships := model.relationships ++ more }
  rw [Naming.contributions] at before after
  rw [← continued, sameTables, List.map_append, ← List.append_assoc,
    Naming.relationshipContribution_congr sameTables] at after
  exact ⟨_, _, _, _, before, after, Naming.forall₂_agrees writer.dialect _ _ _⟩

/-- A model with more relationships has the same names to begin with, and so it has the same
statements where foreign keys are added later. -/
theorem prefix_append_relationships (more : List Relationship) :
    let before := writer.completed model
    let after := writer.completed { model with relationships := model.relationships ++ more }
    before.names <+: after.names ∧
      (writer.dialect.templates.addsConstraints = true →
        before.statements <+: after.statements) := by
  intro before after
  obtain ⟨tables, others, relationships, added, madeBefore, madeAfter, agree⟩ :=
    madeOf_append_relationships writer model more
  obtain ⟨names, statements⟩ := madeAfter.prefixes
  constructor
  · rw [List.flatMap_append, ← agree.flatMap_names, ← List.flatMap_append,
      ← madeBefore.names] at names
    exact names
  · intro adds
    have same : after.written (others ++ relationships) = before.statements := by
      rw [madeBefore.statements, madeBefore.definitions, List.flatMap_append,
        agree.flatMap_definitions adds, ← List.flatMap_append]
      rfl
    exact same ▸ statements

/-- The results for a model with more tables are made of what the tables contribute anyway, then of
what the further ones do, and then of what becomes of the relationships now. -/
theorem madeOf_append_tables {model : Model} {more : List Table} (valid : model.validate = .ok ())
    (stillValid : { model with tables := model.tables ++ more }.validate = .ok ()) :
    ∃ tables others added relationships otherRelationships,
      (writer.completed model).MadeOf (tables ++ relationships) ∧
        (writer.completed { model with tables := model.tables ++ more }).MadeOf
          (others ++ (added ++ otherRelationships)) ∧
        List.Forall₂ (Naming.TableFate writer.dialect) model.tables tables ∧
        List.Forall₂ (Naming.TableFate writer.dialect) (model.tables ++ more) (others ++ added) ∧
        AgreeInOrder writer.dialect tables others := by
  obtain ⟨added, continued⟩ := Naming.ofModel_append_tables
    writer.dialect.identifiers writer.overrides model more
  have before := writer.madeOf_completed model
  have after := writer.madeOf_completed { model with tables := model.tables ++ more }
  have fates := (Naming.fates_ofModel writer.dialect writer.overrides valid).1
  have laterFates := (Naming.fates_ofModel writer.dialect writer.overrides stillValid).1
  rw [Naming.contributions] at before after
  dsimp only at laterFates
  rw [continued, List.map_append] at after laterFates
  rw [List.append_assoc] at after
  exact ⟨_, _, _, _, _, before, after, fates, laterFates,
    Naming.forall₂_agrees writer.dialect _ _ _⟩

/-- A model that grows keeps its names. With more relationships the names of before come first, and
so do the statements where foreign keys are added later. With more tables, every table of before
contributes the same names to both runs, or is skipped for the same reason; where foreign keys are
added later it contributes the same definitions too. These names, and the statements for these
definitions, come first in both runs and in the same order. -/
theorem generate_keeps_names_of_grown (writer : ScriptWriter) {model : Model}
    (valid : model.validate = .ok ()) :
    let before := (writer.generate model).2
    (∀ more : List Relationship,
        let grown := { model with relationships := model.relationships ++ more }
        let after := (writer.generate grown).2
        grown.validate = .ok () →
          before.names <+: after.names ∧
            (writer.dialect.templates.addsConstraints = true →
              before.statements <+: after.statements)) ∧
      ∀ more : List Table,
        let grown := { model with tables := model.tables ++ more }
        let after := (writer.generate grown).2
        grown.validate = .ok () →
          ∃ tables others added rest otherRest : List Contribution,
            before.MadeOf (tables ++ rest) ∧ after.MadeOf (others ++ (added ++ otherRest)) ∧
              List.Forall₂ (Naming.TableFate writer.dialect) model.tables tables ∧
              List.Forall₂ (Naming.TableFate writer.dialect) grown.tables (others ++ added) ∧
              AgreeInOrder writer.dialect tables others ∧
              tables.flatMap (·.names) <+: before.names ∧
              tables.flatMap (·.names) <+: after.names ∧
              (writer.dialect.templates.addsConstraints = true →
                writer.written tables <+: before.statements ∧
                  writer.written tables <+: after.statements) := by
  intro before
  rw [show before = (writer.generate model).2 from rfl, writer.generate_of_valid valid]
  constructor
  · intro more grown after stillValid
    rw [show after = (writer.generate grown).2 from rfl, writer.generate_of_valid stillValid]
    exact prefix_append_relationships writer model more
  · intro more grown after stillValid
    rw [show after = (writer.generate grown).2 from rfl, writer.generate_of_valid stillValid]
    obtain ⟨tables, others, added, rest, otherRest, madeBefore, madeAfter, fates, laterFates,
      agree⟩ := madeOf_append_tables writer valid stillValid
    refine ⟨tables, others, added, rest, otherRest, madeBefore, madeAfter, fates, laterFates, agree,
      madeBefore.prefixes.1, ?_, fun adds => ⟨madeBefore.prefixes.2, ?_⟩⟩
    · rw [agree.flatMap_names]
      exact madeAfter.prefixes.1
    · have same : writer.written tables = writer.written others := by
        rw [written, written, agree.flatMap_definitions adds]
      rw [same]
      exact madeAfter.prefixes.2

/-- Another relationship of the crowded tables. -/
def furtherRelationship : Relationship :=
  { name := "H", parent := "U", child := "T", mappings := [⟨"id", "id"⟩] }

/-- A table whose key takes the name of a relationship. -/
def furtherTable : Table :=
  { name := "V", columns := [{ name := "id", typeCode := .integer }], keyName := some "F" }

/-- The crowded tables keep their names and statements when a relationship or a table is added. The
table takes the name of a relationship, which does not keep it. -/
theorem crowded_keeps_names :
    let writer := new scant
    let before := (writer.generate crowded).2
    let related := { crowded with relationships := crowded.relationships ++ [furtherRelationship] }
    let grown := { crowded with tables := crowded.tables ++ [furtherTable] }
    crowded.validate = .ok () ∧ related.validate = .ok () ∧ grown.validate = .ok () ∧
      before.names <+: (writer.generate related).2.names ∧
      before.statements <+: (writer.generate related).2.statements ∧
      ¬before.names <+: (writer.generate grown).2.names ∧
      ∃ tables : List Contribution,
        List.Forall₂ (Naming.TableFate scant) crowded.tables tables ∧
          tables.flatMap (·.names) <+: (writer.generate grown).2.names ∧
          writer.written tables <+: (writer.generate grown).2.statements := by
  intro writer before related grown
  have valid : crowded.validate = .ok () := by decide +kernel
  have relatedValid : related.validate = .ok () := by decide +kernel
  have grownValid : grown.validate = .ok () := by decide +kernel
  have adds : writer.dialect.templates.addsConstraints = true := by decide +kernel
  obtain ⟨moreRelationships, moreTables⟩ := writer.generate_keeps_names_of_grown valid
  obtain ⟨names, statements⟩ := moreRelationships [furtherRelationship] relatedValid
  obtain ⟨tables, _, _, _, _, -, -, fates, -, -, -, kept, stated⟩ :=
    moreTables [furtherTable] grownValid
  exact ⟨valid, relatedValid, grownValid, names, statements adds, by decide +kernel, tables, fates,
    kept, (stated adds).2⟩

end ScriptWriter

end SchemaForward
