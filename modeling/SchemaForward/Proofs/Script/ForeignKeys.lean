import Mathlib.Data.List.Perm.Basic
import SchemaForward.Proofs.Script.Contents

/-!
# Where foreign keys are declared

In a dialect that adds constraints, each relationship with an identifier is declared once, after all
tables. In one that does not, its foreign key stands in tables instead: in every generated table
that has the name of the child in the model. The first of these is the table that the foreign key
names as its child. So the two scripts declare the same foreign keys, and create the same objects,
exactly if no two generated tables share the name of a child; everything else in them agrees anyway.
-/

namespace SchemaForward

namespace Dialect

/-- The dialect with or without statements that add constraints. -/
def adding (dialect : Dialect) (adds : Bool) : Dialect :=
  { dialect with templates := { dialect.templates with addsConstraints := adds } }

end Dialect

namespace Definition

/-- The foreign keys that stand in a definition, each with the table that it stands in. -/
def inlineKeys : Definition → List (String × ForeignKey)
  | .table definition => definition.foreignKeys.map fun key => (definition.name, key)
  | _ => []

/-- The foreign key that a definition adds to its child. -/
def addedKey? : Definition → Option ForeignKey
  | .foreignKey key => some key
  | _ => none

/-- The definition without the foreign keys that stand in it. -/
def bare : Definition → Definition
  | .table definition => .table { definition with foreignKeys := [] }
  | definition => definition

/-- A foreign key of a table as an object. -/
def keyObject (schema : Option String) (declared : String × ForeignKey) : DatabaseObject :=
  ownedObject .relationship schema declared.1 declared.2.name

/-- The objects that a definition creates. -/
def created (schema : Option String) : Definition → List DatabaseObject
  | .table definition =>
    tableObject schema definition.name :: ownedConstraints schema definition
  | .index definition => [ownedObject .index schema definition.table definition.name]
  | .foreignKey key => [keyObject schema (key.child, key)]
  | _ => []

/-- What is created does not depend on how a dialect writes it. -/
theorem createdObjects_statement (dialect : Dialect) (schema : Option String)
    (definition : Definition) :
    (definition.statement dialect schema).createdObjects = definition.created schema := by
  cases definition <;> rfl

/-- The foreign keys that stand in a definition are created besides all else. -/
theorem created_eq_append (schema : Option String) (definition : Definition) :
    definition.created schema =
      definition.bare.created schema ++ definition.inlineKeys.map (keyObject schema) := by
  cases definition with
  | table definition =>
    simp [created, bare, inlineKeys, ownedConstraints, TableDefinition.writtenKey, keyObject]
  | _ => simp [created, bare, inlineKeys]

/-- What definitions create, with the foreign keys that stand in them put last. Each definition
creates what it does without its foreign keys, and those keys; the order of the two changes, and so
the lists are permutations. -/
theorem created_perm_append (schema : Option String) (definitions : List Definition) :
    (definitions.flatMap (created schema)).Perm
      ((definitions.map bare).flatMap (created schema) ++
        (definitions.flatMap inlineKeys).map (keyObject schema)) := by
  rw [List.flatMap_map, List.map_flatMap]
  have parts : definitions.flatMap (created schema) = definitions.flatMap fun definition =>
      definition.bare.created schema ++ definition.inlineKeys.map (keyObject schema) := by
    congr 1
    funext definition
    exact definition.created_eq_append schema
  rw [parts]
  exact (List.flatMap_append_perm _ _ _).symm

end Definition

namespace NamedTable

variable {table : String} {definition : Definition}

/-- What is attached to a table holds no foreign keys, so there is nothing to take out of it. -/
theorem Attached.bare_eq (attached : Attached table definition) : definition.bare = definition := by
  cases attached <;> rfl

/-- What is attached to a table declares no foreign key in the definition of a table. Only that
definition could. -/
theorem Attached.inlineKeys_eq (attached : Attached table definition) :
    definition.inlineKeys = [] := by
  cases attached <;> rfl

/-- What is attached to a table adds no foreign key later on either. -/
theorem Attached.addedKey?_eq (attached : Attached table definition) :
    definition.addedKey? = none := by
  cases attached <;> rfl

variable (dialect : Dialect) (naming : Naming) (table : Table) (named : NamedTable)

/-- Without its foreign keys, a table is defined as where foreign keys are added later. -/
theorem map_bare_definitions :
    (named.definitions (dialect.adding false) naming table).map Definition.bare =
      named.definitions (dialect.adding true) naming table := by
  have attached : (named.attachments (dialect.adding false) table).map Definition.bare =
      named.attachments (dialect.adding false) table := by
    refine (List.map_congr_left fun definition member => ?_).trans (List.map_id _)
    exact (attached_of_mem member).bare_eq
  rw [definitions_eq_cons, List.map_cons, attached]
  rfl

/-- In the definitions of a table stand the foreign keys of all relationships with a child of its
name in the model. -/
theorem flatMap_inlineKeys_definitions :
    (named.definitions (dialect.adding false) naming table).flatMap Definition.inlineKeys =
      (naming.inlineForeignKeys table.name).map fun key => (named.table.name, key) := by
  have attached : (named.attachments (dialect.adding false) table).flatMap
      Definition.inlineKeys = [] := by
    refine List.flatMap_eq_nil_iff.mpr fun definition member => ?_
    exact (attached_of_mem member).inlineKeys_eq
  rw [definitions_eq_cons, List.flatMap_cons, attached, List.append_nil]
  rfl

/-- The definitions of a table add no foreign keys. -/
theorem filterMap_addedKey?_definitions :
    (named.definitions dialect naming table).filterMap Definition.addedKey? = [] := by
  refine List.filterMap_eq_nil_iff.mpr ?_
  rw [definitions_eq_cons]
  refine List.forall_mem_cons.mpr ⟨rfl, fun definition member => ?_⟩
  exact (attached_of_mem member).addedKey?_eq

end NamedTable

namespace Naming

/-- Two lists can be gone through in either order. The pairs that are met are the same, row by row
or column by column. -/
theorem flatMap_comm_perm {α β γ : Type} (firsts : List α) (seconds : List β)
    (both : α → β → List γ) :
    (firsts.flatMap fun first => seconds.flatMap (both first)).Perm
      (seconds.flatMap fun second => firsts.flatMap (both · second)) := by
  induction firsts with
  | nil => simp
  | cons first rest inductionHypothesis =>
    simp only [List.flatMap_cons]
    have others := inductionHypothesis.append_left (seconds.flatMap (both first))
    exact others.trans (List.flatMap_append_perm _ _ _)

/-- The images of chosen items, as lists of one or none put together. In this form two ways of going
through a table of choices can be exchanged. -/
theorem map_filter_eq_flatMap {α β : Type} (items : List α) (chosen : α → Bool) (image : α → β) :
    (items.filter chosen).map image =
      items.flatMap fun item => if chosen item then [image item] else [] := by
  induction items with
  | nil => rfl
  | cons item rest inductionHypothesis =>
    rw [List.filter_cons, List.flatMap_cons, ← inductionHypothesis]
    by_cases isChosen : chosen item = true <;> simp [isChosen]

/-- What a script defines for tables. -/
def tableDefinitions (dialect : Dialect) (naming : Naming) : List Definition :=
  naming.generated.flatMap fun entry => entry.2.definitions dialect naming entry.1

/-- Without statements that add constraints, the definitions are the header and what the tables
bring. -/
theorem definitions_of_inlining (dialect : Dialect) (naming : Naming) :
    naming.definitions (dialect.adding false) =
      .header :: naming.tableDefinitions (dialect.adding false) :=
  List.append_nil _

/-- With statements that add constraints, these follow all of the tables, one for each named
relationship. -/
theorem definitions_of_adding (dialect : Dialect) (naming : Naming) :
    naming.definitions (dialect.adding true) =
      .header :: naming.tableDefinitions (dialect.adding true) ++
        naming.foreignKeys.map .foreignKey :=
  rfl

/-- Without the foreign keys in its tables, the script for the one dialect begins that for the
other, which goes on with all foreign keys. -/
theorem definitions_adding (dialect : Dialect) (naming : Naming) :
    naming.definitions (dialect.adding true) =
      (naming.definitions (dialect.adding false)).map Definition.bare ++
        naming.foreignKeys.map .foreignKey := by
  have tables : (naming.tableDefinitions (dialect.adding false)).map Definition.bare =
      naming.tableDefinitions (dialect.adding true) := by
    rw [tableDefinitions, List.map_flatMap]
    congr 1
    funext entry
    exact entry.2.map_bare_definitions dialect naming entry.1
  rw [definitions_of_adding, definitions_of_inlining, List.map_cons, tables]
  rfl

/-- No foreign key is added if they stand in their tables. -/
theorem filterMap_addedKey?_definitions (dialect : Dialect) (naming : Naming) :
    (naming.definitions (dialect.adding false)).filterMap Definition.addedKey? = [] := by
  have tables : (naming.tableDefinitions (dialect.adding false)).filterMap
      Definition.addedKey? = [] := by
    rw [tableDefinitions, List.filterMap_flatMap, List.flatMap_eq_nil_iff]
    intro entry _
    exact entry.2.filterMap_addedKey?_definitions (dialect.adding false) naming entry.1
  rw [definitions_of_inlining, List.filterMap_cons_none rfl, tables]

/-- The foreign key of a named relationship, in each generated table of its child's name. -/
def copies (naming : Naming) (entry : Relationship × GivenIdentifier) :
    List (String × ForeignKey) :=
  (naming.namesakes entry.1.child).map fun found =>
    (found.2.table.name, naming.foreignKey entry.1 entry.2.name)

/-- Each relationship with an identifier has one generated table of its child's name. -/
def ChildrenAreUnique (naming : Naming) : Prop :=
  ∀ entry ∈ naming.related, (naming.namesakes entry.1.child).length = 1

instance (naming : Naming) : Decidable naming.ChildrenAreUnique :=
  inferInstanceAs (Decidable (∀ entry ∈ naming.related, _))

/-- A foreign key stands in every generated table of its child's name. Going through the tables and
asking each for its relationships gives the same as going through the relationships and asking each
for its tables, but for the order. -/
theorem inlineKeys_perm_copies (dialect : Dialect) (naming : Naming) :
    ((naming.definitions (dialect.adding false)).flatMap Definition.inlineKeys).Perm
      (naming.related.flatMap naming.copies) := by
  have inTables : (naming.definitions (dialect.adding false)).flatMap Definition.inlineKeys =
      naming.generated.flatMap fun found => naming.related.flatMap fun entry =>
        if entry.1.child == found.1.name then
          [(found.2.table.name, naming.foreignKey entry.1 entry.2.name)] else [] := by
    rw [definitions_of_inlining, List.flatMap_cons, tableDefinitions, List.flatMap_assoc]
    refine (List.nil_append _).trans ?_
    congr 1
    funext found
    rw [NamedTable.flatMap_inlineKeys_definitions, inlineForeignKeys, List.map_map,
      map_filter_eq_flatMap]
    rfl
  rw [inTables]
  refine (flatMap_comm_perm _ _ _).trans (List.Perm.of_eq ?_)
  congr 1
  funext entry
  rw [copies, namesakes, map_filter_eq_flatMap]
  congr 1
  funext found
  rw [Bool.beq_comm]

/-- The foreign keys of named relationships, each with its child. -/
def placedKeys (naming : Naming) : List (String × ForeignKey) :=
  naming.foreignKeys.map fun key => (key.child, key)

/-- The copies of foreign keys in further tables of their child's name. -/
def misplacedKeys (naming : Naming) : List (String × ForeignKey) :=
  naming.related.flatMap fun entry => (naming.copies entry).tail

variable {naming : Naming} (resolved : naming.Resolved)

include resolved

/-- The first copy of a foreign key stands in its child. The child of the key is the first generated
table of that name, which is where the search for it ends. -/
theorem copies_eq_cons {entry : Relationship × GivenIdentifier} (named : entry ∈ naming.related) :
    let key := naming.foreignKey entry.1 entry.2.name
    naming.copies entry = (key.child, key) :: (naming.copies entry).tail := by
  intro key
  obtain ⟨⟨found, finds⟩, -⟩ := resolved entry named
  obtain ⟨others, first⟩ := finds.first
  have child : key.child = found.2.table.name := by
    rw [show key.child = (naming.side entry.1.child _).1 from rfl, finds.side_eq]
  rw [copies, first, child]
  rfl

/-- Every foreign key stands in its child, and then in the further tables of the child's name. The
first part is what the other way of declaring them gives too. The second is empty if names of
children are unique. -/
theorem inlineKeys_perm (dialect : Dialect) :
    ((naming.definitions (dialect.adding false)).flatMap Definition.inlineKeys).Perm
      (naming.placedKeys ++ naming.misplacedKeys) := by
  have firstCopies : naming.related.flatMap naming.copies = naming.related.flatMap fun entry =>
      ((naming.foreignKey entry.1 entry.2.name).child, naming.foreignKey entry.1 entry.2.name) ::
        (naming.copies entry).tail :=
    List.flatMap_congr fun entry named => copies_eq_cons resolved named
  have placed : naming.placedKeys = naming.related.map fun entry =>
      ((naming.foreignKey entry.1 entry.2.name).child,
        naming.foreignKey entry.1 entry.2.name) := by
    rw [placedKeys, foreignKeys, List.map_map]
    rfl
  refine (inlineKeys_perm_copies dialect naming).trans ?_
  rw [firstCopies, placed]
  exact (List.map_append_flatMap_perm _ _ _).symm

/-- No copy of a foreign key stands in a further table exactly if each named relationship has one
generated table of its child's name. It always has at least one. -/
theorem misplacedKeys_eq_nil_iff : naming.misplacedKeys = [] ↔ naming.ChildrenAreUnique := by
  rw [misplacedKeys, List.flatMap_eq_nil_iff]
  refine forall₂_congr fun entry named => ?_
  have counted := congrArg List.length (copies_eq_cons resolved named)
  rw [copies, List.length_map, List.length_cons] at counted
  rw [counted, copies, Nat.add_eq_right, List.length_eq_zero_iff]

/-- If there are no more foreign keys in tables than named relationships, each child is unique. -/
theorem childrenAreUnique_of_length_eq {dialect : Dialect}
    (sameLength : ((naming.definitions (dialect.adding false)).flatMap
      Definition.inlineKeys).length = naming.placedKeys.length) : naming.ChildrenAreUnique := by
  have counted := (inlineKeys_perm resolved dialect).length_eq
  rw [List.length_append] at counted
  apply (misplacedKeys_eq_nil_iff resolved).mp
  apply List.eq_nil_of_length_eq_zero
  omega

/-- If each child is unique, the foreign keys stand each in its child and nowhere else. -/
theorem inlineKeys_perm_of_unique (dialect : Dialect) (unique : naming.ChildrenAreUnique) :
    ((naming.definitions (dialect.adding false)).flatMap Definition.inlineKeys).Perm
      naming.placedKeys := by
  have parts := inlineKeys_perm resolved dialect
  rwa [(misplacedKeys_eq_nil_iff resolved).mpr unique, List.append_nil] at parts

omit resolved

/-- Apart from foreign keys, the two scripts create the same objects. What is left to compare is the
objects of the foreign keys: those that stand in tables against those that are added. -/
theorem created_perm_iff (dialect : Dialect) (schema : Option String) :
    ((naming.definitions (dialect.adding false)).flatMap (Definition.created schema)).Perm
        ((naming.definitions (dialect.adding true)).flatMap (Definition.created schema)) ↔
      (((naming.definitions (dialect.adding false)).flatMap Definition.inlineKeys).map
        (Definition.keyObject schema)).Perm
          (naming.placedKeys.map (Definition.keyObject schema)) := by
  have added : (naming.foreignKeys.map Definition.foreignKey).flatMap
      (Definition.created schema) = naming.placedKeys.map (Definition.keyObject schema) := by
    rw [List.flatMap_map, placedKeys, List.map_map, List.map_eq_flatMap]
    rfl
  rw [definitions_adding, List.flatMap_append, added]
  exact ((Definition.created_perm_append schema _).congr_left _).trans
    (List.perm_append_left_iff _)

end Naming

namespace ScriptWriter

/-- The writer for its dialect with or without statements that add constraints. -/
def adding (writer : ScriptWriter) (adds : Bool) : ScriptWriter :=
  { writer with dialect := writer.dialect.adding adds }

/-- The objects that the statements of a run create. -/
def createdObjects (writer : ScriptWriter) : List DatabaseObject :=
  writer.statements.flatMap Statement.createdObjects

/-- What a run creates can be read off from its definitions. The statements say no more than these
do. -/
theorem createdObjects_completed (writer : ScriptWriter) (model : Model) :
    (writer.completed model).createdObjects =
      ((Naming.ofModel writer.dialect.identifiers writer.overrides model).definitions
        writer.dialect).flatMap (Definition.created writer.targetSchema) := by
  rw [createdObjects, completed, List.flatMap_map]
  congr 1
  funext definition
  exact definition.createdObjects_statement writer.dialect writer.targetSchema

/-- Two runs over a valid model in dialects that differ only in whether they add constraints give
the same identifiers, warnings and skipped objects. The one script is the other without the foreign
keys in its tables, with each relationship that has an identifier added once at the end; the other
adds none. In its tables stand the same foreign keys, each in its child, and copies in the further
tables of the child's name. There are no copies exactly if each child is the only generated table of
its name, and exactly then both scripts create the same objects. -/
theorem declares_same_foreign_keys (writer : ScriptWriter) {model : Model}
    (valid : model.validate = .ok ()) :
    let naming := Naming.ofModel writer.dialect.identifiers writer.overrides model
    let altering := (writer.adding true).generate model
    let inlining := (writer.adding false).generate model
    (altering.1 = .ok () ∧ inlining.1 = .ok () ∧ altering.2.names = inlining.2.names ∧
        altering.2.warnings = inlining.2.warnings ∧ altering.2.skipped = inlining.2.skipped) ∧
      altering.2.statements = (inlining.2.definitions.map Definition.bare ++
        naming.foreignKeys.map Definition.foreignKey).map
          (·.statement (writer.dialect.adding true) writer.targetSchema) ∧
      inlining.2.statements = inlining.2.definitions.map
        (·.statement (writer.dialect.adding false) writer.targetSchema) ∧
      inlining.2.definitions.filterMap Definition.addedKey? = [] ∧
      (inlining.2.definitions.flatMap Definition.inlineKeys).Perm
        ((naming.foreignKeys.map fun key => (key.child, key)) ++ naming.misplacedKeys) ∧
      ((inlining.2.definitions.flatMap Definition.inlineKeys).Perm
          (naming.foreignKeys.map fun key => (key.child, key)) ↔ naming.ChildrenAreUnique) ∧
      (inlining.2.createdObjects.Perm altering.2.createdObjects ↔ naming.ChildrenAreUnique) := by
  intro naming altering inlining
  have completedAltering : altering = (.ok (), (writer.adding true).completed model) :=
    (writer.adding true).generate_of_valid valid
  have completedInlining : inlining = (.ok (), (writer.adding false).completed model) :=
    (writer.adding false).generate_of_valid valid
  have resolved : naming.Resolved := Naming.resolved_ofModel _ _ model
  rw [completedAltering, completedInlining]
  refine ⟨⟨rfl, rfl, rfl, rfl, rfl⟩, ?_, rfl, ?_, ?_, ⟨?_, ?_⟩, ?_⟩
  · exact congrArg (List.map (·.statement (writer.dialect.adding true) writer.targetSchema))
      (naming.definitions_adding writer.dialect)
  · exact naming.filterMap_addedKey?_definitions writer.dialect
  · exact Naming.inlineKeys_perm resolved writer.dialect
  · intro same
    exact Naming.childrenAreUnique_of_length_eq resolved same.length_eq
  · intro unique
    exact Naming.inlineKeys_perm_of_unique resolved writer.dialect unique
  · rw [createdObjects_completed, createdObjects_completed]
    refine (naming.created_perm_iff writer.dialect writer.targetSchema).trans ?_
    constructor
    · intro same
      apply Naming.childrenAreUnique_of_length_eq resolved
      simpa using same.length_eq
    · intro unique
      exact (Naming.inlineKeys_perm_of_unique resolved writer.dialect unique).map _

/-- Of the crowded tables each child is the only one of its name that got in. So both ways of
declaring foreign keys give the same ones, although other tables of those names were skipped. -/
theorem crowded_declare_same_foreign_keys :
    let writer := (new scant).withOverride (.table "U") "V"
    let altering := (writer.adding true).generate crowded
    let inlining := (writer.adding false).generate crowded
    let naming := Naming.ofModel writer.dialect.identifiers writer.overrides crowded
    crowded.validate = .ok () ∧ naming.ChildrenAreUnique ∧
      (naming.foreignKeys.map fun key => (key.name, key.child, key.parent)) =
        [("F", "T_1", "S"), ("G", "V", "T_1")] ∧
      (inlining.2.definitions.flatMap Definition.inlineKeys).Perm
        (naming.foreignKeys.map fun key => (key.child, key)) ∧
      inlining.2.createdObjects.Perm altering.2.createdObjects := by
  intro writer altering inlining naming
  have valid : crowded.validate = .ok () := rfl
  have unique : naming.ChildrenAreUnique := by decide +kernel
  obtain ⟨-, -, -, -, -, keys, objects⟩ := writer.declares_same_foreign_keys valid
  exact ⟨valid, unique, by decide +kernel, keys.mpr unique, objects.mpr unique⟩

/-- Two tables of one name, both generated, and a relationship with that name as its child. -/
def twins : Model where
  name := "twins"
  tables := [
    { name := "P", columns := [{ name := "id", typeCode := .integer, keyPosition := some 1 }] },
    { name := "T", columns := [{ name := "id", typeCode := .integer, keyPosition := some 1 },
      { name := "p", typeCode := .integer }] },
    { name := "T", columns := [{ name := "id", typeCode := .integer, keyPosition := some 1 },
      { name := "p", typeCode := .integer }] }]
  relationships := [{ name := "F", parent := "P", child := "T", mappings := [⟨"id", "p"⟩] }]

/-- Where constraints are added, the relationship of the twins is declared once; where they are not,
it stands in both tables, and the other twin brings a foreign key of the same name along. -/
theorem twins_declare_foreign_key_twice :
    let key : ForeignKey := ⟨"F", "T", ["p"], "P", ["id"], .noAction, .noAction⟩
    let altering := ((new Dialect.Known.sqlite).adding true).generate twins
    let inlining := ((new Dialect.Known.sqlite).adding false).generate twins
    twins.validate = .ok () ∧ (new Dialect.Known.sqlite).adding false = new Dialect.Known.sqlite ∧
      altering.2.definitions.filterMap Definition.addedKey? = [key] ∧
      inlining.2.definitions.flatMap Definition.inlineKeys = [("T", key), ("T_1", key)] ∧
      ¬(inlining.2.definitions.flatMap Definition.inlineKeys).Perm
        ((altering.2.definitions.filterMap Definition.addedKey?).map fun key =>
          (key.child, key)) ∧
      ¬inlining.2.createdObjects.Perm altering.2.createdObjects := by
  decide +kernel

end ScriptWriter

end SchemaForward
