import SchemaForward.Dialect.Basic
import SchemaForward.Model.Encoding
import SchemaForward.Proofs.DataType.Entries
import SchemaForward.Proofs.Json.Reading
import SchemaForward.Statement.Basic

/-!
# Dialects, models and statements as records

What is written of a dialect, a model or a statement is read as the same again, wherever the members
of its records stand. Every member is written except further objects of a statement that has none,
and these are none by default. A type map is written as its native types in the order of their
codes, without the fallback; since it has one native type for a code at most, the same list makes it
up again, and the fallback with it.
-/

namespace SchemaForward

/-- An optional text is read back. -/
theorem readsBack_optionalText (value : Option String) :
    Json.ReadsBack (Json.optional? Json.text?) (.ofOption .text value) value :=
  Json.readsBack_optional Json.readsBack_text nofun value

/-- An optional number is read back. -/
theorem readsBack_optionalNumber (value : Option UInt32) :
    Json.ReadsBack (Json.optional? Json.uint32?) (.ofOption .ofUInt32 value) value :=
  Json.readsBack_optional Json.readsBack_uint32 nofun value

/-- A list of texts is read back. -/
theorem readsBack_texts (values : List String) :
    Json.ReadsBack (Json.list? Json.text?) (.ofList .text values) values :=
  Json.readsBack_list fun value _ => Json.readsBack_text value

/-! ## Dialects -/

/-- A type code is read back from its spelling, as no two codes are spelled alike. -/
theorem TypeCode.readsBack (code : TypeCode) : Json.ReadsBack ofJson? code.toJson code :=
  Json.readsBack_named (by cases code <;> rfl)

/-- Whether a type takes nulls is read back from its spelling. -/
theorem Nullability.readsBack (nullability : Nullability) :
    Json.ReadsBack (Json.named? names) (.text nullability.name) nullability :=
  Json.readsBack_named (by cases nullability <;> rfl)

/-- A native type is read back from its record, in which the affixes and the limits are members of
their own. -/
theorem NativeType.readsBack (native : NativeType) :
    Json.ReadsBack ofJson? native.toJson native := by
  refine Json.readsBack_record (by simp) fun found holds => ?_
  simp only [Option.bind_eq_bind, Option.bind_some,
    holds.required "name" (Json.readsBack_text native.name) (by simp),
    holds.required "code" native.code.readsBack (by simp),
    holds.required "max_precision" (Json.readsBack_uint32 native.maxPrecision) (by simp),
    holds.defaulted "literal_prefix" (readsBack_optionalText native.literalOpening) (by simp),
    holds.defaulted "literal_suffix" (readsBack_optionalText native.literalClosing) (by simp),
    holds.defaulted "nullability" native.nullability.readsBack (by simp),
    holds.defaulted "precision_supported" (Json.readsBack_bool native.takesPrecision) (by simp),
    holds.defaulted "scale_supported" (Json.readsBack_bool native.takesScale) (by simp)]
  rfl

namespace TypeMap

/-- The map that is made from a list is read back from the list that it has kept. It need not be the
same list: what was listed twice for a code is written once. -/
theorem readsBack_ofList (natives : List NativeType) :
    Json.ReadsBack ofJson? (ofList natives).toJson (ofList natives) := by
  intro json rearranged
  have found := Json.readsBack_list (fun native _ => NativeType.readsBack native) json rearranged
  rw [ofJson?, found, Option.map_some, ofList_entries]

end TypeMap

/-- How letters are folded is read back from its spelling. -/
theorem LetterCase.readsBack (letterCase : LetterCase) :
    Json.ReadsBack (Json.named? names) (.text letterCase.name) letterCase :=
  Json.readsBack_named (by cases letterCase <;> rfl)

/-- Rules for identifiers are read back from their record, with the reserved words in their order.
-/
theorem IdentifierRules.readsBack (rules : IdentifierRules) :
    Json.ReadsBack ofJson? rules.toJson rules := by
  refine Json.readsBack_record (by simp) fun found holds => ?_
  have readsLength : Json.ReadsBack (Json.optional? Json.uint64?)
      (.ofOption .ofUInt64 rules.maxLength) rules.maxLength :=
    Json.readsBack_optional Json.readsBack_uint64 nofun rules.maxLength
  simp only [Option.bind_eq_bind, Option.bind_some,
    holds.defaulted "max_length" readsLength (by simp),
    holds.defaulted "case" rules.letterCase.readsBack (by simp),
    holds.defaulted "extra_chars" (Json.readsBack_text rules.extraCharacters) (by simp),
    holds.defaulted "leading_prefix" (Json.readsBack_text rules.leading) (by simp),
    holds.defaulted "reserved_words" (readsBack_texts rules.reservedWords) (by simp),
    holds.defaulted "max_suffix" (Json.readsBack_uint32 rules.maxSuffix) (by simp),
    holds.defaulted "case_insensitive" (Json.readsBack_bool rules.caseInsensitive) (by simp),
    holds.defaulted "indexes_share_table_namespace"
      (Json.readsBack_bool rules.indexesShareTables) (by simp)]
  rfl

/-- The form in which a dialect drops an index is read back from its spelling. -/
theorem IndexDropForm.readsBack (form : IndexDropForm) :
    Json.ReadsBack (Json.named? names) (.text form.name) form :=
  Json.readsBack_named (by cases form <;> rfl)

/-- The templates of a dialect are read back from their record. Its members have different names,
and each is read by the name under which it was written. -/
theorem Templates.readsBack (templates : Templates) :
    Json.ReadsBack ofJson? templates.toJson templates := by
  refine Json.readsBack_record (by simp) fun found holds => ?_
  simp only [Option.bind_eq_bind, Option.bind_some,
    holds.defaulted "terminator" (Json.readsBack_text templates.terminator) (by simp),
    holds.defaulted "supports_add_constraint"
      (Json.readsBack_bool templates.addsConstraints) (by simp),
    holds.defaulted "supports_comments" (Json.readsBack_bool templates.hasComments) (by simp),
    holds.defaulted "supports_on_update" (Json.readsBack_bool templates.hasOnUpdate) (by simp),
    holds.defaulted "drop_index" templates.dropIndex.readsBack (by simp),
    holds.defaulted "drop_constraint_keyword"
      (Json.readsBack_text templates.dropConstraintKeyword) (by simp)]
  rfl

/-- A dialect whose type map is made up of native types is read back. The map is read as a list of
native types once more, and comes out the same, since it has one entry for each code. -/
theorem Dialect.readsBack (name : String) (natives : List NativeType)
    (identifiers : IdentifierRules) (templates : Templates) :
    Json.ReadsBack ofJson? (toJson ⟨name, .ofList natives, identifiers, templates⟩)
      ⟨name, .ofList natives, identifiers, templates⟩ := by
  refine Json.readsBack_record (by simp) fun found holds => ?_
  simp only [Option.bind_eq_bind, Option.bind_some,
    holds.required "name" (Json.readsBack_text name) (by simp),
    holds.required "types" (TypeMap.readsBack_ofList natives) (by simp),
    holds.defaulted "identifiers" identifiers.readsBack (by simp),
    holds.defaulted "templates" templates.readsBack (by simp)]
  rfl

/-! ## Models -/

/-- What happens to the rows of a child is read back from its spelling. -/
theorem ReferentialAction.readsBack (action : ReferentialAction) :
    Json.ReadsBack (Json.named? names) (.text action.name) action :=
  Json.readsBack_named (by cases action <;> rfl)

/-- A column is read back from its record. Sizes and remarks may be missing, and are null then. -/
theorem Column.readsBack (column : Column) : Json.ReadsBack ofJson? column.toJson column := by
  refine Json.readsBack_record (by simp) fun found holds => ?_
  simp only [Option.bind_eq_bind, Option.bind_some,
    holds.required "name" (Json.readsBack_text column.name) (by simp),
    holds.required "type_code" column.typeCode.readsBack (by simp),
    holds.defaulted "precision" (readsBack_optionalNumber column.precision) (by simp),
    holds.defaulted "scale" (readsBack_optionalNumber column.scale) (by simp),
    holds.defaulted "nullable" (Json.readsBack_bool column.nullable) (by simp),
    holds.defaulted "primary_key_seq" (readsBack_optionalNumber column.keyPosition) (by simp),
    holds.defaulted "default_value" (readsBack_optionalText column.defaultValue) (by simp),
    holds.defaulted "remarks" (readsBack_optionalText column.remarks) (by simp)]
  rfl

/-- An index is read back from its record, with its columns in their order. -/
theorem Index.readsBack (index : Index) : Json.ReadsBack ofJson? index.toJson index := by
  refine Json.readsBack_record (by simp) fun found holds => ?_
  simp only [Option.bind_eq_bind, Option.bind_some,
    holds.required "name" (Json.readsBack_text index.name) (by simp),
    holds.required "columns" (readsBack_texts index.columns) (by simp),
    holds.defaulted "unique" (Json.readsBack_bool index.unique) (by simp)]
  rfl

/-- A table is read back from its record, with its columns and its indexes each in their order. -/
theorem Table.readsBack (table : Table) : Json.ReadsBack ofJson? table.toJson table := by
  refine Json.readsBack_record (by simp) fun found holds => ?_
  have readsColumns := Json.readsBack_list fun column (_ : column ∈ table.columns) =>
    column.readsBack
  have readsIndexes := Json.readsBack_list fun index (_ : index ∈ table.indexes) => index.readsBack
  simp only [Option.bind_eq_bind, Option.bind_some,
    holds.required "name" (Json.readsBack_text table.name) (by simp),
    holds.defaulted "columns" readsColumns (by simp),
    holds.defaulted "primary_key_name" (readsBack_optionalText table.keyName) (by simp),
    holds.defaulted "indexes" readsIndexes (by simp),
    holds.defaulted "remarks" (readsBack_optionalText table.remarks) (by simp)]
  rfl

/-- A pair of a child's column and its parent's is read back from its record. -/
theorem ColumnPair.readsBack (mapping : ColumnPair) :
    Json.ReadsBack ofJson? mapping.toJson mapping := by
  refine Json.readsBack_record (by simp) fun found holds => ?_
  simp only [Option.bind_eq_bind, Option.bind_some,
    holds.required "pk_column" (Json.readsBack_text mapping.parentColumn) (by simp),
    holds.required "fk_column" (Json.readsBack_text mapping.childColumn) (by simp)]
  rfl

/-- A relationship is read back from its record, with its pairs of columns in their order. -/
theorem Relationship.readsBack (relationship : Relationship) :
    Json.ReadsBack ofJson? relationship.toJson relationship := by
  refine Json.readsBack_record (by simp) fun found holds => ?_
  have readsMappings := Json.readsBack_list fun mapping (_ : mapping ∈ relationship.mappings) =>
    mapping.readsBack
  simp only [Option.bind_eq_bind, Option.bind_some,
    holds.required "name" (Json.readsBack_text relationship.name) (by simp),
    holds.required "pk_table" (Json.readsBack_text relationship.parent) (by simp),
    holds.required "fk_table" (Json.readsBack_text relationship.child) (by simp),
    holds.required "mappings" readsMappings (by simp),
    holds.defaulted "on_delete" relationship.onDelete.readsBack (by simp),
    holds.defaulted "on_update" relationship.onUpdate.readsBack (by simp)]
  rfl

/-- A model is read back from its record, valid or not: reading does not ask what the tables are
about. -/
theorem Model.readsBack (model : Model) : Json.ReadsBack ofJson? model.toJson model := by
  refine Json.readsBack_record (by simp) fun found holds => ?_
  have readsTables := Json.readsBack_list fun table (_ : table ∈ model.tables) => table.readsBack
  have readsRelationships := Json.readsBack_list
    fun relationship (_ : relationship ∈ model.relationships) => relationship.readsBack
  simp only [Option.bind_eq_bind, Option.bind_some,
    holds.defaulted "name" (Json.readsBack_text model.name) (by simp),
    holds.defaulted "tables" readsTables (by simp),
    holds.defaulted "relationships" readsRelationships (by simp)]
  rfl

/-! ## Statements -/

/-- The kind of an object is read back from its spelling. -/
theorem ObjectKind.readsBack (kind : ObjectKind) :
    Json.ReadsBack (Json.named? names) (.text kind.name) kind :=
  Json.readsBack_named (by cases kind <;> rfl)

/-- An object is read back from its record. Its table and its schema are always written, if only as
null. -/
theorem DatabaseObject.readsBack (object : DatabaseObject) :
    Json.ReadsBack ofJson? object.toJson object := by
  refine Json.readsBack_record (by simp) fun found holds => ?_
  simp only [Option.bind_eq_bind, Option.bind_some,
    holds.required "kind" object.kind.readsBack (by simp),
    holds.required "name" (Json.readsBack_text object.name) (by simp),
    holds.nullable "table" (readsBack_optionalText object.table) (by simp),
    holds.nullable "schema" (readsBack_optionalText object.schema) (by simp)]
  rfl

/-- The kind of a statement is read back from its spelling. -/
theorem StatementKind.readsBack (kind : StatementKind) :
    Json.ReadsBack (Json.named? names) (.text kind.name) kind :=
  Json.readsBack_named (by cases kind <;> rfl)

/-- A statement is read back. Further objects that are not written are none. So the two ways of
writing one, with and without that member, are read by the same rule for a missing member. -/
theorem Statement.readsBack (statement : Statement) :
    Json.ReadsBack ofJson? statement.toJson statement := by
  obtain ⟨kind, subject, text, alsoCreates⟩ := statement
  have readsSubject := Json.readsBack_optional DatabaseObject.readsBack nofun subject
  have readsFurther := Json.readsBack_list fun object (_ : object ∈ alsoCreates) =>
    object.readsBack
  cases alsoCreates with
  | nil =>
    refine Json.readsBack_record (by simp) fun found holds => ?_
    simp only [Option.bind_eq_bind, Option.bind_some,
      holds.required "kind" kind.readsBack (by simp),
      holds.nullable "subject" readsSubject (by simp),
      holds.required "text" (Json.readsBack_text text) (by simp),
      holds.defaulted_of_unwritten "also_creates" (by simp)]
    rfl
  | cons object others =>
    refine Json.readsBack_record (by simp) fun found holds => ?_
    simp only [Option.bind_eq_bind, Option.bind_some,
      holds.required "kind" kind.readsBack (by simp),
      holds.nullable "subject" readsSubject (by simp),
      holds.required "text" (Json.readsBack_text text) (by simp),
      holds.defaulted "also_creates" readsFurther (by simp)]
    rfl

/-- Every dialect whose type map is made up of native types, every model and every statement is
read as the same again from what is written of it, and from that with the members of its objects
moved. -/
theorem Json.written_values_read_back :
    (∀ (name : String) (natives : List NativeType) (identifiers : IdentifierRules)
        (templates : Templates),
      let dialect : Dialect := ⟨name, .ofList natives, identifiers, templates⟩
      Dialect.ofJson? dialect.toJson = some dialect ∧
        ReadsBack Dialect.ofJson? dialect.toJson dialect) ∧
    (∀ model : Model, Model.ofJson? model.toJson = some model ∧
      ReadsBack Model.ofJson? model.toJson model) ∧
    ∀ statement : Statement, Statement.ofJson? statement.toJson = some statement ∧
      ReadsBack Statement.ofJson? statement.toJson statement := by
  refine ⟨fun name natives identifiers templates => ?_, fun model => ?_, fun statement => ?_⟩
  · have reads := Dialect.readsBack name natives identifiers templates
    exact ⟨reads _ (.refl _), reads⟩
  · exact ⟨model.readsBack _ (.refl _), model.readsBack⟩
  · exact ⟨statement.readsBack _ (.refl _), statement.readsBack⟩

/-- A comment has no further objects, and its text may stand first. -/
example : Statement.ofJson? (.object [("text", .text "-- T"), ("subject", .null),
    ("kind", .text "COMMENT")]) = some ⟨.comment, none, "-- T", []⟩ := by
  rfl

end SchemaForward
