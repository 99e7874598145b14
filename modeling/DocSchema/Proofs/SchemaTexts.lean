import DocSchema.Proofs.JsonReading
import DocSchema.Schema.Error

/-!
# DocSchema.Proofs.SchemaTexts

Schemas and the texts they are written as.

Every field of a written schema is read by the decoder of its kind: names pass their check again,
and an index without a convention is written with the word null, which is not the string that
stands for the convention `null`. So the compact text of a schema is read as this schema, whatever
its strings hold (`Schema.ofJsonText_compact`), and loading the text comes down to checking the
schema (`schema_text_round_trip`).
-/

namespace DocSchema

open Json (Reads Fills IsPlain)

/-! ## Names and conventions -/

theorem CollectionName.reads (c : CollectionName) : Reads decoder.read (.string c.text) c :=
  (Json.reads_text c.text).checked (ofText_text c)

theorem FieldName.reads (f : FieldName) : Reads decoder.read (.string f.text) f :=
  (Json.reads_text f.text).checked (ofText_text f)

theorem SoftDelete.reads (convention : SoftDelete) :
    Reads decoder.read (.string convention.text) convention := by
  intro ts
  cases convention <;> rfl

/-! ## Indexes -/

namespace IndexSpec

/-- The fields of a written index, where the convention is null or a string, and is read as such. -/
theorem exists_jsonFields (s : IndexSpec) : ∃ convention : Json,
    s.jsonFields = [("collection", .string s.collection.text), ("field", .string s.field.text),
      ("unique", .bool s.unique), ("partial_filter", convention)] ∧
    Reads SoftDelete.decoder.option.read convention s.activeOnly ∧
    SoftDelete.decoder.option.ofJson convention = .ok s.activeOnly ∧ IsPlain convention := by
  unfold jsonFields
  cases s.activeOnly with
  | none => exact ⟨.null, rfl, Json.reads_none SoftDelete.decoder, rfl, trivial⟩
  | some convention =>
      refine ⟨.string convention.text, rfl, convention.reads.option, ?_, trivial⟩
      cases convention <;> rfl

theorem reads (s : IndexSpec) : Reads shape.read s.toJson s := by
  obtain ⟨convention, hwritten, hconvention, -, -⟩ := s.exists_jsonFields
  have hfields : Fills shape.fields [] shape.blank s.jsonFields
      ⟨some s.collection, some s.field, s.unique, s.activeOnly⟩ := by
    rw [hwritten]
    exact .value rfl rfl s.collection.reads <| .value rfl rfl s.field.reads <|
      .value rfl rfl (Json.reads_bool s.unique) <| .value rfl rfl hconvention <| .nil _ _
  exact .record hfields rfl

theorem isPlain_toJson (s : IndexSpec) : IsPlain s.toJson := by
  obtain ⟨convention, hwritten, -, -, hplain⟩ := s.exists_jsonFields
  have hnames : ["collection", "field", "unique", "partial_filter"].Nodup := by decide
  rw [toJson, hwritten]
  exact ⟨hnames, trivial, trivial, trivial, hplain, trivial⟩

end IndexSpec

/-! ## Schemas -/

namespace Schema

theorem reads_collection (c : CollectionName) :
    Reads collectionShape.read (.object [("name", .string c.text)]) c :=
  .record (.value rfl rfl c.reads (.nil _ _)) rfl

theorem reads (s : Schema) : Reads shape.read s.toJson s := by
  have hcollections : Reads collectionShape.decoder.list.read
      (.array (s.collections.map fun c => .object [("name", .string c.text)])) s.collections :=
    .list_map fun c _ => reads_collection c
  have hindexes : Reads IndexSpec.shape.decoder.list.read
      (.array (s.indexes.map IndexSpec.toJson)) s.indexes :=
    .list_map fun i _ => i.reads
  have hfields : Fills shape.fields [] shape.blank
      [("database", .string s.database),
       ("collections", .array (s.collections.map fun c => .object [("name", .string c.text)])),
       ("indexes", .array (s.indexes.map IndexSpec.toJson))]
      ⟨some s.database, s.collections, s.indexes⟩ :=
    .value rfl rfl (Json.reads_text s.database) <| .value rfl rfl hcollections <|
      .value rfl rfl hindexes <| .nil _ _
  exact .record hfields rfl

theorem isPlain_toJson (s : Schema) : IsPlain s.toJson := by
  have hnames : ["database", "collections", "indexes"].Nodup := by decide
  refine ⟨hnames, trivial, ?_, ?_, trivial⟩
  · exact Json.itemsArePlain_map fun c _ => ⟨List.nodup_singleton "name", trivial, trivial⟩
  · exact Json.itemsArePlain_map fun i _ => i.isPlain_toJson

/-- The compact text of a schema is read as this schema. -/
theorem ofJsonText_compact (s : Schema) : ofJsonText s.toJson.compact = .ok s :=
  s.reads.whole (Json.tokens_compact s.isPlain_toJson)

/-- The compact text of a schema loads when the schema is consistent. -/
theorem load_compact (s : Schema) : load s.toJson.compact = s.validate.map fun _ => s := by
  simp only [load, ofJsonText_compact]
  cases s.validate <;> rfl

/-- A schema is read back from its compact text, and this text loads just when the schema is
consistent, with the schema's own fault otherwise. Whatever text is read as a schema, its names
are accepted ones. -/
theorem schema_text_round_trip (s : Schema) :
    ofJsonText s.toJson.compact = .ok s ∧
      (load s.toJson.compact = .ok s ↔ s.validate = .ok ()) ∧
      (∀ e, load s.toJson.compact = .error e ↔ s.validate = .error e) ∧
      ∀ text t, ofJsonText text = .ok t →
        (∀ c ∈ t.collections, collectionNameFault? c.text = none) ∧
          ∀ i ∈ t.indexes, collectionNameFault? i.collection.text = none ∧
            fieldNameFault? i.field.text = none := by
  refine ⟨s.ofJsonText_compact, ?_, fun e => ?_, fun text t _ => ?_⟩
  · rw [load_compact]
    cases s.validate <;> simp [Except.map]
  · rw [load_compact]
    cases s.validate <;> simp [Except.map]
  · exact ⟨fun c _ => c.accepted, fun i _ => ⟨i.collection.accepted, i.field.accepted⟩⟩

/-- A database and names of characters that need an escape, with two indexes on one field: one
restricted by the convention `null` and one not restricted. -/
def awkward : Schema where
  database := "\"\\\n\x01\x7f😀"
  collections := [⟨"a\"b", by decide⟩]
  indexes := [
    ⟨⟨"a\"b", by decide⟩, ⟨"\\.\t", by decide⟩, true, some .null⟩,
    ⟨⟨"a\"b", by decide⟩, ⟨"\\.\t", by decide⟩, false, none⟩]

/-- A schema whose text below has its fields in another order, an escape, a field of no schema and a
collection that is written as a list. -/
def scattered : Schema where
  database := ""
  collections := [⟨"c", by decide⟩]
  indexes := [⟨⟨"c", by decide⟩, ⟨"a.b", by decide⟩, false, none⟩]

def scatteredText : String :=
  "\x7b\"indexes\": [\x7b\"unique\":false, \"field\":\"a.\\u0062\",\"note\":[null]," ++
    "\"collection\":\"c\"\x7d],\n \"database\":\"\",\"collections\":[[\"c\"]]\x7d"

/-- The awkward schema is read back and refused for its second index, and the scattered text is read
as a schema of accepted names. -/
theorem schema_text_round_trip_awkward :
    ofJsonText awkward.toJson.compact = .ok awkward ∧
      load awkward.toJson.compact = .error (.duplicateIndex "a\"b" "\\.\t_1") ∧
      ofJsonText scatteredText = .ok scattered ∧
      ∀ i ∈ scattered.indexes, collectionNameFault? i.collection.text = none ∧
        fieldNameFault? i.field.text = none := by
  obtain ⟨hread, -, hload, hnames⟩ := schema_text_round_trip awkward
  have hfault : awkward.validate = .error (.duplicateIndex "a\"b" "\\.\t_1") := by decide
  have htext : ofJsonText scatteredText = .ok scattered := by decide +kernel
  exact ⟨hread, (hload _).2 hfault, htext, (hnames scatteredText scattered htext).2⟩

end Schema

end DocSchema
