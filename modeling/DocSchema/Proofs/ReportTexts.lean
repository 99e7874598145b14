import DocSchema.Bootstrap.Report
import DocSchema.Proofs.SchemaTexts

/-!
# DocSchema.Proofs.ReportTexts

Reports and the JSON documents they are printed as.

A reader that knows nothing of how reports are written finds everything but the times in the printed
document: it looks up the fields by name, tells declarations apart by their kind and actions by
their form (`Report.contentOf?`). What it finds is what the report says
(`Report.contentOf?_toJson`), so reports that say different things are printed as different texts
(`report_read_back`).
-/

namespace DocSchema

open Json (IsPlain Field)

/-! ## Fields of a document -/

namespace Json

variable {δ α : Type} {fields : List (Field δ)} {draft : δ} {key : String} {j : Json}
  {rest : List (String × Json)}

/-- A value in a document that passes its check is accepted. -/
theorem ofJson_checked {β ε : Type} {d : Decoder α} {check : α → Except ε β} {fault : ε → Fault}
    {a : α} {b : β} (hj : d.ofJson j = .ok a) (hcheck : check a = .ok b) :
    (d.checked check fault).ofJson j = .ok b := by
  simp only [Decoder.checked, hj, hcheck, bind, Except.bind, Except.mapError]

/-- An unknown field of a document is passed over. -/
theorem takeFields_of_unknown (hfield : fields.find? (fun f => f.name == key) = none) :
    takeFields fields draft ((key, j) :: rest) = takeFields fields draft rest := by
  simp only [takeFields, hfield]

/-- A known field of a document goes into the draft. -/
theorem takeFields_of_known {required : Bool} {d : Decoder α} {set : δ → α → δ} {a : α}
    (hfield : fields.find? (fun f => f.name == key) = some (.of key required d set))
    (hj : d.ofJson j = .ok a) :
    takeFields fields draft ((key, j) :: rest) = takeFields fields (set draft a) rest := by
  simp only [takeFields, hfield, Field.of, Decoder.map, hj, bind, Except.bind]

/-- An object with fields stands between its braces. -/
theorem exists_indented_object (f : String × Json) (fs : List (String × Json)) :
    ∃ inner, (Json.object (f :: fs)).indented = "\x7b" ++ inner ++ "\x7d" := by
  refine ⟨.ofList (indentedFields 1 true (f :: fs) ++ newline 0), String.toList_inj.1 ?_⟩
  simp only [indented, indentedChars, String.toList_append, String.toList_ofList]
  rfl

end Json

/-! ## Declarations -/

theorem CollectionName.ofJson_text (c : CollectionName) :
    decoder.ofJson (.string c.text) = .ok c :=
  Json.ofJson_checked rfl (ofText_text c)

theorem FieldName.ofJson_text (f : FieldName) : decoder.ofJson (.string f.text) = .ok f :=
  Json.ofJson_checked rfl (ofText_text f)

/-- A declared index is found among its fields, whatever unknown field stands before them. -/
theorem IndexSpec.ofJson_tagged (s : IndexSpec) {tag : String} {j : Json}
    (htag : shape.fields.find? (fun f => f.name == tag) = none) :
    ofJson (.object ((tag, j) :: s.jsonFields)) = .ok s := by
  obtain ⟨convention, hwritten, -, hconvention, -⟩ := s.exists_jsonFields
  have hfields : Json.takeFields shape.fields shape.blank ((tag, j) :: s.jsonFields) =
      .ok ⟨some s.collection, some s.field, s.unique, s.activeOnly⟩ := by
    rw [hwritten]
    exact (Json.takeFields_of_unknown htag).trans <|
      (Json.takeFields_of_known rfl s.collection.ofJson_text).trans <|
      (Json.takeFields_of_known rfl s.field.ofJson_text).trans <|
      (Json.takeFields_of_known rfl rfl).trans <|
      (Json.takeFields_of_known rfl hconvention).trans rfl
  rw [ofJson, Json.Shape.ofJson, hfields]
  rfl

/-- The declaration in a document, by its kind. -/
def Declaration.ofJson? (j : Json) : Option Declaration :=
  match j.field? "kind" with
  | some (.string kind) =>
    if kind = "collection" then
      (j.field? "name").bind fun name =>
        (CollectionName.decoder.ofJson name).toOption.map Declaration.collection
    else if kind = "index" then (IndexSpec.ofJson j).toOption.map Declaration.index
    else none
  | _ => none

theorem Declaration.ofJson?_declarationJson (d : Declaration) :
    ofJson? (Report.declarationJson d) = some d := by
  cases d with
  | collection name =>
      have hkind : (Report.declarationJson (.collection name)).field? "kind" =
          some (.string "collection") := rfl
      have hname : (Report.declarationJson (.collection name)).field? "name" =
          some (.string name.text) := rfl
      simp only [ofJson?, hkind, hname, if_true, Option.bind_some, name.ofJson_text,
        Except.toOption, Option.map_some]
  | index spec =>
      have hkind : (Report.declarationJson (.index spec)).field? "kind" =
          some (.string "index") := rfl
      have hspec : IndexSpec.ofJson (Report.declarationJson (.index spec)) = .ok spec :=
        spec.ofJson_tagged rfl
      have hother : ("index" : String) ≠ "collection" := by decide
      simp only [ofJson?, hkind, if_neg hother, if_true, hspec, Except.toOption, Option.map_some]

/-! ## Actions and outcomes -/

/-- The action in a document: a word, or an object with the text of the conflict. -/
def Action.ofJson? : Json → Option Action
  | .string word =>
    if word = "created" then some .created
    else if word = "unchanged" then some .unchanged
    else if word = "would_create" then some .wouldCreate
    else none
  | .object [(key, .string text)] => if key = "conflict" then some (.conflict text) else none
  | _ => none

theorem Action.ofJson?_actionJson (a : Action) : ofJson? (Report.actionJson a) = some a := by
  cases a <;> rfl

/-- The outcome in a document. -/
def Outcome.ofJson? (j : Json) : Option Outcome := do
  let declaration ← (j.field? "declaration").bind Declaration.ofJson?
  let action ← (j.field? "action").bind Action.ofJson?
  some ⟨declaration, action⟩

namespace Report

/-- An outcome as it stands in a report. -/
def outcomeJson (o : Outcome) : Json :=
  .object [("declaration", declarationJson o.declaration), ("action", actionJson o.action)]

theorem ofJson?_outcomeJson (o : Outcome) : Outcome.ofJson? (outcomeJson o) = some o := by
  have hdeclaration : (outcomeJson o).field? "declaration" =
      some (declarationJson o.declaration) := rfl
  have haction : (outcomeJson o).field? "action" = some (actionJson o.action) := rfl
  simp only [Outcome.ofJson?, hdeclaration, haction, Option.bind_some,
    Declaration.ofJson?_declarationJson, Action.ofJson?_actionJson, bind]

/-! ## Reports -/

/-- What a report says besides its times. -/
structure Content where
  database : String
  dryRun : Bool
  outcomes : List Outcome
deriving DecidableEq

/-- The content of a report. -/
def content (r : Report) : Content := ⟨r.database, r.dryRun, r.outcomes⟩

/-- The content of the report in a document. -/
def contentOf? (j : Json) : Option Content :=
  match j.field? "database", j.field? "dry_run", j.field? "outcomes" with
  | some (.string database), some (.bool dryRun), some (.array outcomes) => do
    let outcomes ← outcomes.mapM Outcome.ofJson?
    some ⟨database, dryRun, outcomes⟩
  | _, _, _ => none

theorem mapM_outcomeJson (os : List Outcome) :
    (os.map outcomeJson).mapM Outcome.ofJson? = some os := by
  induction os with
  | nil => rfl
  | cons o os ih =>
      rw [List.map_cons, List.mapM_cons, ofJson?_outcomeJson, ih]
      rfl

/-- The document of a report says what the report says. -/
theorem contentOf?_toJson (r : Report) : contentOf? r.toJson = some r.content := by
  have hdatabase : r.toJson.field? "database" = some (.string r.database) := rfl
  have hdryRun : r.toJson.field? "dry_run" = some (.bool r.dryRun) := rfl
  have houtcomes : r.toJson.field? "outcomes" = some (.array (r.outcomes.map outcomeJson)) := rfl
  simp only [contentOf?, hdatabase, hdryRun, houtcomes, mapM_outcomeJson, bind, Option.bind_some]
  rfl

/-! ## Printed reports -/

theorem isPlain_declarationJson (d : Declaration) : IsPlain (declarationJson d) := by
  cases d with
  | collection name =>
      have hnames : ["kind", "name"].Nodup := by decide
      exact ⟨hnames, trivial, trivial, trivial⟩
  | index spec =>
      have hnames : ["kind", "collection", "field", "unique", "partial_filter"].Nodup := by decide
      exact ⟨hnames, trivial, spec.isPlain_toJson.2⟩

theorem isPlain_actionJson (a : Action) : IsPlain (actionJson a) := by
  cases a with
  | conflict text => exact ⟨List.nodup_singleton "conflict", trivial, trivial⟩
  | _ => exact trivial

theorem isPlain_toJson (r : Report) : IsPlain r.toJson := by
  have hnames : ["database", "dry_run", "started_at", "finished_at", "outcomes"].Nodup := by decide
  have houtcomeNames : ["declaration", "action"].Nodup := by decide
  refine ⟨hnames, trivial, trivial, trivial, trivial, ?_, trivial⟩
  exact Json.itemsArePlain_map fun o _ =>
    ⟨houtcomeNames, isPlain_declarationJson o.declaration, isPlain_actionJson o.action, trivial⟩

theorem out_print_json (r : Report) : (r.print true).out = r.toJson.indented ++ "\n" := by
  unfold print
  cases r.dryRun <;> rfl

theorem err_print_json (r : Report) :
    (r.print true).err = if r.dryRun then "" else confirmation ++ "\n" := by
  unfold print
  cases r.dryRun <;> rfl

/-- The document that is printed can be read from the output. -/
theorem ofText_out_print (r : Report) : Json.ofText (r.print true).out = .ok r.toJson := by
  rw [out_print_json]
  exact Json.ofText_of_tokens r.isPlain_toJson
    (Json.tokens_indented_append_newline r.isPlain_toJson)

/-- A report is printed as one JSON object and the end of its line. The object says what the report
says, so reports that say different things are printed differently. The error stream has the
confirmation of a completed run and nothing else. -/
theorem report_read_back (r : Report) :
    ∃ inner document,
      (r.print true).out = "\x7b" ++ inner ++ "\x7d" ++ "\n" ∧
      Json.ofText ("\x7b" ++ inner ++ "\x7d") = .ok document ∧
      Json.ofText (r.print true).out = .ok document ∧
      contentOf? document = some ⟨r.database, r.dryRun, r.outcomes⟩ ∧
      (r.print true).err = (if r.dryRun then "" else confirmation ++ "\n") ∧
      ∀ r' : Report, r'.content ≠ r.content → (r'.print true).out ≠ (r.print true).out := by
  obtain ⟨inner, hinner⟩ : ∃ inner, r.toJson.indented = "\x7b" ++ inner ++ "\x7d" :=
    Json.exists_indented_object _ _
  have hout := r.out_print_json
  have htext := Json.ofText_of_tokens r.isPlain_toJson (Json.tokens_indented r.isPlain_toJson)
  rw [hinner] at hout htext
  refine ⟨inner, r.toJson, hout, htext, r.ofText_out_print, r.contentOf?_toJson, r.err_print_json,
    fun r' hdiffer hsame => hdiffer ?_⟩
  have hdocuments : Except.ok r'.toJson = (Except.ok r.toJson : Except Json.Fault Json) := by
    rw [← r'.ofText_out_print, hsame, r.ofText_out_print]
  have hcontents : some r'.content = some r.content := by
    rw [← contentOf?_toJson, Except.ok.inj hdocuments, contentOf?_toJson]
  exact Option.some.inj hcontents

/-- A plan with an index that another one blocks, as this text says. -/
def blockedPlan (text : String) : Report where
  database := "a\"b"
  dryRun := true
  startedAt := 0
  finishedAt := 1
  outcomes := [
    ⟨.collection ⟨"parcels", by decide⟩, .unchanged⟩,
    ⟨.index ⟨⟨"parcels", by decide⟩, ⟨"sender", by decide⟩, true, some .null⟩, .conflict text⟩]

/-- A conflict whose text closes the braces of the document is told from one without a text, and
neither plan is confirmed. -/
theorem report_read_back_blockedPlan :
    (blockedPlan "\"\x7d]\x7d\n").content ≠ (blockedPlan "").content ∧
      ((blockedPlan "\"\x7d]\x7d\n").print true).out ≠ ((blockedPlan "").print true).out ∧
      ((blockedPlan "").print true).err = "" := by
  have hcontent : (blockedPlan "\"\x7d]\x7d\n").content ≠ (blockedPlan "").content := by decide
  obtain ⟨-, -, -, -, -, -, herr, hdiffer⟩ := report_read_back (blockedPlan "")
  exact ⟨hcontent, hdiffer _ hcontent, herr⟩

end Report

end DocSchema
