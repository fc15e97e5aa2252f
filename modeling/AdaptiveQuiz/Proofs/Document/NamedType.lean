import AdaptiveQuiz.Catalog.Routing
import AdaptiveQuiz.Proofs.Document.Acceptance
import AdaptiveQuiz.Proofs.Document.Review
import AdaptiveQuiz.Proofs.Document.SingleChoice

/-!
# Questions that name their type

Some fields of a question say of which type it is. To the documents of this type they should mean
nothing, and nearly do: the schemas of multi-stage documents name none of them, but a review warns of
the field `type`, and to single choice questions this field is one of their own, in which few of the
names of the type can be read.

## Main definitions

* `Routing.unnamed`: a question without the fields that may name its type
* `Verdict.SameBut`, `Verdict.Misread`: how two verdicts on the same question may differ
* `Document.ReadsType`: the field `type` can be read by a document of the kind

## Main statements

* `unknownFieldRemarks_unnamed`: which remarks on unknown fields are about naming the type
* `Document.review_unnamed`: where `type` can be read, it makes a difference of one warning
* `Document.review_of_misread`: where it cannot, there is one critical remark more
-/

namespace AdaptiveQuiz

open Schema

namespace Routing

variable {fields : Fields} {known : List String} {name : String}

/-! ## Fields that name a type -/

/-- The fields that may say of which type a question is. -/
def namingFields : List String := "type" :: routingFields

/-- A question without the fields that may name its type. -/
def unnamed (fields : Fields) : Fields := fields.filter fun field => !namingFields.contains field.1

/-- These fields are gone, and the others are still there. -/
theorem get?_unnamed : Fields.get? (unnamed fields) name
    = if name ∈ namingFields then none else Fields.get? fields name := by
  rw [unnamed, get?_filter fun key => !namingFields.contains key]
  by_cases hnaming : name ∈ namingFields <;> simp [hnaming]

theorem required_unnamed {α : Type} (schema : Schema α) (hname : name ∉ namingFields) :
    required (unnamed fields) name schema = required fields name schema :=
  required_congr (by rw [get?_unnamed, if_neg hname]) schema

theorem optional_unnamed {α : Type} (schema : Schema α) (default : α)
    (hname : name ∉ namingFields) :
    Schema.optional (unnamed fields) name schema default
      = Schema.optional fields name schema default :=
  optional_congr (by rw [get?_unnamed, if_neg hname]) schema default

end Routing

open Routing

variable {fields : Fields} {known : List String}

/-! ## Remarks -/

namespace Remark

/-- The warning that the field `type` is not read. -/
def ignoredType : Remark := ⟨"type", "Unknown field is ignored", .warning⟩

/-- The remark that a name of the type cannot be read. -/
def misreadType : Remark :=
  ⟨"type", "Input should be 'multiple_choice' or 'MULTIPLE_CHOICE'", .critical⟩

/-- The remark is on the stages of a document. -/
def InStages (remark : Remark) : Prop := "stages.".toList <+: remark.location.toList

theorem InStages.ne_ignoredType {remark : Remark} (h : remark.InStages) : remark ≠ ignoredType := by
  rintro rfl
  revert h
  unfold InStages
  decide

theorem inStages_append (place message : String) (severity : Severity) :
    InStages ⟨"stages." ++ place, message, severity⟩ := by
  rw [InStages, String.toList_append]
  exact List.prefix_append _ _

/-- Issues are more serious than warnings. -/
theorem ofIssue_ne_ignoredType (issue : Issue) : ofIssue issue ≠ ignoredType := by
  intro heq
  cases congrArg severity heq

end Remark

open Remark

/-- Of the fields that may name a type, unknown ones are passed over but for `type`. -/
theorem unknownFieldRemarks_unnamed : unknownFieldRemarks known (unnamed fields)
    = (unknownFieldRemarks known fields).filter (· ≠ ignoredType) := by
  unfold unknownFieldRemarks unnamed
  rw [List.filterMap_map, List.filterMap_map, List.filterMap_filter, List.filter_filterMap]
  congr 1
  funext field
  -- a field has a remark if it is neither known nor for routing, and one of these is left out
  by_cases hknown : field.1 ∈ known
  · simp [hknown]
  by_cases hrouting : field.1 ∈ routingFields
  · simp [hrouting]
  by_cases htype : field.1 = "type"
  · rw [htype] at hknown hrouting
    simp [hknown, hrouting, namingFields, ignoredType, htype, Option.filter]
  · simp [hknown, hrouting, namingFields, ignoredType, htype, Option.filter]

theorem Fields.get?_isSome {name : String} :
    (Fields.get? fields name).isSome = true ↔ name ∈ fields.map Prod.fst := by
  induction fields with
  | nil => simp [Fields.get?]
  | cons field rest ih =>
    unfold Fields.get? at ih ⊢
    rw [List.lookup_cons, List.map_cons, List.mem_cons, ← ih]
    split
    · next hname => simp [beq_iff_eq.mp hname]
    · next hname => simp [beq_eq_false_iff_ne.mp hname]

theorem ignoredType_mem_unknownFieldRemarks : ignoredType ∈ unknownFieldRemarks known fields
    ↔ "type" ∉ known ∧ (Fields.get? fields "type").isSome = true := by
  rw [Fields.get?_isSome, unknownFieldRemarks, List.mem_filterMap]
  constructor
  · rintro ⟨name, hname, hremark⟩
    split at hremark
    · cases hremark
    · next hunknown =>
      cases hremark
      exact ⟨fun hknown => hunknown (by simp [hknown]), hname⟩
  · rintro ⟨hunknown, hname⟩
    refine ⟨"type", hname, ?_⟩
    rw [if_neg (by simpa [hunknown] using by decide)]
    rfl

theorem inStages_feedbackRemarks {place : String} {index : Nat} {options : List StageOption} :
    ∀ remark ∈ feedbackRemarks ("stages." ++ place) index options, InStages remark := by
  induction options generalizing index with
  | nil => nofun
  | cons option rest ih =>
    intro remark hremark
    rcases List.mem_append.mp hremark with hfirst | hrest
    · split at hfirst
      · obtain rfl := List.mem_singleton.mp hfirst
        simp only [String.append_assoc]
        exact inStages_append ..
      · cases hfirst
    · exact ih remark hrest

theorem inStages_stageRemarks {index : Nat} {stage : Stage} :
    ∀ remark ∈ stageRemarks index stage, InStages remark := by
  intro remark hremark
  simp only [stageRemarks, String.append_assoc, List.mem_append] at hremark
  rcases hremark with (hcorrect | hkey) | hfeedback
  · unfold correctnessRemarks at hcorrect
    split at hcorrect
    · cases hcorrect
    · obtain rfl := List.mem_singleton.mp hcorrect
      exact inStages_append ..
  · unfold answerKeyRemarks at hkey
    split at hkey
    · cases hkey
    · split at hkey
      · cases hkey
      · obtain rfl := List.mem_singleton.mp hkey
        exact inStages_append ..
  · exact inStages_feedbackRemarks remark hfeedback

theorem inStages_stagesRemarks {index : Nat} {stages : List Stage} :
    ∀ remark ∈ stagesRemarks index stages, InStages remark := by
  induction stages generalizing index with
  | nil => nofun
  | cons stage rest ih =>
    intro remark hremark
    rcases List.mem_append.mp hremark with hfirst | hrest
    · exact inStages_stageRemarks remark hfirst
    · exact ih remark hrest

/-! ## Where the type can be read -/

/-- Two verdicts on the same question, one of which knows the fields that may name its type: the
documents are the same but for a field of their own, and so are the remarks but for a warning. -/
structure Verdict.SameBut {α : Type} (f : α → α) (isIgnored : Prop) (named plain : Verdict α) :
    Prop where
  document_eq : plain.document = named.document.map f
  remarks_eq : plain.remarks = named.remarks.filter (· ≠ ignoredType)
  ignoredType_mem : ignoredType ∈ named.remarks ↔ isIgnored ∧ named.document.isSome = true

theorem Verdict.SameBut.map {α β : Type} {f : α → α} {f' : β → β} {isIgnored isIgnored' : Prop}
    {named plain : Verdict α} (h : Verdict.SameBut f isIgnored named plain) (g : α → β)
    (hg : ∀ a, g (f a) = f' (g a)) (hignored : isIgnored ↔ isIgnored') :
    Verdict.SameBut f' isIgnored' (named.map g) (plain.map g) where
  document_eq := by
    show plain.document.map g = (named.document.map g).map f'
    rw [h.document_eq, Option.map_map, Option.map_map]
    exact congrArg (Option.map · named.document) (funext hg)
  remarks_eq := h.remarks_eq
  ignoredType_mem := h.ignoredType_mem.trans (and_congr hignored (by simp [Verdict.map]))

/-- Two verdicts on the same question, one of which knows a name of its type that cannot be read. It
has no document, and a remark on the type stands among the other critical ones. What is said of the
question as a whole once all fields fit, it does not say. -/
structure Verdict.Misread {α : Type} (named plain : Verdict α) : Prop where
  document_eq : named.document = none
  remarks_eq : ∃ before after, named.remarks = before ++ misreadType :: after
    ∧ (plain.critical = before ++ after
      ∨ before = [] ∧ after = [] ∧ ∃ message, plain.critical = [⟨"$", message, .critical⟩])

theorem reviewWith_unnamed {α : Type} {schema : Schema α} {remarks : α → List Remark} {f : α → α}
    (hschema : schema (.object (unnamed fields)) = f <$> schema (.object fields))
    (hremarks : ∀ a, remarks (f a) = remarks a)
    (hplaces : ∀ a, ∀ remark ∈ remarks a, InStages remark) :
    Verdict.SameBut f ("type" ∉ known ∧ (Fields.get? fields "type").isSome = true)
      (reviewWith schema known remarks (.object fields))
      (reviewWith schema known remarks (.object (unnamed fields))) := by
  cases hnamed : schema (.object fields) with
  | accepted a =>
    rw [hnamed, Checked.map_accepted] at hschema
    rw [reviewWith_of_accepted hnamed, reviewWith_of_accepted hschema]
    -- the remarks on what the document says are about its stages, so none of them is left out
    have hown : ignoredType ∉ remarks a := fun hmem => (hplaces a _ hmem).ne_ignoredType rfl
    have hkept : (remarks a).filter (· ≠ ignoredType) = remarks a :=
      List.filter_eq_self.mpr fun remark hremark => by
        simpa using (hplaces a remark hremark).ne_ignoredType
    refine ⟨rfl, ?_, ?_⟩
    · rw [List.filter_append, hkept, hremarks, unknownFieldRemarks_unnamed]
    · simp [hown, ignoredType_mem_unknownFieldRemarks]
  | rejected first others =>
    rw [hnamed, Checked.map_rejected] at hschema
    rw [reviewWith_of_rejected hnamed, reviewWith_of_rejected hschema]
    refine ⟨rfl, ?_, ?_⟩
    · refine (List.filter_eq_self.mpr fun remark hremark => ?_).symm
      obtain ⟨issue, -, rfl⟩ := List.mem_map.mp hremark
      simpa using ofIssue_ne_ignoredType issue
    · simp [ofIssue_ne_ignoredType, Ne.symm (ofIssue_ne_ignoredType _)]

/-! ## Multi-stage documents -/

theorem BranchingDocument.review_unnamed :
    Verdict.SameBut id ("type" ∉ fieldNames ∧ (Fields.get? fields "type").isSome = true)
      (BranchingDocument.review (.object fields))
      (BranchingDocument.review (.object (unnamed fields))) := by
  have hschema : schema (.object (unnamed fields)) = schema (.object fields) := by
    simp (disch := decide) only [schema, record, optionalNullable, required_unnamed,
      optional_unnamed]
  refine reviewWith_unnamed ?_ (fun _ => rfl) fun _ => inStages_stagesRemarks
  rw [hschema, Checked.map_id]

theorem DeclarativeDocument.review_unnamed :
    Verdict.SameBut id ("type" ∉ fieldNames ∧ (Fields.get? fields "type").isSome = true)
      (DeclarativeDocument.review (.object fields))
      (DeclarativeDocument.review (.object (unnamed fields))) := by
  have hschema : schema (.object (unnamed fields)) = schema (.object fields) := by
    simp (disch := decide) only [schema, record, optionalNullable, required_unnamed,
      optional_unnamed]
  refine reviewWith_unnamed ?_ (fun _ => rfl) fun _ => inStages_stagesRemarks
  rw [hschema, Checked.map_id]

/-! ## Single choice questions -/

namespace MultipleChoiceDocument

/-- The document without its type. -/
def untyped (document : MultipleChoiceDocument) : MultipleChoiceDocument :=
  { document with type := none }

/-- The field `type` is absent or null, or spelt in one of the two ways that are read. -/
def ReadsType (fields : Fields) : Prop :=
  ∀ value, Fields.get? fields "type" = some value →
    value = .null ∨ ∃ spelling : TypeSpelling, value = .text spelling.word

/-- What is read in the field `type`. -/
def typeOf (fields : Fields) : Checked (Option TypeSpelling) :=
  optionalNullable fields "type" (oneOf TypeSpelling.all TypeSpelling.word)

/-- The document with whatever was read as its type, before its ids are compared. -/
def withType (type : Checked (Option TypeSpelling)) (fields : Fields) :
    Checked MultipleChoiceDocument :=
  MultipleChoiceDocument.mk <$> optionalNullable fields "id" anyText <*> type
    <*> required fields "prompt" (fun v => anyText (flattenPrompt v))
    <*> required fields "options" (listOfAtLeast 2 Choice.schema)
    <*> required fields "correct_option_id" anyText
    <*> optionalNullable fields "explanation" anyText
    <*> Schema.optional fields "metadata" dictionary []

theorem schema_eq_withType :
    schema (.object fields) = (withType (typeOf fields) fields).ensure idFault? := rfl

theorem schema_unnamed :
    schema (.object (unnamed fields)) = (withType (.accepted none) fields).ensure idFault? := by
  have htype : typeOf (unnamed fields) = .accepted none := by
    rw [typeOf, optionalNullable, Schema.optional, get?_unnamed, if_pos (by decide)]
  rw [schema_eq_withType, htype]
  simp (disch := decide) only [withType, optionalNullable, required_unnamed, optional_unnamed]

theorem untyped_withType (type : Option TypeSpelling) :
    untyped <$> withType (.accepted type) fields = withType (.accepted none) fields := by
  -- the change is brought forward to where the type was put in
  simp only [withType, Checked.map_seq]
  cases optionalNullable fields "id" anyText with
  | accepted id => rfl
  | rejected first others => rfl

/-- The issues of the type stand among those of the other fields. -/
theorem issues_withType (fields : Fields) : ∃ before after, ∀ type,
    (withType type fields).issues = before ++ type.issues ++ after := by
  simp only [withType, Checked.issues_seq, Checked.issues_map, List.append_assoc]
  exact ⟨_, _, fun _ => rfl⟩

theorem review_unnamed {type : Option TypeSpelling} (htype : typeOf fields = .accepted type) :
    Verdict.SameBut untyped ("type" ∉ fieldNames ∧ (Fields.get? fields "type").isSome = true)
      (MultipleChoiceDocument.review (.object fields))
      (MultipleChoiceDocument.review (.object (unnamed fields))) := by
  refine reviewWith_unnamed ?_ (fun _ => rfl) fun _ => nofun
  rw [schema_unnamed, schema_eq_withType, htype, ← untyped_withType type]
  exact (Checked.map_ensure (fun _ => rfl) _).symm

/-- The critical remarks are the issues. -/
theorem critical_review : (MultipleChoiceDocument.review (.object fields)).critical
    = (schema (.object fields)).issues.map Remark.ofIssue := by
  unfold MultipleChoiceDocument.review
  cases hschema : schema (.object fields) with
  | accepted document =>
    rw [reviewWith_of_accepted hschema, List.append_nil]
    refine List.filter_eq_nil_iff.mpr fun remark hremark => ?_
    obtain ⟨name, -, hname⟩ := List.mem_filterMap.mp hremark
    split at hname <;> cases hname
    exact Bool.false_ne_true
  | rejected first others =>
    rw [reviewWith_of_rejected hschema]
    refine List.filter_eq_self.mpr fun remark hremark => ?_
    obtain ⟨issue, -, rfl⟩ := List.mem_map.mp hremark
    rfl

theorem typeOf_of_readsType (h : ReadsType fields) : ∃ type, typeOf fields = .accepted type := by
  unfold typeOf optionalNullable Schema.optional
  cases hget : Fields.get? fields "type" with
  | none => exact ⟨none, rfl⟩
  | some value =>
    rcases h value hget with rfl | ⟨spelling, rfl⟩
    · exact ⟨none, rfl⟩
    · cases spelling <;> exact ⟨_, rfl⟩

theorem typeOf_of_misread (h : ¬ ReadsType fields) : typeOf fields
    = .rejected ⟨[.field "type"], "Input should be 'multiple_choice' or 'MULTIPLE_CHOICE'"⟩ [] := by
  unfold ReadsType at h
  push Not at h
  obtain ⟨value, hget, hnull, hspelling⟩ := h
  unfold typeOf optionalNullable Schema.optional
  rw [hget]
  cases value with
  | null => exact absurd rfl hnull
  | text s =>
    have hnone : TypeSpelling.all.find? (fun spelling => spelling.word == s) = none :=
      List.find?_eq_none.mpr fun spelling _ => by
        simpa using fun heq : spelling.word = s => hspelling spelling (heq ▸ rfl)
    simp only [nullable, oneOf, hnone]
    rfl
  | bool b => rfl
  | integer n => rfl
  | number x => rfl
  | array items => rfl
  | object fields => rfl

/-- The issue of the type is one more, and it keeps the ids from being compared. -/
theorem issues_of_misread (h : ¬ ReadsType fields) : ∃ before after,
    (schema (.object fields)).issues
      = before ++ ⟨[.field "type"], misreadType.message⟩ :: after
    ∧ ((schema (.object (unnamed fields))).issues = before ++ after
      ∨ before ++ after = []
        ∧ ∃ message, (schema (.object (unnamed fields))).issues = [⟨[], message⟩]) := by
  obtain ⟨before, after, hissues⟩ := issues_withType fields
  refine ⟨before, after, ?_, ?_⟩
  · rw [schema_eq_withType, typeOf_of_misread h]
    rcases Checked.issues_ensure (withType _ fields) idFault? with hsame | ⟨hnone, -⟩
    · rw [hsame, hissues, List.append_assoc]
      rfl
    · -- there is an issue already, so the ids are not looked at
      rw [hissues] at hnone
      simp [Checked.issues] at hnone
  · have hensure := Checked.issues_ensure (withType (.accepted none) fields) idFault?
    rwa [hissues, Checked.issues_accepted, List.append_nil, ← schema_unnamed] at hensure

theorem review_of_misread (h : ¬ ReadsType fields) :
    Verdict.Misread (MultipleChoiceDocument.review (.object fields))
      (MultipleChoiceDocument.review (.object (unnamed fields))) := by
  obtain ⟨before, after, hnamed, hplain⟩ := issues_of_misread h
  cases hschema : schema (.object fields) with
  | accepted document =>
    rw [hschema] at hnamed
    simp at hnamed
  | rejected first others =>
    rw [hschema, Checked.issues] at hnamed
    have hreview : MultipleChoiceDocument.review (.object fields)
        = ⟨none, (first :: others).map Remark.ofIssue⟩ := reviewWith_of_rejected hschema
    refine ⟨by rw [hreview], before.map Remark.ofIssue, after.map Remark.ofIssue, ?_, ?_⟩
    · rw [hreview, hnamed, List.map_append, List.map_cons]
      rfl
    · rw [critical_review, ← List.map_append]
      rcases hplain with hsame | ⟨hnone, message, hfault⟩
      · exact Or.inl (by rw [hsame])
      · obtain ⟨rfl, rfl⟩ := List.append_eq_nil_iff.mp hnone
        exact Or.inr ⟨rfl, rfl, message, by rw [hfault]; rfl⟩

end MultipleChoiceDocument

/-! ## Documents of any kind -/

namespace Document

variable {kind : DocumentKind}

/-- The document without the field `type`, if it has one. -/
def untyped : Document → Document
  | .multipleChoice document => .multipleChoice document.untyped
  | .branching document => .branching document
  | .declarative document => .declarative document

/-- A document of the kind can read the field `type`, or does not have it. -/
def ReadsType (kind : DocumentKind) (fields : Fields) : Prop :=
  kind = .multipleChoice → MultipleChoiceDocument.ReadsType fields

/-- Where the field `type` can be read, the fields that may name the type make a difference of one
warning, which multi-stage questions have. -/
theorem review_unnamed (h : ReadsType kind fields) :
    Verdict.SameBut untyped (kind ≠ .multipleChoice ∧ (Fields.get? fields "type").isSome = true)
      (Document.review kind (.object fields)) (Document.review kind (.object (unnamed fields))) := by
  cases kind with
  | multipleChoice =>
    obtain ⟨type, htype⟩ := MultipleChoiceDocument.typeOf_of_readsType (h rfl)
    exact (MultipleChoiceDocument.review_unnamed htype).map Document.multipleChoice (fun _ => rfl)
      (and_congr_left fun _ => by decide)
  | branching =>
    exact BranchingDocument.review_unnamed.map Document.branching (fun _ => rfl)
      (and_congr_left fun _ => by decide)
  | declarative =>
    exact DeclarativeDocument.review_unnamed.map Document.declarative (fun _ => rfl)
      (and_congr_left fun _ => by decide)

theorem review_of_misread (h : ¬ ReadsType kind fields) :
    Verdict.Misread (Document.review kind (.object fields))
      (Document.review kind (.object (unnamed fields))) := by
  unfold ReadsType at h
  push Not at h
  obtain ⟨rfl, hmisread⟩ := h
  have hreview := MultipleChoiceDocument.review_of_misread hmisread
  exact ⟨congrArg (Option.map Document.multipleChoice) hreview.document_eq, hreview.remarks_eq⟩

end Document

end AdaptiveQuiz
