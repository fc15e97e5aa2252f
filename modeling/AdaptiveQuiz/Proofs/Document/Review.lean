import AdaptiveQuiz.Document.Review
import AdaptiveQuiz.Proofs.Schema.Acceptance

/-!
# What a review yields

A review yields a document exactly if the schema accepts, and then the document that was accepted.

## Main statements

* `DeclarativeDocument.review_document_eq_some`, `BranchingDocument.review_document_eq_some`,
  `MultipleChoiceDocument.review_document_eq_some`
* `Document.schema_of_review_declarative`, `Document.schema_of_review_branching`,
  `Document.schema_of_review_multipleChoice`: the same where the kind of the document is open
* `Document.kind_of_review`: a review does not change the kind
-/

namespace AdaptiveQuiz

open Schema

theorem Verdict.unwrap_eq_ok {α : Type} {verdict : Verdict α} {a : α} :
    verdict.unwrap = .ok a ↔ verdict.document = some a := by
  unfold unwrap
  cases verdict.document with
  | none => simp
  | some document => simp

section

variable {α : Type} {schema : Schema α} {known : List String} {remarks : α → List Remark}
  {fields : Fields}

theorem reviewWith_of_accepted {a : α} (h : schema (.object fields) = .accepted a) :
    reviewWith schema known remarks (.object fields)
      = ⟨some a, unknownFieldRemarks known fields ++ remarks a⟩ := by
  simp only [reviewWith, h]

theorem reviewWith_of_rejected {first : Issue} {others : List Issue}
    (h : schema (.object fields) = .rejected first others) :
    reviewWith schema known remarks (.object fields)
      = ⟨none, (first :: others).map Remark.ofIssue⟩ := by
  simp only [reviewWith, h]

end

/-- Only objects are checked, which makes no difference if the schema accepts nothing else. -/
theorem reviewWith_document_eq_some {α : Type} {schema : Schema α} {known : List String}
    {remarks : α → List Remark} {raw : Json} {a : α}
    (hobject : ∀ v a, schema v = .accepted a → ∃ fields, v = .object fields) :
    (reviewWith schema known remarks raw).document = some a ↔ schema raw = .accepted a := by
  have hother : (∀ fields, raw ≠ .object fields) → schema raw ≠ .accepted a := by
    intro hne haccepted
    obtain ⟨fields, hraw⟩ := hobject raw a haccepted
    exact hne fields hraw
  -- only the case of an object looks at the schema
  cases raw with
  | object fields =>
    cases hschema : schema (.object fields) with
    | accepted document => simp [reviewWith, hschema]
    | rejected first others => simp [reviewWith, hschema]
  | null => exact ⟨nofun, fun h => absurd h (hother nofun)⟩
  | bool value => exact ⟨nofun, fun h => absurd h (hother nofun)⟩
  | integer value => exact ⟨nofun, fun h => absurd h (hother nofun)⟩
  | number value => exact ⟨nofun, fun h => absurd h (hother nofun)⟩
  | text value => exact ⟨nofun, fun h => absurd h (hother nofun)⟩
  | array values => exact ⟨nofun, fun h => absurd h (hother nofun)⟩

theorem eq_object_of_record {α : Type} {name : String} {check : Fields → Checked α} {v : Json}
    {a : α} (h : record name check v = .accepted a) : ∃ fields, v = .object fields := by
  obtain ⟨fields, hv, -⟩ := record_eq_accepted.mp h
  exact ⟨fields, hv⟩

theorem DeclarativeDocument.review_document_eq_some {raw : Json} {document : DeclarativeDocument} :
    (DeclarativeDocument.review raw).document = some document
      ↔ DeclarativeDocument.schema raw = .accepted document :=
  reviewWith_document_eq_some fun _ _ => eq_object_of_record

theorem BranchingDocument.review_document_eq_some {raw : Json} {document : BranchingDocument} :
    (BranchingDocument.review raw).document = some document
      ↔ BranchingDocument.schema raw = .accepted document :=
  reviewWith_document_eq_some fun _ _ => eq_object_of_record

theorem MultipleChoiceDocument.review_document_eq_some {raw : Json}
    {document : MultipleChoiceDocument} :
    (MultipleChoiceDocument.review raw).document = some document
      ↔ MultipleChoiceDocument.schema raw = .accepted document :=
  reviewWith_document_eq_some fun _ _ => eq_object_of_record

namespace Document

/-- A review yields documents of the kind that it is for. -/
theorem kind_of_review {kind : DocumentKind} {raw : Json} {document : Document}
    (h : (Document.review kind raw).document = some document) : document.kind = kind := by
  cases kind <;> obtain ⟨document', -, rfl⟩ := Option.map_eq_some_iff.mp h <;> rfl

theorem schema_of_review_multipleChoice {kind : DocumentKind} {raw : Json}
    {document : MultipleChoiceDocument}
    (h : (Document.review kind raw).document = some (.multipleChoice document)) :
    MultipleChoiceDocument.schema raw = .accepted document := by
  cases kind <;> obtain ⟨document', hdocument, heq⟩ := Option.map_eq_some_iff.mp h <;> cases heq
  exact MultipleChoiceDocument.review_document_eq_some.mp hdocument

theorem schema_of_review_branching {kind : DocumentKind} {raw : Json}
    {document : BranchingDocument}
    (h : (Document.review kind raw).document = some (.branching document)) :
    BranchingDocument.schema raw = .accepted document := by
  cases kind <;> obtain ⟨document', hdocument, heq⟩ := Option.map_eq_some_iff.mp h <;> cases heq
  exact BranchingDocument.review_document_eq_some.mp hdocument

theorem schema_of_review_declarative {kind : DocumentKind} {raw : Json}
    {document : DeclarativeDocument}
    (h : (Document.review kind raw).document = some (.declarative document)) :
    DeclarativeDocument.schema raw = .accepted document := by
  cases kind <;> obtain ⟨document', hdocument, heq⟩ := Option.map_eq_some_iff.mp h <;> cases heq
  exact DeclarativeDocument.review_document_eq_some.mp hdocument

end Document

end AdaptiveQuiz
