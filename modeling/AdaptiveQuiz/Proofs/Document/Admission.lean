import AdaptiveQuiz.Proofs.Document.Review
import AdaptiveQuiz.Proofs.Document.Shape
import AdaptiveQuiz.Proofs.Document.WellFormed
import AdaptiveQuiz.Proofs.Flow.EdgeResolution

/-!
# What it means that a review lets a question pass

A review has critical remarks or a document, and never both. It lets just those raw questions pass
that have the shape of their kind, and what it lets pass is well-formed: this is what compilation
and sessions rely on.

## Main definitions

* `Verdict.Decided`: a verdict whose remarks are all of the severity that its document tells
* `Document.WellFormed`: what is promised of a document of any kind

## Main statements

* `Document.review_decided`: critical remarks stand in the way of a document, and warnings do not
* `Document.isSome_review`: which raw questions pass
* `Document.review_admits`
-/

namespace AdaptiveQuiz

open Schema

/-! ## Remarks and documents -/

/-- A verdict with a document has warnings only. One without has critical remarks only, of which
there is at least one. -/
def Verdict.Decided {α : Type} (verdict : Verdict α) : Prop :=
  match verdict.document with
  | some _ => ∀ remark ∈ verdict.remarks, remark.severity = .warning
  | none => verdict.remarks ≠ [] ∧ ∀ remark ∈ verdict.remarks, remark.severity = .critical

/-- There is a document exactly if there is no critical remark. -/
theorem Verdict.Decided.isSome_iff {α : Type} {verdict : Verdict α} (h : verdict.Decided) :
    verdict.document.isSome = true ↔ verdict.critical = [] := by
  unfold Verdict.Decided at h
  unfold critical
  rw [List.filter_eq_nil_iff]
  cases hdocument : verdict.document with
  | some document =>
    rw [hdocument] at h
    refine iff_of_true rfl fun remark hmem => ?_
    simp [h remark hmem]
  | none =>
    rw [hdocument] at h
    obtain ⟨hne, hcritical⟩ := h
    obtain ⟨remark, hmem⟩ := List.exists_mem_of_ne_nil _ hne
    refine iff_of_false (by simp) fun hnone => hnone remark hmem ?_
    simp [hcritical remark hmem]

theorem Verdict.Decided.map {α β : Type} {verdict : Verdict α} (h : verdict.Decided) (f : α → β) :
    (verdict.map f).Decided := by
  unfold Verdict.Decided at h ⊢
  unfold Verdict.map
  cases hdocument : verdict.document <;> simpa [hdocument] using h

/-! ### Warnings -/

theorem severity_unknownFieldRemarks {known : List String} {fields : Fields} :
    ∀ remark ∈ unknownFieldRemarks known fields, remark.severity = .warning := by
  intro remark hmem
  obtain ⟨name, -, hname⟩ := List.mem_filterMap.mp hmem
  split at hname
  · cases hname
  · cases hname
    rfl

theorem severity_feedbackRemarks {place : String} {index : Nat} {options : List StageOption} :
    ∀ remark ∈ feedbackRemarks place index options, remark.severity = .warning := by
  induction options generalizing index with
  | nil => simp [feedbackRemarks]
  | cons option rest ih =>
    rw [feedbackRemarks, List.forall_mem_append]
    refine ⟨?_, ih⟩
    split <;> simp

theorem severity_stageRemarks {index : Nat} {stage : Stage} :
    ∀ remark ∈ stageRemarks index stage, remark.severity = .warning := by
  unfold stageRemarks
  simp only [List.forall_mem_append]
  refine ⟨⟨?_, ?_⟩, severity_feedbackRemarks⟩
  · unfold correctnessRemarks
    split <;> simp
  · unfold answerKeyRemarks
    split
    · simp
    · split <;> simp

theorem severity_stagesRemarks {index : Nat} {stages : List Stage} :
    ∀ remark ∈ stagesRemarks index stages, remark.severity = .warning := by
  induction stages generalizing index with
  | nil => simp [stagesRemarks]
  | cons stage rest ih =>
    rw [stagesRemarks, List.forall_mem_append]
    exact ⟨severity_stageRemarks, ih⟩

/-! ### Verdicts -/

theorem decided_reviewWith {α : Type} {schema : Schema α} {known : List String}
    {remarks : α → List Remark}
    (hremarks : ∀ a, ∀ remark ∈ remarks a, remark.severity = .warning) (raw : Json) :
    (reviewWith schema known remarks raw).Decided := by
  cases raw with
  | object fields =>
    cases hschema : schema (.object fields) with
    | accepted document =>
      rw [reviewWith_of_accepted hschema]
      exact List.forall_mem_append.mpr ⟨severity_unknownFieldRemarks, hremarks document⟩
    | rejected first others =>
      rw [reviewWith_of_rejected hschema]
      refine ⟨by simp, fun remark hmem => ?_⟩
      obtain ⟨issue, -, rfl⟩ := List.mem_map.mp hmem
      rfl
  -- what is not an object has one remark, which is critical
  | _ => simp [reviewWith, Verdict.Decided]

theorem Document.review_decided (kind : DocumentKind) (raw : Json) :
    (Document.review kind raw).Decided := by
  cases kind with
  | multipleChoice => exact (decided_reviewWith (by simp) raw).map _
  | branching => exact (decided_reviewWith (fun _ => severity_stagesRemarks) raw).map _
  | declarative => exact (decided_reviewWith (fun _ => severity_stagesRemarks) raw).map _

/-! ## Documents that pass -/

theorem Document.review_document_eq_some {kind : DocumentKind} {raw : Json} {document : Document} :
    (Document.review kind raw).document = some document
      ↔ Document.schema kind raw = .accepted document := by
  cases kind with
  | multipleChoice =>
    simp only [review, Verdict.map, Option.map_eq_some_iff, schema, Checked.map_eq_accepted,
      MultipleChoiceDocument.review_document_eq_some]
  | branching =>
    simp only [review, Verdict.map, Option.map_eq_some_iff, schema, Checked.map_eq_accepted,
      BranchingDocument.review_document_eq_some]
  | declarative =>
    simp only [review, Verdict.map, Option.map_eq_some_iff, schema, Checked.map_eq_accepted,
      DeclarativeDocument.review_document_eq_some]

/-- A raw question passes exactly if it has the shape of its kind. -/
theorem Document.isSome_review {kind : DocumentKind} {raw : Json} :
    (Document.review kind raw).document.isSome = true ↔ IsObject kind.Fits raw := by
  rw [Option.isSome_iff_exists, ← Document.isAccepted_schema]
  simp only [Document.review_document_eq_some, Checked.IsAccepted]

/-- What is promised of a document: stages and choices have names of their own, there are enough of
them, rules that wait for something say on which stage, and the correct choice is there. -/
def Document.WellFormed : Document → Prop
  | .multipleChoice document => document.WellFormed
  | .branching document => WellFormedStages document.stages
  | .declarative document => WellFormedStages (document.stages.map fun stage => stage.toStage)
    ∧ ∀ stage ∈ document.stages, ∀ rule ∈ stage.unlock, rule.WellFormed

theorem Document.wellFormed_of_schema {kind : DocumentKind} {raw : Json} {document : Document}
    (h : Document.schema kind raw = .accepted document) : document.WellFormed := by
  cases kind with
  | multipleChoice =>
    obtain ⟨accepted, haccepted, rfl⟩ := Checked.map_eq_accepted.mp h
    exact MultipleChoiceDocument.wellFormed_of_schema haccepted
  | branching =>
    obtain ⟨accepted, haccepted, rfl⟩ := Checked.map_eq_accepted.mp h
    exact BranchingDocument.wellFormed_of_schema haccepted
  | declarative =>
    obtain ⟨accepted, haccepted, rfl⟩ := Checked.map_eq_accepted.mp h
    exact ⟨DeclarativeDocument.wellFormed_of_schema haccepted,
      DeclarativeDocument.rules_wellFormed_of_schema haccepted⟩

/-- For every raw value and each kind of question: there is a document exactly if no remark is
critical, and all remarks are warnings then, while there is a remark and all are critical otherwise.
A document is of the kind that was asked for, and well-formed. The values that lead to one are those
of the shape of the kind. -/
theorem Document.review_admits (kind : DocumentKind) (raw : Json) :
    ((Document.review kind raw).document.isSome = true
      ↔ (Document.review kind raw).critical = [])
    ∧ (Document.review kind raw).Decided
    ∧ (∀ document, (Document.review kind raw).document = some document →
        document.kind = kind ∧ document.WellFormed)
    ∧ ((Document.review kind raw).document.isSome = true ↔ IsObject kind.Fits raw) := by
  have hdecided := Document.review_decided kind raw
  refine ⟨hdecided.isSome_iff, hdecided, ?_, Document.isSome_review⟩
  intro document h
  exact ⟨Document.kind_of_review h,
    Document.wellFormed_of_schema (Document.review_document_eq_some.mp h)⟩

/-- The question passes as one with unlock rules. So it has the shape of one, and what it is read as
is well-formed. As a question with explicit actions it does not pass. -/
theorem Detour.admitted : IsObject DeclarativeDocument.Fits raw
    ∧ (Document.review .declarative raw).critical = []
    ∧ (Document.declarative document).WellFormed
    ∧ (Document.review .branching raw).critical ≠ [] := by
  have hsome : (Document.review .declarative raw).document = some (.declarative document) := by
    rw [Document.review_document_eq_some]
    show Document.declarative <$> DeclarativeDocument.schema raw = _
    rw [schema_raw, Checked.map_accepted]
  have hpass : (Document.review .declarative raw).document.isSome = true := by
    rw [hsome]
    rfl
  have hrefused : (Document.review .branching raw).document.isSome = false := by decide
  obtain ⟨hcritical, -, hwell, hfits⟩ := Document.review_admits .declarative raw
  obtain ⟨hcritical', -⟩ := Document.review_admits .branching raw
  refine ⟨hfits.mp hpass, hcritical.mp hpass, (hwell _ hsome).2, fun hnone => ?_⟩
  rw [hcritical'.mpr hnone] at hrefused
  cases hrefused

end AdaptiveQuiz
