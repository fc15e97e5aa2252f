import AdaptiveQuiz.Document.MultiStage
import AdaptiveQuiz.Document.MultipleChoice

/-!
# Reviewing documents

A review of a raw question has one of two results. If the question does not fit its schema, there is
no document and every issue is a critical remark. If it fits, there is a document, and what is
legal but looks like a mistake becomes a warning: fields that nobody reads, stages without a correct
option, answer keys that name no option, options without feedback.

## Main definitions

* `Remark`, `Verdict`
* `Document`: a question document of any kind
* `Document.review`: the review of a raw question against the schema of a kind
-/

namespace AdaptiveQuiz

open Schema

/-! ## Remarks and verdicts -/

/-- How serious a remark is. -/
inductive Severity where
  | critical
  | warning
deriving DecidableEq, Repr

namespace Severity

/-- The word for a severity. -/
def word : Severity → String
  | .critical => "CRITICAL"
  | .warning => "WARNING"

end Severity

/-- Something to say about a raw question. -/
structure Remark where
  location : String
  message : String
  severity : Severity
deriving DecidableEq, Repr

/-- A critical remark for an issue of the schema. -/
def Remark.ofIssue (issue : Issue) : Remark := ⟨issue.location, issue.message, .critical⟩

/-- What a review of a raw question finds. -/
structure Verdict (α : Type) where
  document : Option α
  remarks : List Remark
deriving DecidableEq, Repr

namespace Verdict

variable {α β : Type}

/-- The remarks that stand in the way of a document. -/
def critical (verdict : Verdict α) : List Remark := verdict.remarks.filter (·.severity == .critical)

/-- The remarks that do not. -/
def warnings (verdict : Verdict α) : List Remark := verdict.remarks.filter (·.severity == .warning)

/-- Remarks on one line, each with its place. -/
def summary (remarks : List Remark) : String :=
  "; ".intercalate (remarks.map fun remark => remark.location ++ ": " ++ remark.message)

/-- What is said when a document is needed and there is none. -/
def failureMessage (remarks : List Remark) : String :=
  "Invalid document: " ++ summary (remarks.filter (·.severity == .critical))

/-- The document, or all remarks. -/
def unwrap (verdict : Verdict α) : Except (List Remark) α :=
  match verdict.document with
  | some document => .ok document
  | none => .error verdict.remarks

/-- The same verdict on another form of the document. -/
def map (f : α → β) (verdict : Verdict α) : Verdict β := ⟨verdict.document.map f, verdict.remarks⟩

end Verdict

/-! ## Warnings -/

/-- The fields that only say which kind of question this is. -/
def routingFields : List String := ["meta", "template", "template_id"]

/-- A warning for every field that is neither one of the document nor one for routing. -/
def unknownFieldRemarks (known : List String) (fields : Fields) : List Remark :=
  (fields.map Prod.fst).filterMap fun name =>
    if known.contains name || routingFields.contains name then none
    else some ⟨name, "Unknown field is ignored", .warning⟩

/-- A warning for every option without feedback; the first option has the given index. -/
def feedbackRemarks (place : String) : Nat → List StageOption → List Remark
  | _, [] => []
  | index, option :: options =>
    (if option.feedback.all (· == "") then
      [⟨place ++ "." ++ toString index ++ ".feedback",
        "Option '" ++ option.id ++ "' has no feedback", .warning⟩]
    else []) ++ feedbackRemarks place (index + 1) options

/-- A warning if no option of a stage is correct. -/
def correctnessRemarks (place : String) (stage : Stage) : List Remark :=
  if stage.options.any stage.isCorrect then []
  else [⟨place, "Stage '" ++ stage.id ++ "' has no correct option", .warning⟩]

/-- A warning if the answer key of a stage names none of its options. -/
def answerKeyRemarks (place : String) (stage : Stage) : List Remark :=
  match stage.answerKey.correctOptionId with
  | none => []
  | some id =>
    if (stage.option? id).isSome then []
    else [⟨place, "Answer key names unknown option '" ++ id ++ "'", .warning⟩]

/-- The warnings for one stage. -/
def stageRemarks (index : Nat) (stage : Stage) : List Remark :=
  let place := "stages." ++ toString index
  correctnessRemarks (place ++ ".interaction.config.options") stage
    ++ answerKeyRemarks (place ++ ".answer_key.correct_option_id") stage
    ++ feedbackRemarks (place ++ ".interaction.config.options") 0 stage.options

/-- The warnings for stages, the first of which has the given index. -/
def stagesRemarks : Nat → List Stage → List Remark
  | _, [] => []
  | index, stage :: stages => stageRemarks index stage ++ stagesRemarks (index + 1) stages

/-! ## Reviews -/

/-- Reviews a raw question against a schema with the given field names. -/
def reviewWith {α : Type} (schema : Schema α) (known : List String) (remarks : α → List Remark) :
    Json → Verdict α
  | .object fields =>
    match schema (.object fields) with
    | .accepted document => ⟨some document, unknownFieldRemarks known fields ++ remarks document⟩
    | .rejected first others => ⟨none, (first :: others).map Remark.ofIssue⟩
  | _ => ⟨none, [⟨"$", "Document must be a JSON object", .critical⟩]⟩

/-- Reviews a multiple choice question. -/
def MultipleChoiceDocument.review : Json → Verdict MultipleChoiceDocument :=
  reviewWith schema fieldNames fun _ => []

/-- Reviews a branching question. -/
def BranchingDocument.review : Json → Verdict BranchingDocument :=
  reviewWith schema fieldNames fun document => stagesRemarks 0 document.stages

/-- Reviews a declarative question. -/
def DeclarativeDocument.review : Json → Verdict DeclarativeDocument :=
  reviewWith schema fieldNames fun document =>
    stagesRemarks 0 (document.stages.map fun stage => stage.toStage)

/-! ## Documents of any kind -/

/-- The kinds of question documents. -/
inductive DocumentKind where
  | multipleChoice
  | branching
  | declarative
deriving DecidableEq, Repr

/-- The word for a kind of document. -/
def DocumentKind.word : DocumentKind → String
  | .multipleChoice => "MultipleChoiceDocument"
  | .branching => "BranchingDocument"
  | .declarative => "DeclarativeDocument"

/-- A question document of any kind. -/
inductive Document where
  | multipleChoice (document : MultipleChoiceDocument)
  | branching (document : BranchingDocument)
  | declarative (document : DeclarativeDocument)
deriving DecidableEq, Repr

namespace Document

/-- The kind of a document. -/
def kind : Document → DocumentKind
  | .multipleChoice _ => .multipleChoice
  | .branching _ => .branching
  | .declarative _ => .declarative

/-- A document of a kind. -/
def schema : DocumentKind → Schema Document
  | .multipleChoice => fun v => Document.multipleChoice <$> MultipleChoiceDocument.schema v
  | .branching => fun v => Document.branching <$> BranchingDocument.schema v
  | .declarative => fun v => Document.declarative <$> DeclarativeDocument.schema v

/-- A document with all its fields. -/
def toJson : Document → Json
  | .multipleChoice document => document.toJson
  | .branching document => document.toJson
  | .declarative document => document.toJson

/-- Reviews a raw question against the schema of a kind. -/
def review : DocumentKind → Json → Verdict Document
  | .multipleChoice, v => (MultipleChoiceDocument.review v).map .multipleChoice
  | .branching, v => (BranchingDocument.review v).map .branching
  | .declarative, v => (DeclarativeDocument.review v).map .declarative

end Document

end AdaptiveQuiz
