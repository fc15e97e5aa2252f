import AdaptiveQuiz.Catalog.Manifest
import AdaptiveQuiz.Flow.Compiler

/-!
# From documents to flows

All question types run as flows. A single choice question is a flow of one stage that every option
leaves; multi-stage documents are compiled.

## Main definitions

* `MultipleChoiceDocument.compile`: a single choice question as a flow
* `Manifest.buildFlow`: the flow of a document under the binding of a manifest
-/

namespace AdaptiveQuiz

open Schema

namespace MultipleChoiceDocument

/-- The id of the only stage of a single choice question. -/
def stageId : String := "main"

/-- A choice as an option that exits. -/
def stageOption (document : MultipleChoiceDocument) (choice : Choice) : StageOption where
  id := choice.id
  text := choice.text
  latex := none
  isCorrect := some (choice.id == document.correctId)
  feedback := none
  diagnostic := none
  next := some (.exit none)
  nextSource := none

/-- The only stage of a single choice question. -/
def stage (document : MultipleChoiceDocument) : Stage where
  id := stageId
  intent := some .initial
  prompt := ⟨document.prompt, none, none⟩
  instruction := none
  interaction := ⟨.concept, ⟨document.choices.map document.stageOption, false, true⟩⟩
  answerKey := .empty

/-- The atom named in the metadata, which has to be a text or null. -/
def atomId (document : MultipleChoiceDocument) : Checked (Option String) :=
  optionalNullable document.metadata "atom_id" anyText

/-- A single choice question as a branching document. -/
def toBranching (document : MultipleChoiceDocument) : Checked BranchingDocument :=
  document.atomId.map fun atomId => ⟨document.id, atomId, ⟨stageId, none⟩, [document.stage]⟩

/-- A single choice question as a flow. -/
def compile (document : MultipleChoiceDocument) : Checked Compilation :=
  document.toBranching.map BranchingDocument.compile

end MultipleChoiceDocument

/-- Why a document does not become a flow, apart from findings. -/
inductive BuildError where
  /-- The binding of the manifest needs a document of another kind. -/
  | wrongKind (key : String) (binding : Binding) (actual : DocumentKind)
  /-- The document does not fit into a branching one. -/
  | unfit (issues : List Issue)
deriving DecidableEq, Repr

/-- The error in words; a document that does not fit has issues instead. -/
def BuildError.message : BuildError → String
  | .wrongKind key binding actual =>
    key ++ " binding '" ++ binding.word ++ "' expects " ++ binding.documentKind.word ++ ", got "
      ++ actual.word
  | .unfit _ => ""

/-- The flow of a document under the binding of a manifest. -/
def Manifest.buildFlow (manifest : Manifest) (document : Document) :
    Except BuildError Compilation :=
  match manifest.binding, document with
  | .singleChoice, .multipleChoice document => document.compile.toExcept.mapError .unfit
  | .branching, .branching document => .ok document.compile
  | .declarative, .declarative document => .ok document.compile
  | binding, document => .error (.wrongKind manifest.key binding document.kind)

end AdaptiveQuiz
