import AdaptiveQuiz.Document.Review
import AdaptiveQuiz.Flow.Compiler
import AdaptiveQuiz.Migration.Legacy
import AdaptiveQuiz.Notice

/-!
# Unrolling unlock rules

A document with unlock rules can be converted into one with explicit actions: it is compiled, and
the stages of the flow are written down.

## Main definitions

* `Flow.toBranchingJson`: a flow as a branching document
* `DeclarativeDocument.unroll`: a raw document with unlock rules as a branching one
* `Migration`: the conversions that are offered
-/

namespace AdaptiveQuiz

/-- A flow as a branching document, without the fields of its stages that are null. -/
def Flow.toBranchingJson (flow : Flow) (returnBehavior : Option ReturnBehavior) : Json :=
  .object [("item_id", .ofText? flow.itemId), ("atom_id", .ofText? flow.atomId),
    ("flow", (FlowSettings.mk flow.entry returnBehavior).toJson),
    ("stages", .array (flow.stages.map fun stage => stage.toJson.withoutNulls))]

/-- Why a document with unlock rules cannot be converted. -/
inductive UnrollError where
  /-- It is no such document. -/
  | invalid (remarks : List Remark)
  /-- It does not compile. -/
  | uncompiled (findings : List Finding)
deriving DecidableEq, Repr

/-- The error in words. -/
def UnrollError.message : UnrollError → String
  | .invalid remarks => "Invalid declarative document: "
      ++ Verdict.summary (remarks.filter (·.severity == .critical))
  | .uncompiled findings =>
    "; ".intercalate ((Finding.errors findings).map Finding.message)

/-- A raw document with unlock rules as a branching one, and what is noticed about it. -/
def DeclarativeDocument.unroll (raw : Json) : Except UnrollError (Json × List Notice) :=
  match (DeclarativeDocument.review raw).unwrap with
  | .error remarks => .error (.invalid remarks)
  | .ok document =>
    match document.compile.unwrap with
    | .error findings => .error (.uncompiled findings)
    | .ok flow => .ok (flow.toBranchingJson (some .reloadWithNewVars), [.converted flow.itemId])

/-! ## The conversions on offer -/

/-- The conversions. -/
inductive Migration where
  | legacy
  | unroll
deriving DecidableEq, Repr

namespace Migration

/-- The name of a conversion. -/
def id : Migration → String
  | .legacy => "legacy-mcq-to-v1"
  | .unroll => "declarative-to-branching"

/-- All conversions. -/
def all : List Migration := [.legacy, .unroll]

/-- What a conversion starts from. -/
def sourceType : Migration → String
  | .legacy => "legacy"
  | .unroll => "mcq-declarative:1"

/-- What a conversion leads to. -/
def targetType : Migration → String
  | .legacy => "multiple-choice:1"
  | .unroll => "mcq-branching:1"

/-- What a conversion does. -/
def description : Migration → String
  | .legacy => "Converts unstructured legacy MCQ objects into the multiple-choice v1 schema"
  | .unroll => "Compiles unlock rules into an executable branching flow"

/-- Converts a raw question. A failure is given in words. -/
def migrate (migration : Migration) (raw : Json) : Except String (Json × List Notice) :=
  match migration with
  | .legacy => ((Legacy.migrate raw).map fun data => (data, [])).mapError LegacyError.message
  | .unroll => (DeclarativeDocument.unroll raw).mapError UnrollError.message

end Migration

end AdaptiveQuiz
