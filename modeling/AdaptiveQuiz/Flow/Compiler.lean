import AdaptiveQuiz.Document.MultiStage
import AdaptiveQuiz.Flow.Reachability
import AdaptiveQuiz.Flow.Wiring

/-!
# Compilation

A multi-stage document is compiled into a flow: the entry is determined, unlock rules are wired,
defaults are filled in, and the edges are checked. Everything that is wrong is found in one go.

## Main definitions

* `DeclarativeDocument.compile`, `BranchingDocument.compile`
-/

namespace AdaptiveQuiz

/-! ## The entry -/

/-- The only stage shown unconditionally, or what is wrong with the choice of the entry. -/
def entryOf (declared : List DeclarativeStage) : Except Finding String :=
  match (declared.filter DeclarativeStage.isUnconditional).map fun stage => stage.id with
  | [] => .error .noEntryStage
  | [entry] => .ok entry
  | candidates => .error (.ambiguousEntryStage candidates)

/-! ## Checks -/

/-- A finding for every option that moves to something that is not a stage. -/
def unknownTargets (stages : List Stage) : List Finding :=
  stages.flatMap fun stage =>
    (stage.targets.filter fun target => (stage? stages target).isNone).map
      (.unknownTransitionTarget stage.id ·)

/-- A finding for every stage that cannot be reached, save those already reported. -/
def unreachable (entry : String) (stages : List Stage) (reported : List String) : List Finding :=
  let reachable := reachableFrom (.ofStages stages) entry
  (stages.filter fun stage => !reachable.contains stage.id && !reported.contains stage.id).map
    fun stage => .unreachableStage stage.id entry

/-- Checks settled stages and makes a flow of them if there is no error. -/
def finish (itemId atomId : Option String) (entry : Except Finding String) (stages : List Stage)
    (findings : List Finding) (reported : List String) : Compilation :=
  match entry with
  -- without an entry there is nothing that stages could be reached from
  | .error finding => ⟨none, finding :: findings ++ unknownTargets stages⟩
  | .ok entry =>
    let findings := findings ++ unknownTargets stages ++ unreachable entry stages reported
    if findings.any Finding.isError then ⟨none, findings⟩
    else ⟨some ⟨itemId, atomId, entry, stages⟩, findings⟩

/-! ## Documents -/

/-- Compiles a document with unlock rules. -/
def DeclarativeDocument.compile (document : DeclarativeDocument) : Compilation :=
  let authored := document.stages.map fun stage => stage.toStage.markExplicit
  let wiring := Wiring.ofDeclared document.stages authored
  finish document.itemId document.atomId (entryOf document.stages)
    (wiring.stages.map Stage.settle) wiring.findings wiring.dangling

/-- Compiles a document with explicit actions. -/
def BranchingDocument.compile (document : BranchingDocument) : Compilation :=
  let entry := document.settings.entry
  finish document.itemId document.atomId
    (if (stage? document.stages entry).isSome then .ok entry else .error (.unknownEntryStage entry))
    (document.stages.map fun stage => stage.markExplicit.settle) [] []

end AdaptiveQuiz
