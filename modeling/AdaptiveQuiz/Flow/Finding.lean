import AdaptiveQuiz.Flow.Basic

/-!
# Findings of compilation

What can be said about the wiring of a multi-stage question. An error stands in the way of a flow,
a warning does not.

## Main definitions

* `Finding`, with `Finding.code`, `Finding.message`, `Finding.isError`, `Finding.stageId?`
* `Compilation`: a flow or none, and all findings
-/

namespace AdaptiveQuiz

/-- Something found while a flow is compiled. -/
inductive Finding where
  /-- No stage is shown unconditionally. -/
  | noEntryStage
  /-- Several stages are shown unconditionally. -/
  | ambiguousEntryStage (candidates : List String)
  /-- The entry named is not a stage. -/
  | unknownEntryStage (entry : String)
  /-- A rule depends on something that is not a stage. -/
  | missingDependency (stage parent : String)
  /-- A stage is unlocked by a correct answer that cannot be given. -/
  | noCorrectOption (stage parent : String)
  /-- A rule finds no option to attach to. -/
  | unlockShadowed (stage parent : String)
  /-- An option moves to something that is not a stage. -/
  | unknownTransitionTarget (stage target : String)
  /-- No way leads from the entry to a stage. -/
  | unreachableStage (stage entry : String)
deriving DecidableEq, Repr

namespace Finding

/-- The stable name of a kind of finding. -/
def code : Finding → String
  | .noEntryStage => "NO_ENTRY_STAGE"
  | .ambiguousEntryStage _ => "AMBIGUOUS_ENTRY_STAGE"
  | .unknownEntryStage _ => "UNKNOWN_ENTRY_STAGE"
  | .missingDependency _ _ => "MISSING_DEPENDENCY"
  | .noCorrectOption _ _ => "NO_CORRECT_OPTION"
  | .unlockShadowed _ _ => "UNLOCK_SHADOWED"
  | .unknownTransitionTarget _ _ => "UNKNOWN_TRANSITION_TARGET"
  | .unreachableStage _ _ => "UNREACHABLE_STAGE"

/-- The finding in words. -/
def message : Finding → String
  | .noEntryStage =>
    "No entry stage found (expected one stage with show_when=always or no unlock_logic)"
  | .ambiguousEntryStage candidates =>
    "Ambiguous entry: " ++ toString candidates.length ++ " stages have no dependency ("
      ++ ", ".intercalate candidates ++ ")"
  | .unknownEntryStage entry => "Entry stage '" ++ entry ++ "' does not exist"
  | .missingDependency stage parent =>
    "Orphan stage '" ++ stage ++ "' depends on missing stage '" ++ parent ++ "'"
  | .noCorrectOption stage parent =>
    "Stage '" ++ stage ++ "' unlocks after '" ++ parent ++ "' is correct, but '" ++ parent
      ++ "' has no correct option"
  | .unlockShadowed stage parent =>
    "Unlock rule of '" ++ stage ++ "' has no free option on '" ++ parent ++ "' to attach to"
  | .unknownTransitionTarget stage target =>
    "Stage '" ++ stage ++ "' transitions to unknown stage '" ++ target ++ "'"
  | .unreachableStage stage entry =>
    "Stage '" ++ stage ++ "' is not reachable from entry stage '" ++ entry ++ "'"

/-- Whether a finding stands in the way of a flow. -/
def isError : Finding → Bool
  | .noCorrectOption _ _ | .unlockShadowed _ _ => false
  | .noEntryStage | .ambiguousEntryStage _ | .unknownEntryStage _ | .missingDependency _ _
  | .unknownTransitionTarget _ _ | .unreachableStage _ _ => true

/-- The stage that a finding is attached to. -/
def stageId? : Finding → Option String
  | .noEntryStage | .ambiguousEntryStage _ => none
  | .unknownEntryStage entry => some entry
  | .missingDependency stage _ | .noCorrectOption stage _ | .unlockShadowed stage _
  | .unknownTransitionTarget stage _ | .unreachableStage stage _ => some stage

/-- The errors among some findings. -/
def errors (findings : List Finding) : List Finding := findings.filter isError

end Finding

/-- The result of compiling a question: a flow, unless there are errors, and all findings. -/
structure Compilation where
  flow : Option Flow
  findings : List Finding
deriving DecidableEq, Repr

namespace Compilation

/-- The findings that do not stand in the way of a flow. -/
def warnings (compilation : Compilation) : List Finding :=
  compilation.findings.filter (!·.isError)

/-- The flow, or all findings. -/
def unwrap (compilation : Compilation) : Except (List Finding) Flow :=
  match compilation.flow with
  | some flow => .ok flow
  | none => .error compilation.findings

/-- What is said when a flow is needed and there is none. -/
def failureMessage (findings : List Finding) : String :=
  "Flow failed to compile: " ++ "; ".intercalate
    ((Finding.errors findings).map fun finding => finding.code ++ ": " ++ finding.message)

end Compilation

end AdaptiveQuiz
