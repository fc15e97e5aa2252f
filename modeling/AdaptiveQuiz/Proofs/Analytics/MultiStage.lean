import AdaptiveQuiz.Proofs.Analytics.Redaction
import AdaptiveQuiz.Proofs.Flow.EdgeResolution

/-!
# What the analytics of multi-stage questions look at

The record of a session on a multi-stage question does not depend on everything. Of a journal it
looks at the kinds and the times of the entries, and at the details of submissions and transitions
only; of a stage it looks at the id and the intent, and never at the options. So it cannot tell a
document with unlock rules from the flow that the document is compiled to.

## Main definitions

* `LogEntry.bare`: an entry with what the analytics look at
* `LogEntry.bareRedaction`: the redaction that makes all entries bare

## Main statements

* `multiStage_map_bare`: the other details of a journal make no difference
* `multiStage_resolved`: neither does the resolution of the options
-/

namespace AdaptiveQuiz

/-- An entry without the details that the analytics do not look at. -/
def LogEntry.bare (entry : LogEntry) : LogEntry :=
  if entry.kind.informs then entry else { entry with payload := .null }

namespace LogEntry

@[simp] theorem kind_bare (entry : LogEntry) : entry.bare.kind = entry.kind := by
  unfold bare
  split <;> rfl

@[simp] theorem timestamp_bare (entry : LogEntry) : entry.bare.timestamp = entry.timestamp := by
  unfold bare
  split <;> rfl

/-- What becomes of a journal whose entries are all bare. -/
def bareRedaction : Redaction where
  redact entry := some entry.bare
  kind_eq := by
    rintro entry _ ⟨⟩
    exact entry.kind_bare
  timestamp_eq := by
    rintro entry _ ⟨⟩
    exact entry.timestamp_bare
  redact_of_informs := fun _ h => congrArg some (if_pos h)
  isSome_of_opens := fun _ _ => rfl

end LogEntry

namespace Analytics

/-- Details of other entries than submissions and transitions make no difference. -/
theorem multiStage_map_bare (settings : Settings) (document : Document) (log : List LogEntry)
    (context : SessionContext) :
    multiStage settings document (log.map LogEntry.bare) context
      = multiStage settings document log context := by
  have hjournal : log.map LogEntry.bare = LogEntry.bareRedaction.journal log :=
    (congrFun List.filterMap_eq_map log).symm
  have hkeeps (kinds : List EventKind) : LogEntry.bareRedaction.Keeps kinds := fun _ _ => rfl
  simp only [hjournal, multiStage, Redaction.terminalEvent_journal, Redaction.visitedPath_journal,
    Redaction.diagnosis_journal, Redaction.timeSpent_journal, Redaction.countOf_journal (hkeeps _),
    distractionScore, focusConsistency]

/-! ## Looking at stages -/

/-- A change of the options of stages does not change which visits are remediation. -/
theorem repairVisits_map {f : Stage → Stage} (hid : ∀ stage, (f stage).id = stage.id)
    (hrepair : ∀ stage, (f stage).isRepair = stage.isRepair) (stages : List Stage)
    (path : List Json) : repairVisits (stages.map f) path = repairVisits stages path := by
  have hvisit : ∀ item, repairVisit? (stages.map f) item = repairVisit? stages item := by
    intro item
    cases item with
    | text id =>
      have hany : (stage? (stages.map f) id).any Stage.isRepair
          = (stage? stages id).any Stage.isRepair := by
        rw [stage?_map hid]
        cases stage? stages id with
        | none => rfl
        | some stage => exact hrepair stage
      rw [repairVisit?, hany, repairVisit?]
    | _ => rfl
  induction path with
  | nil => rfl
  | cons item rest ih => rw [repairVisits, hvisit, ih, repairVisits]

theorem ok_bind {ε α β : Type} (a : α) (f : α → Except ε β) : (Except.ok a >>= f) = f a := rfl

/-- A document with unlock rules and one with its resolved stages have the same records. -/
theorem multiStage_resolved {document : DeclarativeDocument} {migrated : BranchingDocument}
    (hitem : migrated.itemId = document.itemId) (hatom : migrated.atomId = document.atomId)
    (hstages : migrated.stages = document.authored.map (Stage.resolved document.stages))
    (settings : Settings) (log : List LogEntry) (context : SessionContext) :
    multiStage settings (.branching migrated) log context
      = multiStage settings (.declarative document) log context := by
  have hrepairs : ∀ path, repairVisits migrated.stages path
      = repairVisits document.authored path := by
    rw [hstages]
    exact repairVisits_map (f := Stage.resolved document.stages) (fun _ => rfl) (fun _ => rfl)
      document.authored
  have hview : multiStageView (.branching migrated)
      = .ok ⟨document.itemId, document.atomId, migrated.stages⟩ := by
    rw [← hitem, ← hatom]
    rfl
  have hview' : multiStageView (.declarative document)
      = .ok ⟨document.itemId, document.atomId, document.authored⟩ := rfl
  simp only [multiStage, hview, hview', ok_bind, hrepairs]

end Analytics

end AdaptiveQuiz
