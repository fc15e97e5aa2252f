import AdaptiveQuiz.Proofs.Analytics.Redaction
import AdaptiveQuiz.Proofs.Except

/-!
# What analytics hear of observations

Selections and changes of the focus are observations: they are entered into the journal, but they move
nothing. Analytics count them, and do nothing else with them. So if observations are erased from a
journal, a record is computed from it exactly if it was before, and the two records differ in what is
made of these counts alone.

## Main definitions

* `Erasure`: which observations are erased
* `Erasure.silences`, `Erasure.quiet`: the entries that are erased, and the journal without them
* `Erasure.mask`: a record without what depends on them
* `Erasure.redaction`: the redaction that leaves them out

## Main statements

* `Erasure.mask_congr`: which records are the same to the mask
* `Erasure.multiStage_quiet`, `Erasure.singleChoice_quiet`: the records on the erased journal
-/

namespace AdaptiveQuiz

open Analytics

/-- Which observations are erased: the selections, the signals of the host, or both. -/
structure Erasure where
  selections : Bool
  signals : Bool

namespace Erasure

variable {erasure : Erasure} {kinds : List EventKind} {settings : Settings}
  {context : SessionContext}

/-- Whether entries of a kind are erased. -/
def silences (erasure : Erasure) : EventKind → Bool
  | .selectOption => erasure.selections
  | .focus => erasure.signals
  | .blur => erasure.signals
  | _ => false

/-- A journal without the entries that are erased. -/
def quiet (erasure : Erasure) (log : List LogEntry) : List LogEntry :=
  log.filter fun entry => !erasure.silences entry.kind

/-- A record without what is made of the entries that are erased. -/
def mask (erasure : Erasure) (record : AnalyticsRecord) : AnalyticsRecord :=
  { record with
    cognitiveLoad := if erasure.selections then .low else record.cognitiveLoad
    distractionScore := if erasure.signals then 0 else record.distractionScore
    focusConsistency := if erasure.signals then .zero else record.focusConsistency }

theorem quiet_append (log log' : List LogEntry) :
    erasure.quiet (log ++ log') = erasure.quiet log ++ erasure.quiet log' := List.filter_append ..

/-! ## Erasure as redaction -/

theorem silences_of_informs {kind : EventKind} (h : kind.informs = true) :
    erasure.silences kind = false := by
  cases kind <;> first | rfl | cases h

/-- The redaction that leaves out the entries that are erased. -/
def redaction (erasure : Erasure) : Redaction where
  redact := Option.guard fun entry => !erasure.silences entry.kind
  kind_eq := by
    intro entry redacted h
    rw [(Option.guard_eq_some_iff.mp h).1]
  timestamp_eq := by
    intro entry redacted h
    rw [(Option.guard_eq_some_iff.mp h).1]
  redact_of_informs := by
    intro entry h
    exact Option.guard_eq_some_iff.mpr ⟨rfl, by rw [silences_of_informs h]; rfl⟩
  isSome_of_opens := by
    rintro entry (hkind | hkind) <;> simp [hkind, silences]

theorem journal_redaction (log : List LogEntry) :
    erasure.redaction.journal log = erasure.quiet log := congrFun List.filterMap_eq_filter log

/-- The redaction keeps kinds that are not erased. -/
theorem keeps_redaction (h : ∀ kind ∈ kinds, erasure.silences kind = false) :
    erasure.redaction.Keeps kinds := by
  intro entry hcontains
  simp [redaction, h _ (List.contains_iff_mem.mp hcontains)]

/-! ## Records -/

/-- Records that differ in the counts of what is erased are the same to the mask. -/
theorem mask_congr {record record' : AnalyticsRecord}
    (hrest : record' = { record with
      cognitiveLoad := record'.cognitiveLoad
      distractionScore := record'.distractionScore
      focusConsistency := record'.focusConsistency })
    (hload : erasure.selections = false → record'.cognitiveLoad = record.cognitiveLoad)
    (hfocus : erasure.signals = false → record'.distractionScore = record.distractionScore
      ∧ record'.focusConsistency = record.focusConsistency) :
    erasure.mask record' = erasure.mask record := by
  rw [hrest]
  cases hselections : erasure.selections <;> cases hsignals : erasure.signals <;>
    simp [mask, hselections, hsignals, hload, hfocus]

/-- Unless signals are erased, losses of focus are counted as before. -/
theorem focus_journal (hkept : erasure.signals = false) (log : List LogEntry) :
    distractionScore (erasure.redaction.journal log) = distractionScore log
      ∧ focusConsistency (erasure.redaction.journal log) = focusConsistency log := by
  have hkeeps : erasure.redaction.Keeps [.blur] := keeps_redaction (by simp [silences, hkept])
  rw [distractionScore, focusConsistency, Redaction.countOf_journal hkeeps]
  exact ⟨rfl, rfl⟩

theorem multiStage_quiet (document : Document) (log : List LogEntry) :
    (multiStage settings document (erasure.quiet log) context).map erasure.mask
      = (multiStage settings document log context).map erasure.mask := by
  rw [← journal_redaction]
  simp only [multiStage, except_map_bind, Redaction.terminalEvent_journal,
    Redaction.visitedPath_journal, Redaction.diagnosis_journal, Redaction.timeSpent_journal]
  -- the steps are the same, and what is left is to compare the records that they come to
  iterate 9 refine bind_congr fun _ => ?_
  refine congrArg Except.ok (mask_congr (by dsimp only) (fun hkept => ?_) fun hkept => ?_)
  · have hselections : erasure.redaction.Keeps [.selectOption] :=
      keeps_redaction (by simp [silences, hkept])
    have hsubmissions : erasure.redaction.Keeps [.submitStage] :=
      Redaction.keeps_of_informs (by decide)
    simp only [Redaction.countOf_journal hselections, Redaction.countOf_journal hsubmissions]
  · dsimp only
    exact focus_journal hkept log

theorem singleChoiceRecord_journal (document : MultipleChoiceDocument) (log : List LogEntry)
    (terminal : LogEntry) (selected : Option Choice) :
    (singleChoiceRecord settings document (erasure.redaction.journal log) context terminal
        selected).map erasure.mask
      = (singleChoiceRecord settings document log context terminal selected).map erasure.mask := by
  simp only [singleChoiceRecord, except_map_bind, Redaction.timeSpent_journal]
  iterate 2 refine bind_congr fun _ => ?_
  refine congrArg Except.ok (mask_congr (by dsimp only) (fun hkept => ?_) fun hkept => ?_)
  · have hselections : erasure.redaction.Keeps [.selectOption, .answerSelect] :=
      keeps_redaction (by simp [silences, hkept])
    simp only [Redaction.countOf_journal hselections]
  · dsimp only
    exact focus_journal hkept log

theorem singleChoice_quiet (document : Document) (log : List LogEntry) :
    (singleChoice settings document (erasure.quiet log) context).map erasure.mask
      = (singleChoice settings document log context).map erasure.mask := by
  rw [← journal_redaction]
  simp only [singleChoice, except_map_bind, Redaction.terminalEvent_journal,
    Redaction.submittedOption_journal]
  iterate 2 refine bind_congr fun _ => ?_
  cases document with
  | multipleChoice document => exact singleChoiceRecord_journal document log _ _
  | branching document => rfl
  | declarative document => rfl

end Erasure

end AdaptiveQuiz
