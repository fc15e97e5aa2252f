import AdaptiveQuiz.Proofs.Analytics.Path
import AdaptiveQuiz.Proofs.Analytics.Record

/-!
# Analytics that succeed, and what they measure

On the journal of a completed session, whatever the analytics look for is there. They fail only on
details of submissions that are not objects, which no submission has, and on paths of more stages than
a double can count. The measures are between their ends, whatever the clock did.

## Main definitions

* `LogEntry.IsLegible`: an entry whose details the analytics can read
* `Analytics.Measured`: what every record says of the journal and of the earlier attempts
* `Analytics.Conforms`: a record that passes its own check, with measures between their ends

## Main statements

* `Analytics.exists_multiStage`, `Analytics.exists_singleChoice`: the analytics succeed
* `Analytics.multiStage_measured`, `Analytics.singleChoice_measured`: what both kinds measure alike
* `Analytics.Measured.withinBounds`, `Analytics.Measured.conforms`: measures are between their ends
-/

namespace AdaptiveQuiz

/-- The details of a submission are an object, or count as not given. Other entries may have any. -/
def LogEntry.IsLegible (entry : LogEntry) : Prop :=
  entry.kind = .submitStage → ∃ fields, Analytics.detailFields entry.payload = .ok fields

namespace Analytics

variable {settings : Settings} {document : Document} {log : List LogEntry} {entry : LogEntry}
  {context : SessionContext} {record : AnalyticsRecord} {completion : Completion} {now : Int}

/-! ## Reading submissions -/

theorem payload_eq_object {payload : Json} {fields : Fields} (htruthy : payload.isTruthy = true)
    (h : detailFields payload = .ok fields) : payload = .object fields := by
  unfold detailFields at h
  rw [if_pos htruthy] at h
  split at h
  · rw [Except.ok.inj h]
  · cases h

theorem exists_firstMisconception (h : ∀ entry ∈ log, entry.IsLegible) :
    ∃ found, firstMisconception log = .ok found := by
  induction log with
  | nil => exact ⟨none, rfl⟩
  | cons entry rest ih =>
    obtain ⟨found, hfound⟩ := ih fun other hother => h other (List.mem_cons_of_mem _ hother)
    rw [firstMisconception]
    split
    · next hread =>
      obtain ⟨fields, hfields⟩ := h entry (List.mem_cons_self ..) hread.1
      rw [payload_eq_object hread.2 hfields]
      dsimp only
      split
      · exact ⟨_, rfl⟩
      · exact ⟨found, hfound⟩
    · exact ⟨found, hfound⟩

theorem exists_diagnosis (h : ∀ entry ∈ log, entry.IsLegible) (isCorrect : Bool)
    (repairs : List String) : ∃ diagnostic, diagnosis log isCorrect repairs = .ok diagnostic := by
  have hreverse : ∀ entry ∈ log.reverse, entry.IsLegible := fun entry hentry =>
    h entry (List.mem_reverse.mp hentry)
  obtain ⟨found, hfound⟩ := exists_firstMisconception hreverse
  rw [diagnosis, lastMisconception, hfound]
  split
  · exact ⟨_, rfl⟩
  · exact ⟨_, rfl⟩

/-! ## Reading paths -/

/-- The remediation stages on a path of ids are those whose stages are. -/
theorem repairVisits_texts (stages : List Stage) (path : List String) :
    repairVisits stages (path.map .text)
      = .ok (path.filter fun id => (stage? stages id).any Stage.isRepair) := by
  induction path with
  | nil => rfl
  | cons id rest ih =>
    rw [List.map_cons, repairVisits, repairVisit?, ih, List.filter_cons]
    cases (stage? stages id).any Stage.isRepair <;> rfl

theorem pathTexts_texts (index : Nat) (path : List String) :
    pathTexts index (path.map .text) = .ok path := by
  induction path generalizing index with
  | nil => rfl
  | cons id rest ih =>
    rw [List.map_cons, pathTexts, ih]
    rfl

theorem pathText_texts {path : List String} (h : path ≠ []) :
    pathText (path.map .text) = .ok ("->".intercalate path) := by
  rw [pathText, if_neg (by simpa using h), pathTexts_texts]
  rfl

/-! ## Times -/

theorem exists_timeSpent (h : terminalEvent log = .ok entry) :
    ∃ elapsed, timeSpent log = .ok elapsed := by
  rw [timeSpent, h]
  exact ⟨_, rfl⟩

theorem timeSpent_nonneg {elapsed : Int} (h : timeSpent log = .ok elapsed) : 0 ≤ elapsed := by
  rw [timeSpent] at h
  cases hterminal : terminalEvent log with
  | error failure =>
    rw [hterminal] at h
    cases h
  | ok terminal =>
    rw [hterminal] at h
    rw [← Except.ok.inj h]
    exact Int.le_max_left _ _

theorem exists_speedRating {expected : Int} {x : Binary64} (h : Binary64.ofInt? expected = some x)
    (elapsed : Int) : ∃ rating, speedRating elapsed expected = .ok rating := by
  rw [speedRating, h]
  exact ⟨_, rfl⟩

theorem exists_standardDuration :
    ∃ x, Binary64.ofInt? Settings.standard.expectedDuration = some x :=
  Option.isSome_iff_exists.mp (by decide +kernel)

/-- The time that is expected for a path can be compared, unless the path is too long to be real. -/
theorem exists_expected {path : List Json} (h : path.length ≤ 10 ^ 300) :
    ∃ x, Binary64.ofInt? (expectedPerStage * (max 1 path.length : Nat)) = some x := by
  -- the limit is named, so that nothing is computed with it
  obtain ⟨limit, hlimit, hone, hbound⟩ :
      ∃ limit, 10 ^ 300 = limit ∧ 1 ≤ limit ∧ 15000 * limit ≤ 2 ^ 1023 :=
    ⟨10 ^ 300, rfl, by decide +kernel, by decide +kernel⟩
  rw [hlimit] at h
  have hcount : max 1 path.length ≤ limit := Nat.max_le.mpr ⟨hone, h⟩
  have habs : (expectedPerStage * (max 1 path.length : Nat)).natAbs ≤ 2 ^ 1023 := by
    rw [Int.natAbs_mul, Int.natAbs_natCast]
    exact Nat.le_trans (Nat.mul_le_mul_left _ hcount) hbound
  exact Binary64.exists_ofInt? habs (by decide)

/-! ## Analytics that succeed -/

theorem exists_multiStageView (h : ∀ single, document ≠ .multipleChoice single) :
    ∃ view, multiStageView document = .ok view := by
  cases document with
  | multipleChoice single => exact absurd rfl (h single)
  | branching document => exact ⟨_, rfl⟩
  | declarative document => exact ⟨_, rfl⟩

/-- Multi-stage analytics succeed on a journal that a completion ended. -/
theorem exists_multiStage (hdocument : ∀ single, document ≠ .multipleChoice single)
    (hterminal : terminalEvent log = .ok (.ofEvent now ⟨.submit, completion.toJson⟩))
    (hpath : completion.path ≠ []) (hlength : completion.path.length ≤ 10 ^ 300)
    (hlegible : ∀ entry ∈ log, entry.IsLegible) (settings : Settings) (context : SessionContext) :
    ∃ record, multiStage settings document log context = .ok record := by
  obtain ⟨view, hview⟩ := exists_multiStageView hdocument
  obtain ⟨diagnostic, hdiagnosis⟩ := exists_diagnosis hlegible completion.isCorrect
    (completion.path.filter fun id => (stage? view.stages id).any Stage.isRepair)
  obtain ⟨elapsed, helapsed⟩ := exists_timeSpent hterminal
  have hitems : (completion.path.map Json.text).length ≤ 10 ^ 300 := by rwa [List.length_map]
  obtain ⟨expected, hexpected⟩ := exists_expected hitems
  obtain ⟨rating, hrating⟩ := exists_speedRating hexpected elapsed
  obtain ⟨fields, hdetails, hcorrect, -⟩ := exists_completionFields completion
  simp only [multiStage, hterminal, ok_bind, LogEntry.ofEvent, hdetails, hcorrect, hview,
    visitedPath_recorded hterminal hpath, repairVisits_texts, hdiagnosis, helapsed,
    pathText_texts hpath, hrating]
  exact ⟨_, rfl⟩

/-- Single choice analytics succeed on a journal that was ended, after a submission with fields. -/
theorem exists_singleChoice {single : MultipleChoiceDocument} {optionId : Option Json}
    {expected : Binary64} (hterminal : terminalEvent log = .ok entry)
    (hsubmitted : submittedOption log = .ok optionId)
    (hexpected : Binary64.ofInt? settings.expectedDuration = some expected)
    (context : SessionContext) :
    ∃ record, singleChoice settings (.multipleChoice single) log context = .ok record := by
  obtain ⟨elapsed, helapsed⟩ := exists_timeSpent hterminal
  obtain ⟨rating, hrating⟩ := exists_speedRating hexpected elapsed
  rw [singleChoice, hterminal, ok_bind, hsubmitted, ok_bind]
  dsimp only
  rw [singleChoiceRecord, helapsed, ok_bind]
  dsimp only
  rw [hrating, ok_bind]
  exact ⟨_, rfl⟩

/-! ## What is measured -/

/-- What every record says of the journal and of the earlier attempts. -/
structure Measured (settings : Settings) (log : List LogEntry) (context : SessionContext)
    (record : AnalyticsRecord) : Prop where
  timeSpent_eq : timeSpent log = .ok record.timeSpent
  attemptNumber_eq : record.attemptNumber = context.history.length + 1
  distractionScore_eq : record.distractionScore = distractionScore log
  focusConsistency_eq : record.focusConsistency = focusConsistency log
  masteryBefore_eq : record.masteryBefore = masteryBefore context.history
  masteryAfter_eq : ∃ step, (step = singleChoiceStep ∨ step = multiStageStep)
    ∧ record.masteryAfter = masteryAfter record.masteryBefore record.isCorrect step step
  dataQuality_eq : record.dataQuality = dataQuality record.timeSpent settings.anomalyThreshold

theorem multiStage_measured (h : multiStage settings document log context = .ok record) :
    Measured settings log context record := by
  simp only [multiStage, except_bind_eq_ok] at h
  obtain ⟨_, -, _, -, _, -, _, -, _, -, _, -, elapsed, helapsed, _, -, _, -, hrecord⟩ := h
  cases hrecord
  refine ⟨helapsed, ?_, ?_, ?_, ?_, ⟨multiStageStep, Or.inr rfl, ?_⟩, ?_⟩ <;> dsimp only

theorem singleChoice_measured {single : MultipleChoiceDocument}
    (h : singleChoice settings (.multipleChoice single) log context = .ok record) :
    Measured settings log context record := by
  simp only [singleChoice, singleChoiceRecord, except_bind_eq_ok] at h
  obtain ⟨_, -, _, -, elapsed, helapsed, _, -, hrecord⟩ := h
  cases hrecord
  refine ⟨helapsed, by simp, ?_, ?_, ?_, ⟨singleChoiceStep, Or.inl rfl, ?_⟩, ?_⟩ <;> dsimp only

/-! ## Measures between their ends -/

/-- The penalty for a loss of focus is a positive double. -/
theorem exists_focusPenalty : ∃ units, units ≠ 0 ∧ focusPenalty = .finite false units := by
  have hpositive : Binary64.less .zero focusPenalty = true ∧ focusPenalty ≠ .infinity false := by
    decide +kernel
  rcases Binary64.exists_of_less_zero hpositive.1 with hinfinite | ⟨units, hunits⟩
  · exact absurd hinfinite hpositive.2
  · refine ⟨units, ?_, hunits⟩
    rintro rfl
    rw [hunits] at hpositive
    exact absurd hpositive.1 (by decide)

theorem inUnit_focusConsistency (log : List LogEntry) : (focusConsistency log).InUnit := by
  obtain ⟨units, hunits, hpenalty⟩ := exists_focusPenalty
  rw [focusConsistency, hpenalty]
  exact ((Binary64.isUnsigned_ofNat _).mul hunits).inUnit_one_sub

theorem inUnit_defaultMastery : defaultMastery.InUnit := by decide +kernel

/-- Where nothing is known of the mastery, the default is between zero and one. -/
theorem inUnit_masteryBefore {history : List AtomAttempt}
    (h : ∀ attempt ∈ history, ∀ mastery, attempt.masteryAfter = some mastery → mastery.InUnit) :
    (masteryBefore history).InUnit := by
  rw [masteryBefore]
  cases hfind : history.reverse.findSome? AtomAttempt.masteryAfter with
  | none =>
    rw [Option.getD_none]
    exact inUnit_defaultMastery
  | some mastery =>
    obtain ⟨attempt, hattempt, hmastery⟩ := List.exists_of_findSome?_eq_some hfind
    rw [Option.getD_some]
    exact h attempt (List.mem_reverse.mp hattempt) mastery hmastery

/-- Whatever a mastery is changed by, it is cut off at zero and one before it is rounded. -/
theorem inUnit_masteryAfter (before : Binary64) (isCorrect : Bool) (gain loss : Binary64) :
    (masteryAfter before isCorrect gain loss).InUnit := by
  obtain ⟨units, hunits, hclamp⟩ :=
    Binary64.exists_clamp (if isCorrect then before.add gain else before.sub loss)
  rw [masteryAfter]
  simp only [hclamp]
  exact Binary64.inUnit_roundPlaces 4 hunits

theorem dataQuality_eq_anomaly {elapsed threshold : Int} :
    dataQuality elapsed threshold = .anomaly ↔ elapsed < threshold := by
  unfold dataQuality
  split <;> simp [*]

/-- Measures are between their ends, if the masteries that were known before are. -/
theorem Measured.withinBounds (h : Measured settings log context record)
    (hknown : ∀ attempt ∈ context.history, ∀ mastery, attempt.masteryAfter = some mastery →
      mastery.InUnit) : record.WithinBounds := by
  have hscore := h.distractionScore_eq
  obtain ⟨step, -, hafter⟩ := h.masteryAfter_eq
  rw [distractionScore] at hscore
  refine ⟨timeSpent_nonneg h.timeSpent_eq, ?_, by omega, by omega, ?_, ?_, ?_⟩
  · rw [h.attemptNumber_eq]
    omega
  · rw [h.focusConsistency_eq]
    exact inUnit_focusConsistency log
  · rw [h.masteryBefore_eq]
    exact inUnit_masteryBefore hknown
  · rw [hafter]
    exact inUnit_masteryAfter _ _ _ _

/-- A record of a journal that passes its own check. Its measures are between their ends, and it counts
the attempts and the losses of focus. -/
structure Conforms (settings : Settings) (log : List LogEntry) (context : SessionContext)
    (record : AnalyticsRecord) : Prop where
  accepted : AnalyticsRecord.schema record.toJson = .accepted record
  timeSpent_nonneg : 0 ≤ record.timeSpent
  attemptNumber_eq : record.attemptNumber = context.history.length + 1
  distractionScore_eq :
    record.distractionScore = min 100 (20 * (log.countP (·.kind == .blur) : Int))
  focusConsistency_inUnit : record.focusConsistency.InUnit
  masteryBefore_inUnit : record.masteryBefore.InUnit
  masteryAfter_inUnit : record.masteryAfter.InUnit
  dataQuality_iff :
    record.dataQuality = .anomaly ↔ record.timeSpent < settings.anomalyThreshold

theorem Measured.conforms (h : Measured settings log context record)
    (hknown : ∀ attempt ∈ context.history, ∀ mastery, attempt.masteryAfter = some mastery →
      mastery.InUnit) : Conforms settings log context record := by
  have hbounds := h.withinBounds hknown
  have hcount : countOf log [.blur] = log.countP (·.kind == .blur) := by
    simp only [countOf, List.contains_cons, List.contains_nil, Bool.or_false]
  refine ⟨AnalyticsRecord.schema_toJson hbounds, hbounds.timeSpent_nonneg, h.attemptNumber_eq, ?_,
    hbounds.focusConsistency_inUnit, hbounds.masteryBefore_inUnit, hbounds.masteryAfter_inUnit, ?_⟩
  · rw [h.distractionScore_eq, distractionScore, hcount]
  · rw [h.dataQuality_eq]
    exact dataQuality_eq_anomaly

end Analytics

end AdaptiveQuiz
