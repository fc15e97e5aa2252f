import AdaptiveQuiz.Proofs.Analytics.Measures

/-!
# What a record says of the learner

The diagnosis of a multi-stage question is made from the details of its journal and from the document
before it was compiled. On a journal that a completion ended, it comes down to what was done: the path
of the completion, the remediation stages of the document on it, and the misconceptions that incorrect
submissions told of. The search for the latest misconception goes back over everything that tells of
none, so whatever else is entered does not matter to it.

## Main definitions

* `Stage.misconception?`: what a submission tells of the learner
* `Document.IsRepair`: an id of a remediation stage

## Main statements

* `Analytics.lastMisconception_append_of_ne`, `Analytics.lastMisconception_submission`: the latest
  misconception of a journal that grows at its end
* `Analytics.multiStage_told`: path, recovery and diagnosis of a record
-/

namespace AdaptiveQuiz

/-- The misconception that an option stands for, if it is incorrect and has a diagnostic that is not
empty. -/
def Stage.misconception? (stage : Stage) (option : StageOption) : Option String :=
  if stage.isCorrect option then none else option.diagnostic.filter fun text => text != ""

namespace Document

/-- A stage of the document with this id is remediation. -/
def IsRepair (document : Document) (id : String) : Prop :=
  ∃ stage ∈ document.authored, stage.id = id ∧ stage.isRepair = true

instance (document : Document) (id : String) : Decidable (document.IsRepair id) :=
  inferInstanceAs (Decidable (∃ stage ∈ document.authored, stage.id = id ∧ stage.isRepair = true))

/-- Where ids differ, remediation is recognised by looking up the stage. -/
theorem isRepair_iff {document : Document} (hnodup : (document.authored.map Stage.id).Nodup)
    {id : String} :
    (stage? document.authored id).any Stage.isRepair = true ↔ document.IsRepair id := by
  rw [Option.any_eq_true]
  constructor
  · rintro ⟨stage, hstage, hrepair⟩
    obtain ⟨hmem, hid⟩ := mem_and_id_of_stage? hstage
    exact ⟨stage, hmem, hid, hrepair⟩
  · rintro ⟨stage, hmem, hid, hrepair⟩
    exact ⟨stage, (stage?_eq_some hnodup).mpr ⟨hmem, hid⟩, hrepair⟩

end Document

namespace Analytics

variable {settings : Settings} {document : Document} {log entries : List LogEntry}
  {context : SessionContext} {record : AnalyticsRecord} {completion : Completion} {now : Int}

/-! ## Misconceptions -/

/-- Entries that are no submissions tell of no misconception. -/
theorem lastMisconception_append_of_ne (h : ∀ entry ∈ entries, entry.kind ≠ .submitStage) :
    lastMisconception (log ++ entries) = lastMisconception log := by
  have hnone : entries.reverse.filter (·.kind == .submitStage) = [] := by
    apply List.filter_eq_nil_iff.mpr
    intro entry hentry
    simpa using h entry (List.mem_reverse.mp hentry)
  rw [lastMisconception, List.reverse_append, ← Redaction.firstMisconception_filter,
    List.filter_append, hnone, List.nil_append, Redaction.firstMisconception_filter,
    lastMisconception]

/-- An optional text counts as given if it is there and not empty. -/
theorem firstTruthy?_ofText? (text? : Option String) :
    Json.firstTruthy? [some (.ofText? text?)] = (text?.filter fun text => text != "").map .text := by
  cases text? with
  | none => rfl
  | some text =>
    by_cases hempty : text = "" <;>
      simp [Json.firstTruthy?, Json.ofText?, Json.isTruthy, Option.filter_some, hempty]

/-- What the analytics read in the details of a submission. -/
theorem exists_submissionFields (traversal : Traversal) (option : StageOption) (action : Action) :
    ∃ fields, traversal.submission option action = ⟨.submitStage, .object fields⟩
      ∧ (Json.object fields).isTruthy = true
      ∧ isGiven fields "is_correct" = traversal.current.isCorrect option
      ∧ Fields.get? fields "diagnostic" = some (.ofText? option.diagnostic) :=
  ⟨_, rfl, rfl, rfl, rfl⟩

/-- A submission tells of the misconception that its option stands for, or leaves it at the latest one
before. -/
theorem lastMisconception_submission {found : Option String}
    (h : lastMisconception log = .ok found) (traversal : Traversal) (option : StageOption)
    (action : Action) :
    lastMisconception (log ++ [.ofEvent now (traversal.submission option action)])
      = .ok ((traversal.current.misconception? option).or found) := by
  obtain ⟨fields, hsubmission, htruthy, hcorrect, hdiagnostic⟩ :=
    exists_submissionFields traversal option action
  have hbefore : firstMisconception log.reverse = .ok found := h
  -- the search goes back from the end, so the submission is the first entry that it meets
  rw [lastMisconception, List.reverse_append, List.reverse_singleton, List.singleton_append,
    firstMisconception, hsubmission, if_pos ⟨rfl, htruthy⟩]
  simp only [LogEntry.ofEvent, hcorrect, hdiagnostic, firstTruthy?_ofText?, hbefore,
    Stage.misconception?]
  cases traversal.current.isCorrect option with
  | true => rfl
  | false => cases option.diagnostic.filter fun text => text != "" <;> rfl

/-- A name that is not empty is taken as it is. -/
theorem nameOr_of_ne_empty {name : Option String} (h : name ≠ some "") (default : String) :
    nameOr name default = name.getD default := by
  cases name with
  | none => rfl
  | some name => exact if_neg fun hempty => h (congrArg some hempty)

/-! ## Times -/

/-- The time is taken from the mount that opened the journal to the entry that ended the session. -/
theorem timeSpent_mounted {mounted terminal : LogEntry} (hkind : mounted.kind = .mount)
    (h : terminalEvent (mounted :: log) = .ok terminal) :
    timeSpent (mounted :: log) = .ok (max 0 (terminal.timestamp - mounted.timestamp)) := by
  have hfirst : firstOf (mounted :: log) [.mount, .view] = some mounted :=
    List.find?_cons_of_pos (by rw [hkind]; rfl)
  rw [timeSpent, h, hfirst]
  rfl

/-! ## The record -/

theorem view_stages {view : MultiStageView} (h : multiStageView document = .ok view) :
    view.stages = document.authored := by
  cases document with
  | multipleChoice document => cases h
  | branching document =>
    cases h
    rfl
  | declarative document =>
    cases h
    rfl

/-- Path, recovery and diagnosis of a record, on a journal that a completion ended. -/
structure Told (document : Document) (log : List LogEntry) (completion : Completion)
    (record : AnalyticsRecord) : Prop where
  studentAnswer_eq : record.studentAnswer = .text ("->".intercalate completion.path)
  isRecovered_iff : record.isRecovered = true
    ↔ completion.isCorrect = true ∧ ∃ id ∈ completion.path, document.IsRepair id
  passed : completion.isCorrect = true → record.diagnosticTag
    = (completion.path.find? fun id => document.IsRepair id).map fun id => "REPAIRED_VIA_" ++ id
  failed : completion.isCorrect = false → ∃ found, lastMisconception log = .ok found
    ∧ record.diagnosticTag = some (nameOr found "FAILED_PATH")

/-- What the record of a multi-stage question is made of: its path, the remediation stages on it, and
the diagnosis. -/
theorem multiStage_parts (h : multiStage settings document log context = .ok record) :
    ∃ terminal fields view path repairs answer, terminalEvent log = .ok terminal
      ∧ detailFields terminal.payload = .ok fields ∧ multiStageView document = .ok view
      ∧ visitedPath log = .ok path ∧ repairVisits view.stages path = .ok repairs
      ∧ diagnosis log (isGiven fields "is_correct") repairs = .ok record.diagnosticTag
      ∧ pathText path = .ok answer ∧ record.studentAnswer = .text answer
      ∧ record.isRecovered = (!repairs.isEmpty && isGiven fields "is_correct") := by
  simp only [multiStage, except_bind_eq_ok] at h
  obtain ⟨terminal, hterminal, fields, hfields, view, hview, path, hpath, repairs, hrepairs, tag,
    htag, _, -, answer, hanswer, _, -, hrecord⟩ := h
  cases hrecord
  exact ⟨terminal, fields, view, path, repairs, answer, hterminal, hfields, hview, hpath, hrepairs,
    htag, hanswer, rfl, rfl⟩

theorem multiStage_told (hnodup : (document.authored.map Stage.id).Nodup)
    (hterminal : terminalEvent log = .ok (.ofEvent now ⟨.submit, completion.toJson⟩))
    (hpath : completion.path ≠ [])
    (h : multiStage settings document log context = .ok record) :
    Told document log completion record := by
  obtain ⟨terminal, fields, view, path, repairs, answer, hread, hfields, hview, hvisited, hrepairs,
    htag, hanswer, hstudent, hrecovered⟩ := multiStage_parts h
  obtain ⟨fields', hdetails, hcorrect, -⟩ := exists_completionFields completion
  -- the parts are those that the completion tells of
  rw [hterminal, Except.ok.injEq] at hread
  subst hread
  rw [LogEntry.ofEvent, hdetails, Except.ok.injEq] at hfields
  subst hfields
  rw [visitedPath_recorded hterminal hpath, Except.ok.injEq] at hvisited
  subst hvisited
  rw [view_stages hview, repairVisits_texts, Except.ok.injEq] at hrepairs
  rw [pathText_texts hpath, Except.ok.injEq] at hanswer
  rw [hcorrect] at htag hrecovered
  have hrepair : repairs = completion.path.filter fun id => document.IsRepair id := by
    rw [← hrepairs]
    apply List.filter_congr
    intro id _
    rw [Bool.eq_iff_iff, decide_eq_true_iff]
    exact Document.isRepair_iff hnodup
  refine ⟨by rw [hstudent, hanswer], ?_, ?_, ?_⟩
  · rw [hrecovered, hrepair]
    simp [and_comm]
  · intro hpassed
    rw [diagnosis, hpassed, if_pos rfl, Except.ok.injEq, hrepair, List.head?_filter] at htag
    exact htag.symm
  · intro hfailed
    rw [diagnosis, hfailed, if_neg Bool.false_ne_true] at htag
    cases hfound : lastMisconception log with
    | error failure =>
      rw [hfound] at htag
      cases htag
    | ok found =>
      rw [hfound] at htag
      exact ⟨found, rfl, (Except.ok.inj htag).symm⟩

end Analytics

end AdaptiveQuiz
