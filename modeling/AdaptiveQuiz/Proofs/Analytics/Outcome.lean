import AdaptiveQuiz.Analytics.MultiStage
import AdaptiveQuiz.Flow.Traversal
import AdaptiveQuiz.Proofs.Document.SingleChoice
import AdaptiveQuiz.Proofs.Session.Start

/-!
# What a record says of the outcome

Whether a session was correct is computed twice: by the flow, and again by the analytics, which know
the journal and the document only. On a journal that ends as a completed session leaves it, the
analytics come to the result of the flow on multi-stage questions, and to the option that was submitted
on single choice questions. The time of the record is the one at which the question was completed.

## Main statements

* `Analytics.multiStage_closed`: the record of a multi-stage question
* `Analytics.singleChoice_closed`: the record of a single choice question
-/

namespace AdaptiveQuiz.Analytics

variable {settings : Settings} {log : List LogEntry} {context : SessionContext}
  {record : AnalyticsRecord} {entry : LogEntry}

/-! ## Looking at the end of a journal -/

theorem lastOf_concat {kinds : List EventKind} (hkind : kinds.contains entry.kind = true) :
    lastOf (log ++ [entry]) kinds = some entry := by
  rw [lastOf, List.reverse_append, firstOf]
  exact List.find?_cons_of_pos hkind

theorem lastOf_concat_of_ne {kinds : List EventKind} (hkind : kinds.contains entry.kind = false) :
    lastOf (log ++ [entry]) kinds = lastOf log kinds := by
  rw [lastOf, List.reverse_append, firstOf]
  exact List.find?_cons_of_neg (by rw [hkind]; exact Bool.false_ne_true)

theorem terminalEvent_concat (hkind : entry.kind = .submit) :
    terminalEvent (log ++ [entry]) = .ok entry := by
  rw [terminalEvent, lastOf_concat (by rw [hkind]; rfl)]

/-! ## What the record is made of -/

/-- The outcome of a multi-stage question is read from the entry that ended the session. -/
theorem multiStage_outcome {document : Document}
    (h : multiStage settings document log context = .ok record) :
    ∃ terminal fields, terminalEvent log = .ok terminal
      ∧ detailFields terminal.payload = .ok fields
      ∧ record.timestamp = terminal.timestamp
      ∧ record.isCorrect = isGiven fields "is_correct" := by
  simp only [multiStage, except_bind_eq_ok] at h
  obtain ⟨terminal, hterminal, fields, hfields, _, -, _, -, _, -, _, -, _, -, _, -, _, -, hrecord⟩ :=
    h
  cases hrecord
  exact ⟨terminal, fields, hterminal, hfields, rfl, rfl⟩

/-- The outcome of a single choice question is that of the choice submitted last. -/
theorem singleChoice_outcome {document : MultipleChoiceDocument}
    (h : singleChoice settings (.multipleChoice document) log context = .ok record) :
    ∃ terminal optionId, terminalEvent log = .ok terminal ∧ submittedOption log = .ok optionId
      ∧ record.timestamp = terminal.timestamp
      ∧ record.isCorrect
        = (selectedChoice document optionId).any (fun choice => choice.id == document.correctId)
      ∧ record.studentAnswer
        = .text (((selectedChoice document optionId).map Choice.text).getD "NO_ANSWER")
      ∧ record.correctAnswer
        = .text (((document.choice? document.correctId).map Choice.text).getD "UNKNOWN") := by
  simp only [singleChoice, singleChoiceRecord, except_bind_eq_ok] at h
  obtain ⟨terminal, hterminal, optionId, hoption, _, -, _, -, hrecord⟩ := h
  cases hrecord
  exact ⟨terminal, optionId, hterminal, hoption, rfl, rfl, rfl, rfl⟩

/-! ## Journals of completed sessions -/

variable {now later last : Int} {completion : Completion}

/-- On a multi-stage question, the record agrees with the completion that the last entry tells of. -/
theorem multiStage_closed {document : Document}
    (h : multiStage settings document (log ++ [.ofEvent now ⟨.submit, completion.toJson⟩]) context
      = .ok record) : record.timestamp = now ∧ record.isCorrect = completion.isCorrect := by
  obtain ⟨terminal, fields, hterminal, hfields, htimestamp, hcorrect⟩ := multiStage_outcome h
  rw [terminalEvent_concat rfl, Except.ok.injEq] at hterminal
  subst hterminal
  -- the details are the completion as an object, of which the first field is read
  cases hfields
  exact ⟨htimestamp, hcorrect⟩

/-- The option that was submitted last is found in front of the entries that closed the question. -/
theorem submittedOption_closed (traversal : Traversal) (option : StageOption) (action : Action)
    (proposal : Proposal) :
    submittedOption (log ++ [.ofEvent now (traversal.submission option action),
        .ofEvent later (traversal.transition proposal)]
        ++ [.ofEvent last ⟨.submit, completion.toJson⟩]) = .ok (some (.text option.id)) := by
  have hlog : log ++ [.ofEvent now (traversal.submission option action),
        .ofEvent later (traversal.transition proposal)]
      = log ++ [.ofEvent now (traversal.submission option action)]
        ++ [.ofEvent later (traversal.transition proposal)] := by simp
  -- neither of the last two entries is a submission of an option
  rw [hlog, submittedOption, lastOf_concat_of_ne rfl, lastOf_concat_of_ne rfl, lastOf_concat rfl]
  rfl

/-- On a single choice question, the record is about the choice that was submitted last. -/
theorem singleChoice_closed {document : MultipleChoiceDocument} {traversal : Traversal}
    {option : StageOption} {action : Action} {proposal : Proposal} {chosen correct : Choice}
    (hid : option.id ≠ "") (hchosen : document.choice? option.id = some chosen)
    (hright : document.choice? document.correctId = some correct)
    (h : singleChoice settings (.multipleChoice document)
      (log ++ [.ofEvent now (traversal.submission option action),
        .ofEvent later (traversal.transition proposal)]
        ++ [.ofEvent last ⟨.submit, completion.toJson⟩]) context = .ok record) :
    record.timestamp = last ∧ record.isCorrect = (option.id == document.correctId)
      ∧ record.studentAnswer = .text chosen.text ∧ record.correctAnswer = .text correct.text := by
  obtain ⟨terminal, optionId, hterminal, hsubmitted, htimestamp, hcorrect, hanswer, hsolution⟩ :=
    singleChoice_outcome h
  rw [terminalEvent_concat rfl, Except.ok.injEq] at hterminal
  subst hterminal
  rw [submittedOption_closed, Except.ok.injEq] at hsubmitted
  have hselected : selectedChoice document optionId = some chosen := by
    rw [← hsubmitted, selectedChoice, if_neg hid, hchosen]
  rw [hselected] at hcorrect hanswer
  rw [hright] at hsolution
  refine ⟨htimestamp, ?_, hanswer, hsolution⟩
  rw [hcorrect, Option.any_some, (MultipleChoiceDocument.mem_and_id_of_choice? hchosen).2]

end AdaptiveQuiz.Analytics
