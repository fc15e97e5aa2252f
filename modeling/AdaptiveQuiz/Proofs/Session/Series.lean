import AdaptiveQuiz.Proofs.Analytics.Mastery
import AdaptiveQuiz.Proofs.Session.Analysis

/-!
# Mastery over a series of sessions

For whoever comes back, the record of each session is an earlier attempt in the ones that follow.
The masteries of such a series are connected: every record takes up the mastery that the one before
left, and moves it in the direction of the answer, or not at all. None of them gets out of the range
that a history is checked for, so the series can always go on.

## Main definitions

* `Session.Visit`: a completed session for a learner with a given history
* `Session.Series`: records of visits one after another
* `Session.Progress`: what the records of a series have to be like

## Main statements

* `Session.Visit.advances`: what the record of one visit says, after a history that is accepted
* `Session.Visit.exists_record`, `Session.Series.concat`: a series can go on
* `Session.mastery_over_series`
-/

namespace AdaptiveQuiz

open Schema Analytics

namespace Session

variable {history : List AtomAttempt} {session : Session} {calls : List SessionCall}
  {result : SubmissionResult} {record : AnalyticsRecord} {records : List AnalyticsRecord}
  {vs : List Json}

/-! ## Visits -/

/-- A session of a built-in type under the standard settings, not a preview, which a learner with
this history has completed. -/
structure Visit (history : List AtomAttempt) (session : Session) (calls : List SessionCall)
    (result : SubmissionResult) : Prop where
  starts : ∃ shared given options question,
    start? .standard shared given options question = .ok session
  builtin : session.manifest ∈ Manifest.builtin
  isPreview_eq : session.isPreview = false
  history_eq : session.context.history = history
  result_eq : (session.run calls).1.result = some result

namespace Visit

/-- What the record of a visit says, it says of some journal of the visit. -/
theorem exists_measured (h : Visit history session calls result)
    (hrecord : result.analytics = some record) :
    ∃ log, Measured session.settings log session.context record := by
  obtain ⟨shared, given, options, question, hstart⟩ := h.starts
  obtain ⟨-, hdocument, -⟩ := started hstart
  obtain ⟨first, _, optionId, _, _, _, -, hresult⟩ := completedBy_of_result hstart h.result_eq
  rw [hresult] at hrecord
  have hmeasures := analytics_of_resultOn hrecord
  refine ⟨(session.run (first ++ [.submit optionId])).1.log, ?_⟩
  rcases analytics_of_mem_builtin h.builtin hdocument with
    ⟨single, heq, hanalytics⟩ | ⟨-, hanalytics⟩
  · rw [hanalytics, heq] at hmeasures
    exact singleChoice_measured hmeasures
  · rw [hanalytics] at hmeasures
    exact multiStage_measured hmeasures

/-- If the analytics can read what is entered by hand, there is a record of the visit. -/
theorem exists_record (h : Visit history session calls result)
    (hlegible : ∀ call ∈ calls, call.IsLegible)
    (hlength : (session.run calls).1.log.length < 10 ^ 300) :
    ∃ record, result.analytics = some record := by
  obtain ⟨shared, given, options, question, hstart⟩ := h.starts
  obtain ⟨-, hdocument, -⟩ := started hstart
  obtain ⟨flow, -, hbegins⟩ := exists_sound_of_start? hstart
  obtain ⟨expected, hexpected⟩ := exists_standardDuration
  rw [← (options_of_start? hstart).1] at hexpected
  obtain ⟨_, _, _, _, _, _, hcompleted, hresult⟩ := completedBy_of_result hstart h.result_eq
  obtain ⟨record, hrecord, -⟩ := hcompleted.exists_record hdocument h.builtin
    (readable_begin hbegins) hlegible hlength hexpected
  rw [hresult, resultOn_of_ok h.isPreview_eq hrecord]
  exact ⟨record, rfl⟩

end Visit

/-! ## One visit -/

/-- A record that goes on from a history: it counts the attempts, takes up the mastery that was
known last, and moves it in the direction of the answer, without leaving the range. -/
structure Advances (history : List AtomAttempt) (record : AnalyticsRecord) : Prop where
  attemptNumber_eq : record.attemptNumber = history.length + 1
  masteryBefore_eq : record.masteryBefore = masteryBefore history
  before_inUnit : record.masteryBefore.InUnit
  after_inUnit : record.masteryAfter.InUnit
  rises : record.isCorrect = true → record.masteryBefore.atMost record.masteryAfter = true
  falls : record.isCorrect = false → record.masteryAfter.atMost record.masteryBefore = true

theorem Visit.advances (h : Visit history session calls result)
    (hrecord : result.analytics = some record)
    (haccepted : listOf AtomAttempt.schema (.array vs) = .accepted history) :
    Advances history record := by
  obtain ⟨log, hmeasured⟩ := h.exists_measured hrecord
  have hnumber := hmeasured.attemptNumber_eq
  have hknown := hmeasured.masteryBefore_eq
  rw [h.history_eq] at hnumber hknown
  have hbefore : record.masteryBefore.InUnit := by
    rw [hknown]
    exact inUnit_masteryBefore (AtomAttempt.inUnit_of_history haccepted)
  exact ⟨hnumber, hknown, hbefore, hmeasured.inUnit_after, hmeasured.rises hbefore,
    hmeasured.falls hbefore⟩

/-- With the attempt that a record tells of, a history is accepted again. -/
theorem Advances.accepted_concat (h : Advances history record)
    (haccepted : listOf AtomAttempt.schema (.array vs) = .accepted history) :
    listOf AtomAttempt.schema (.array (vs ++ [record.attempt.toJson]))
      = .accepted (history ++ [record.attempt]) :=
  AtomAttempt.accepted_concat haccepted fun mastery hmastery => by
    rw [← Option.some.inj hmastery]
    exact h.after_inUnit

/-! ## Series -/

/-- Records of visits one after another, from a history on. What each of them tells is added to the
history for the visits that follow. -/
inductive Series : List AtomAttempt → List AnalyticsRecord → Prop
  | nil (history : List AtomAttempt) : Series history []
  | cons {history : List AtomAttempt} {session : Session} {calls : List SessionCall}
      {result : SubmissionResult} {record : AnalyticsRecord} {records : List AnalyticsRecord} :
      Visit history session calls result → result.analytics = some record →
      Series (history ++ [record.attempt]) records → Series history (record :: records)

/-- A series goes on with a visit for which the whole series is part of the history. -/
theorem Series.concat (h : Series history records)
    (hvisit : Visit (history ++ records.map AnalyticsRecord.attempt) session calls result)
    (hrecord : result.analytics = some record) : Series history (records ++ [record]) := by
  induction h with
  | nil history =>
    rw [List.map_nil, List.append_nil] at hvisit
    exact .cons hvisit hrecord (.nil _)
  | cons hfirst hfirstRecord _ ih =>
    rw [List.map_cons, List.append_cons] at hvisit
    exact .cons hfirst hfirstRecord (ih hvisit)

/-- The next record counts one attempt more, and takes up the mastery where this one leaves it. -/
structure TakenUp (record next : AnalyticsRecord) : Prop where
  attemptNumber_eq : next.attemptNumber = record.attemptNumber + 1
  masteryBefore_eq : next.masteryBefore = record.masteryAfter

/-- After a record, whatever goes on from the history with this record takes it up. -/
theorem Advances.takenUp {next : AnalyticsRecord} (h : Advances history record)
    (hnext : Advances (history ++ [record.attempt]) next) : TakenUp record next where
  attemptNumber_eq := by
    rw [hnext.attemptNumber_eq, h.attemptNumber_eq, List.length_append, List.length_singleton,
      Int.natCast_add_one]
  masteryBefore_eq := by
    rw [hnext.masteryBefore_eq]
    exact masteryBefore_concat history record.isCorrect record.masteryAfter

/-- What the records of a series have to be like, from a history on that was read from values. -/
structure Progress (vs : List Json) (history : List AtomAttempt)
    (records : List AnalyticsRecord) : Prop where
  begins : ∀ first ∈ records.head?, Advances history first
  takenUp : records.IsChain TakenUp
  inUnit : ∀ record ∈ records, record.masteryBefore.InUnit ∧ record.masteryAfter.InUnit
  rises : ∀ record ∈ records, record.isCorrect = true →
    record.masteryBefore.atMost record.masteryAfter = true
  falls : ∀ record ∈ records, record.isCorrect = false →
    record.masteryAfter.atMost record.masteryBefore = true
  accepted : ∀ earlier, earlier <+: records →
    listOf AtomAttempt.schema (.array (vs ++ earlier.map fun record => record.attempt.toJson))
      = .accepted (history ++ earlier.map AnalyticsRecord.attempt)

theorem progress_nil (haccepted : listOf AtomAttempt.schema (.array vs) = .accepted history) :
    Progress vs history [] where
  begins := by simp
  takenUp := .nil
  inUnit := by simp
  rises := by simp
  falls := by simp
  accepted earlier hprefix := by
    rw [List.prefix_nil.mp hprefix]
    simpa using haccepted

/-- A record in front of what makes progress from there on. -/
theorem Advances.progress_cons (h : Advances history record)
    (haccepted : listOf AtomAttempt.schema (.array vs) = .accepted history)
    (hrest : Progress (vs ++ [record.attempt.toJson]) (history ++ [record.attempt]) records) :
    Progress vs history (record :: records) where
  begins first hfirst := by
    rw [← Option.some.inj hfirst]
    exact h
  takenUp := List.isChain_cons.mpr ⟨fun next hnext => h.takenUp (hrest.begins next hnext),
    hrest.takenUp⟩
  inUnit := List.forall_mem_cons.mpr ⟨⟨h.before_inUnit, h.after_inUnit⟩, hrest.inUnit⟩
  rises := List.forall_mem_cons.mpr ⟨h.rises, hrest.rises⟩
  falls := List.forall_mem_cons.mpr ⟨h.falls, hrest.falls⟩
  accepted earlier hprefix := by
    rcases List.prefix_cons_iff.mp hprefix with rfl | ⟨others, rfl, hothers⟩
    · simpa using haccepted
    · have hnow := hrest.accepted others hothers
      rwa [List.append_assoc, List.append_assoc] at hnow

/-- Whatever a history is that was accepted, the records of a series from there on make progress. -/
theorem Series.progress (h : Series history records)
    (haccepted : listOf AtomAttempt.schema (.array vs) = .accepted history) :
    Progress vs history records := by
  -- the values of the history grow with it
  induction h generalizing vs with
  | nil history => exact progress_nil haccepted
  | cons hvisit hrecord _ ih =>
    have hadvances := hvisit.advances hrecord haccepted
    exact hadvances.progress_cons haccepted (ih (hadvances.accepted_concat haccepted))

/-- From any history that was accepted, the records of a series of visits count the attempts one by
one and take up each other's mastery. The mastery stays between zero and one, so that the history is
accepted however much of the series is added to it. It does not fall after a right answer, and does
not rise after a wrong one. And the series can go on: every visit for which it is part of the
history has a record, if the journal is not too long to be real and the analytics can read what was
entered by hand. -/
theorem mastery_over_series
    (haccepted : listOf AtomAttempt.schema (.array vs) = .accepted history)
    (hseries : Series history records) :
    Progress vs history records
    ∧ ∀ session calls result,
      Visit (history ++ records.map AnalyticsRecord.attempt) session calls result →
      (∀ call ∈ calls, call.IsLegible) → (session.run calls).1.log.length < 10 ^ 300 →
      ∃ record, result.analytics = some record ∧ Series history (records ++ [record]) := by
  refine ⟨hseries.progress haccepted, fun session calls result hvisit hlegible hlength => ?_⟩
  obtain ⟨record, hrecord⟩ := hvisit.exists_record hlegible hlength
  exact ⟨record, hrecord, hseries.concat hvisit hrecord⟩

end Session

namespace Detour

/-- A question of a built-in type, started for a learner with this history. -/
def startedAfter (history : List AtomAttempt) (question : Json) : Except StartFailure Session :=
  Session.start? .standard (Registry.shared .standard).1 none
    { options with context := { SessionContext.anonymous with history := history } } question

/-- A visit is told by the attempt that is in its record. -/
theorem exists_visit {history : List AtomAttempt} {question : Json} {calls : List SessionCall}
    {attempt : AtomAttempt}
    (h : (startedAfter history question).toOption.bind (fun session =>
      (session.run calls).1.result.bind fun result =>
        result.analytics.map AnalyticsRecord.attempt) = some attempt) :
    ∃ session result record, startedAfter history question = .ok session
      ∧ Session.Visit history session calls result
      ∧ result.analytics = some record ∧ record.attempt = attempt := by
  obtain ⟨session, hstart, hcompleted⟩ := except_toOption_bind_eq_some.mp h
  obtain ⟨result, hresult, hanalytics⟩ := Option.bind_eq_some_iff.mp hcompleted
  obtain ⟨record, hrecord, hattempt⟩ := Option.map_eq_some_iff.mp hanalytics
  obtain ⟨-, hcontext, hpreview⟩ := Session.options_of_start? hstart
  exact ⟨session, result, record, hstart, ⟨⟨_, _, _, _, hstart⟩,
    Session.manifest_mem_builtin hstart, hpreview, by rw [hcontext], hresult⟩, hrecord, hattempt⟩

/-- What is known of a learner who knows next to nothing. -/
def attempts : List AtomAttempt := [⟨true, some (.ofDecimal false 3 (-2))⟩]

/-- A failure takes away what was left, which is less than a step. Two right answers, to questions
of different types, bring back a short step and a long one. -/
theorem relapse_recovers : ∃ first second third,
    Session.Series attempts [first, second, third]
    ∧ first.attempt = ⟨false, some .zero⟩
    ∧ second.attempt = ⟨true, some (.ofDecimal false 5 (-2))⟩
    ∧ third.attempt = ⟨true, some (.ofDecimal false 15 (-2))⟩
    ∧ Session.Progress (attempts.map AtomAttempt.toJson) attempts [first, second, third] := by
  have haccepted : listOf AtomAttempt.schema (.array (attempts.map AtomAttempt.toJson))
      = .accepted attempts := by decide +kernel
  have hfails : (startedAfter attempts (typed "mcq-declarative" raw)).toOption.bind
      (fun session => (session.run hasty).1.result.bind fun result =>
        result.analytics.map AnalyticsRecord.attempt) = some ⟨false, some .zero⟩ := by
    decide +kernel
  have hchooses : (startedAfter (attempts ++ [⟨false, some .zero⟩])
      (typed "multiple-choice" rawChoice)).toOption.bind
      (fun session => (session.run [.submit "a"]).1.result.bind fun result =>
        result.analytics.map AnalyticsRecord.attempt)
      = some ⟨true, some (.ofDecimal false 5 (-2))⟩ := by
    decide +kernel
  have hanswers : (startedAfter (attempts ++ [⟨false, some .zero⟩,
        ⟨true, some (.ofDecimal false 5 (-2))⟩]) (typed "mcq-declarative" raw)).toOption.bind
      (fun session => (session.run [.submit "a", .submit "a"]).1.result.bind fun result =>
        result.analytics.map AnalyticsRecord.attempt)
      = some ⟨true, some (.ofDecimal false 15 (-2))⟩ := by
    decide +kernel
  have hshort : (startedAfter (attempts ++ [⟨false, some .zero⟩,
        ⟨true, some (.ofDecimal false 5 (-2))⟩]) (typed "mcq-declarative" raw)).toOption.map
      (fun session => decide ((session.run [.submit "a", .submit "a"]).1.log.length < 10 ^ 300))
      = some true := by
    decide +kernel
  obtain ⟨_, _, first, -, hvisit, hrecord, hfirst⟩ := exists_visit hfails
  have hseries : Session.Series attempts [first] := .cons hvisit hrecord (.nil _)
  obtain ⟨_, _, second, -, hvisit, hrecord, hsecond⟩ := exists_visit hchooses
  rw [← hfirst] at hvisit
  have hseries : Session.Series attempts [first, second] := hseries.concat hvisit hrecord
  obtain ⟨session, result, third, hstart, hvisit, hrecord, hthird⟩ := exists_visit hanswers
  rw [← hfirst, ← hsecond] at hvisit
  have hplain : ∀ call ∈ [SessionCall.submit "a", .submit "a"], call.IsPlain := by
    simp [SessionCall.IsPlain]
  obtain ⟨session', hstart', hlength⟩ := except_toOption_map_eq_some.mp hshort
  obtain rfl : session = session' := Except.ok.inj (hstart.symm.trans hstart')
  obtain ⟨record, hanalyzed, hseries⟩ := (Session.mastery_over_series haccepted hseries).2
    session _ result hvisit (fun call hcall => (hplain call hcall).isLegible)
    (of_decide_eq_true hlength)
  obtain rfl : third = record := Option.some.inj (hrecord.symm.trans hanalyzed)
  exact ⟨first, second, third, hseries, hfirst, hsecond, hthird,
    (Session.mastery_over_series haccepted hseries).1⟩

end Detour

end AdaptiveQuiz
