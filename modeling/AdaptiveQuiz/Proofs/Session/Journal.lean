import AdaptiveQuiz.Proofs.Session.Host

/-!
# The shape of a journal

A journal opens with the question being mounted and viewed. After that come asides, which are about
the focus or about a selection, and submissions, each followed at once by its transition on the same
stage. The journal is closed by one entry right after a transition, and then nothing is added to it.

## Main definitions

* `EventKind.IsAside`: what is entered between submissions
* `LogEntry.IsFollowedBy`: a submission and its transition
* `Session.Shaped`: the journals of sessions, and whether they are closed
* `Session.Chronological`: a journal in the order of time, on a clock that does not go back

## Main statements

* `Session.Shaped.exists_submit_iff`: a journal is closed if it has a closing entry
* `Session.shaped_run`, `Session.chronological_run`, `Session.log_prefix_run`: what runs keep
* `Session.journal_kept`: the journal of a session and its listeners, at any time
-/

namespace AdaptiveQuiz

/-- What is entered into a journal between submissions. -/
def EventKind.IsAside (kind : EventKind) : Prop :=
  kind = .focus ∨ kind = .blur ∨ kind = .selectOption

/-- A submission and a transition on the same stage. -/
structure LogEntry.IsFollowedBy (submitted applied : LogEntry) : Prop where
  submitted_kind : submitted.kind = .submitStage
  applied_kind : applied.kind = .transition
  stage_eq : ∃ stageId, submitted.payload.field? "stage" = some (.text stageId)
    ∧ applied.payload.field? "from" = some (.text stageId)

/-- Plain calls write asides, unless they submit an option. -/
theorem SessionCall.IsPlain.isAside {call : SessionCall} {kind : EventKind} (h : call.IsPlain)
    (hwrites : call.Writes kind) : kind.IsAside := by
  cases call with
  | select optionId => exact Or.inr (Or.inr hwrites)
  | emit event detail =>
    rcases hwrites with hfocus | hblur
    · exact Or.inl hfocus
    · exact Or.inr (Or.inl hblur)
  | log kind payload => exact h.elim
  | recapture => exact h.elim
  | submit optionId => exact hwrites.elim
  | advance milliseconds => exact hwrites.elim
  | leave => exact hwrites.elim
  | abort => exact hwrites.elim

namespace Session

variable {session : Session} {given : Option Environment} {log entries : List LogEntry}
  {isClosed : Bool}

/-- The journals of sessions, and whether they are closed. -/
inductive Shaped : List LogEntry → Bool → Prop where
  | opened {mounted viewed : LogEntry} (hmounted : mounted.kind = .mount)
      (hviewed : viewed.kind = .view) : Shaped [mounted, viewed] false
  | aside {log : List LogEntry} {entry : LogEntry} (h : Shaped log false)
      (haside : entry.kind.IsAside) : Shaped (log ++ [entry]) false
  | answered {log : List LogEntry} {submitted applied : LogEntry} (h : Shaped log false)
      (hpair : submitted.IsFollowedBy applied) : Shaped (log ++ [submitted, applied]) false
  | closed {log : List LogEntry} {submitted applied closing : LogEntry} (h : Shaped log false)
      (hpair : submitted.IsFollowedBy applied) (hclosing : closing.kind = .submit) :
      Shaped (log ++ [submitted, applied, closing]) true

namespace Shaped

theorem append_asides (h : Shaped log false) (hasides : ∀ entry ∈ entries, entry.kind.IsAside) :
    Shaped (log ++ entries) false := by
  induction entries generalizing log with
  | nil => rwa [List.append_nil]
  | cons entry rest ih =>
    rw [List.append_cons]
    exact ih (h.aside (hasides entry (List.mem_cons_self ..)))
      fun later hlater => hasides later (List.mem_cons_of_mem _ hlater)

/-- Nothing that comes before the closing entry is of its kind. -/
theorem kind_ne_submit (h : Shaped log isClosed) (hopen : isClosed = false) :
    ∀ entry ∈ log, entry.kind ≠ .submit := by
  induction h with
  | opened hmounted hviewed => simp [hmounted, hviewed]
  | aside _ haside ih =>
    simp only [List.forall_mem_append, List.forall_mem_singleton]
    refine ⟨ih rfl, ?_⟩
    rcases haside with hkind | hkind | hkind <;> simp [hkind]
  | answered _ hpair ih =>
    simp only [List.forall_mem_append, List.forall_mem_cons]
    refine ⟨ih rfl, ?_, ?_⟩
    · simp [hpair.submitted_kind]
    · simp [hpair.applied_kind]
  | closed => cases hopen

/-- A closed journal ends with the closing entry. -/
theorem exists_getLast (h : Shaped log true) :
    ∃ closing, log.getLast? = some closing ∧ closing.kind = .submit := by
  cases h with
  | @closed _ submitted applied closing _ _ hclosing =>
    refine ⟨closing, ?_, hclosing⟩
    rw [List.getLast?_append]
    rfl

/-- A journal is closed exactly if it has a closing entry. -/
theorem exists_submit_iff (h : Shaped log isClosed) :
    (∃ entry ∈ log, entry.kind = .submit) ↔ isClosed = true := by
  cases isClosed with
  | false =>
    refine iff_of_false ?_ Bool.false_ne_true
    rintro ⟨entry, hentry, hkind⟩
    exact h.kind_ne_submit rfl entry hentry hkind
  | true =>
    obtain ⟨closing, hlast, hkind⟩ := h.exists_getLast
    exact iff_of_true ⟨closing, List.mem_of_getLast? hlast, hkind⟩ rfl

end Shaped

/-! ## One call -/

/-- An accepted submission is noted on the stage that its transition leaves. -/
theorem isFollowedBy_transition {optionId : String} {submitted : Submitted}
    (h : session.traversal.submit optionId = .ok submitted) (now later : Int) (action : Action) :
    (LogEntry.ofEvent now submitted.event).IsFollowedBy
      (.ofEvent later (session.traversal.transition (.action action))) := by
  obtain ⟨-, -, -, hevent⟩ := Traversal.submit_eq_ok.mp h
  rw [hevent]
  exact ⟨rfl, rfl, session.traversal.current.id, rfl, rfl⟩

/-- Every call keeps the shape, and closes the journal if it completes the question. -/
theorem Attends.shaped_perform (h : Attends given session)
    (hfree : ∀ environment ∈ given, environment.Spares recorderId) {call : SessionCall}
    (hplain : call.IsPlain) (hshaped : Shaped session.log session.isComplete) :
    Shaped (session.perform call).1.log (session.perform call).1.isComplete := by
  cases hcomplete : session.isComplete with
  | true =>
    obtain ⟨hlog, hkept⟩ := h.log_perform hfree hplain hcomplete
    rwa [hlog, hkept, ← hcomplete]
  | false =>
    rw [hcomplete] at hshaped
    rcases perform_cases_of_onCourse h.onCourse call with
      ⟨hadds, -⟩ | ⟨optionId, submitted, completion?, step, rfl, -, hstepped⟩
    · -- whatever a plain call adds without answering is an aside
      rw [hadds.isComplete_eq, hcomplete]
      obtain ⟨entries, hobserves, hwrites⟩ := hadds
      rw [hobserves.log_eq]
      exact hshaped.append_asides fun entry hentry => hplain.isAside (hwrites entry hentry)
    · have hpair := isFollowedBy_transition hstepped.submit_eq (session.clock.reading 0)
        (session.clock.reading 1) (session.taken submitted)
      have hresult := hstepped.result_eq
      rw [hstepped.completed_eq] at hresult
      rw [hstepped.answers.log_eq, isComplete, hresult]
      cases completion? with
      | none =>
        show Shaped (session.log ++ [_, _]) session.isComplete
        rw [hcomplete]
        exact hshaped.answered hpair
      | some completion => exact hshaped.closed hpair rfl

/-! ## The order of time -/

/-- A journal in the order of time, nothing of which is still to come on a clock that does not go
back. -/
structure Chronological (log : List LogEntry) (clock : Clock) : Prop where
  sorted : log.Pairwise fun earlier later => earlier.timestamp ≤ later.timestamp
  past : ∀ entry ∈ log, entry.timestamp ≤ clock.now
  steady : clock.IsSteady

namespace Chronological

variable {clock : Clock}

theorem nil (h : clock.IsSteady) : Chronological [] clock := ⟨.nil, nofun, h⟩

/-- An entry is made at the time that it is, and time does not go back. -/
theorem note (h : Chronological log clock) (event : Event) :
    Chronological (log ++ [.ofEvent clock.now event]) clock.tick where
  sorted := by
    rw [List.pairwise_append]
    refine ⟨h.sorted, List.pairwise_singleton _ _, fun earlier hearlier later hlater => ?_⟩
    rw [List.mem_singleton.mp hlater]
    exact h.past earlier hearlier
  past := by
    have htick : clock.now ≤ clock.tick.now := h.steady.now_le_tick
    rw [List.forall_mem_append]
    refine ⟨fun entry hentry => Int.le_trans (h.past entry hentry) htick, fun entry hentry => ?_⟩
    rw [List.mem_singleton.mp hentry]
    exact htick
  steady := h.steady.tick

theorem advance (h : Chronological log clock) {milliseconds : Int} (helapsed : 0 ≤ milliseconds) :
    Chronological log (clock.advance milliseconds) where
  sorted := h.sorted
  past entry hentry := Int.le_trans (h.past entry hentry) (Int.le_add_of_nonneg_right helapsed)
  steady := h.steady.advance milliseconds

theorem emit (h : Chronological session.log session.clock) (event : String) (detail : Fields) :
    Chronological (session.emit event detail).log (session.emit event detail).clock := by
  unfold Session.emit
  cases session.environment with
  | none => exact h
  | some environment =>
    -- each listener that hears the event notes it, or does nothing
    refine List.foldlRecOn (motive := fun now : Session => Chronological now.log now.clock) _ _ h
      fun now hnow listener _ => ?_
    unfold hear
    split
    · split
      · exact hnow.note _
      · exact hnow
    · exact hnow

/-- A submission is entered at two readings, and the completion at a third one. -/
theorem answers {after : Session} {submitted : Submitted}
    {answer : Except TraversalError (Option Completion)}
    (h : Chronological session.log session.clock)
    (hanswers : Answers session submitted answer after) :
    Chronological after.log after.clock := by
  have hmoved := (h.note submitted.event).note
    (session.traversal.transition (.action (session.taken submitted)))
  rw [hanswers.log_eq, hanswers.clock_eq, List.append_cons, List.append_cons]
  cases answer with
  | error error =>
    rw [closing, List.append_nil]
    exact hmoved
  | ok completion? =>
    cases completion? with
    | none =>
      rw [closing, List.append_nil]
      exact hmoved
    | some completion => exact hmoved.note ⟨.submit, completion.toJson⟩

/-- Every call keeps the order of time, unless the clock is put back. -/
theorem perform (h : Chronological session.log session.clock) {call : SessionCall}
    (hplain : call.IsPlain) (helapsed : 0 ≤ call.elapsed) :
    Chronological (session.perform call).1.log (session.perform call).1.clock := by
  cases call with
  | select optionId =>
    simp only [Session.perform, select]
    cases session.traversal.select optionId with
    | error error => exact h
    | ok event => exact h.note event
  | submit optionId =>
    cases hsubmit : session.traversal.submit optionId with
    | error error =>
      rw [perform_submit_of_refused hsubmit]
      exact h
    | ok submitted =>
      rw [fst_perform_submit]
      exact h.answers (answers_submit hsubmit)
  | emit event detail => exact h.emit event detail
  | advance milliseconds => exact h.advance helapsed
  | log kind payload => exact hplain.elim
  | recapture => exact hplain.elim
  | leave =>
    have hlog := (observes_leave session).log_eq
    rw [List.append_nil] at hlog
    show Chronological session.leave.log session.leave.clock
    rwa [hlog, clock_leave]
  | abort =>
    have hlog := (observes_abort session).log_eq
    rw [List.append_nil] at hlog
    show Chronological session.abort.log session.abort.clock
    rwa [hlog, clock_abort]

end Chronological

/-! ## Runs -/

variable {flow : Flow} {calls : List SessionCall}

theorem shaped_begin (h : Begins flow session) : Shaped session.log false := by
  obtain ⟨clock, hlog⟩ := h.exists_log_eq
  rw [hlog]
  exact .opened rfl rfl

theorem chronological_begin {settings : Settings} {shared : Registry} {registry : Option Registry}
    {options : SessionOptions} {question : Json}
    (h : start? settings shared registry options question = .ok session)
    (hsteady : options.clock.IsSteady) : Chronological session.log session.clock := by
  obtain ⟨manifest, document, flow, traversal, -, -, -, -, rfl⟩ := start?_eq_ok.mp h
  exact ((Chronological.nil hsteady).note Recorder.mounted).note (viewed manifest)

theorem shaped_run (h : Attends given session)
    (hfree : ∀ environment ∈ given, environment.Spares recorderId)
    (hshaped : Shaped session.log session.isComplete) (hplain : ∀ call ∈ calls, call.IsPlain) :
    Shaped (session.run calls).1.log (session.run calls).1.isComplete :=
  (run_invariant (P := fun now => Attends given now ∧ Shaped now.log now.isComplete)
    (fun call hcall _ hnow => ⟨hnow.1.perform hfree (hplain call hcall),
      hnow.1.shaped_perform hfree (hplain call hcall) hnow.2⟩) ⟨h, hshaped⟩).2

theorem chronological_run (h : Chronological session.log session.clock)
    (hplain : ∀ call ∈ calls, call.IsPlain) (helapsed : ∀ call ∈ calls, 0 ≤ call.elapsed) :
    Chronological (session.run calls).1.log (session.run calls).1.clock :=
  run_invariant (P := fun now => Chronological now.log now.clock)
    (fun call hcall _ hnow => hnow.perform (hplain call hcall) (helapsed call hcall)) h

/-- A completed journal stays as it is. -/
theorem log_run_of_isComplete (h : Attends given session)
    (hfree : ∀ environment ∈ given, environment.Spares recorderId)
    (hcomplete : session.isComplete = true) (hplain : ∀ call ∈ calls, call.IsPlain) :
    (session.run calls).1.log = session.log :=
  (run_invariant
    (P := fun now => Attends given now ∧ now.isComplete = true ∧ now.log = session.log)
    (fun call hcall now hnow => by
      obtain ⟨hattends, hdone, hlog⟩ := hnow
      obtain ⟨hsame, hkept⟩ := hattends.log_perform hfree (hplain call hcall) hdone
      exact ⟨hattends.perform hfree (hplain call hcall), hkept, hsame.trans hlog⟩)
    ⟨h, hcomplete, rfl⟩).2.2

/-- A session is left once it was told so. -/
theorem isLeft_run (h : Attends given session)
    (hfree : ∀ environment ∈ given, environment.Spares recorderId)
    (hplain : ∀ call ∈ calls, call.IsPlain) :
    (session.run calls).1.isLeft = (session.isLeft || calls.any SessionCall.leaves) := by
  induction calls generalizing session with
  | nil => exact (Bool.or_false _).symm
  | cons call rest ih =>
    obtain ⟨hcall, hrest⟩ := List.forall_mem_cons.mp hplain
    rw [run_cons, ih (h.perform hfree hcall) hrest, h.isLeft_perform hcall,
      List.any_cons, Bool.or_assoc]

/-- Entries are appended and never taken back, whatever is called. -/
theorem log_prefix_perform (session : Session) (call : SessionCall) :
    session.log <+: (session.perform call).1.log := by
  rcases session.perform_cases call with ⟨entries, hobserves, -⟩ | ⟨_, _, answer, -, -, hanswers⟩
  · rw [hobserves.log_eq]
    exact List.prefix_append _ _
  · rw [hanswers.log_eq]
    exact List.prefix_append _ _

theorem log_prefix_run (session : Session) (calls : List SessionCall) :
    session.log <+: (session.run calls).1.log :=
  run_invariant (P := fun now => session.log <+: now.log)
    (fun call _ now hnow => hnow.trans (now.log_prefix_perform call)) List.prefix_rfl

/-- The journal of a session, whatever the learner, the host and the clock do, is as it should be. It
is closed exactly if the question is completed, and then nothing is added to it. The session has its
listeners at the host until it is completed or left. Journals only grow, and in the order of time if
the clock does not go back and is not put back. That nobody listens at the host under the number of
the session before it starts is all that the host is asked for. -/
theorem journal_kept {settings : Settings} {shared : Registry} {registry : Option Registry}
    {options : SessionOptions} {question : Json}
    (hstart : start? settings shared registry options question = .ok session)
    (hfree : ∀ environment ∈ options.environment, environment.Spares recorderId)
    (hplain : ∀ call ∈ calls, call.IsPlain) :
    let now := (session.run calls).1
    let isOver := now.isComplete || calls.any SessionCall.leaves
    Shaped now.log now.isComplete
    ∧ ((∃ entry ∈ now.log, entry.kind = .submit) ↔ now.isComplete = true)
    ∧ now.isComplete = now.traversal.isTerminal
    ∧ (now.isComplete = true →
      (∃ closing, now.log.getLast? = some closing ∧ closing.kind = .submit)
      ∧ ∀ more : List SessionCall, (∀ call ∈ more, call.IsPlain) →
        (now.run more).1.log = now.log)
    ∧ now.environment
      = options.environment.map (fun host => if isOver then host else host.attach recorderId)
    ∧ (∀ host, now.environment = some host → ∀ signal : Signal,
      host.listeners.count (signal.eventName, .recorder recorderId signal)
        = if isOver then 0 else 1)
    ∧ (∀ more, now.log <+: (now.run more).1.log)
    ∧ (options.clock.IsSteady → (∀ call ∈ calls, 0 ≤ call.elapsed) →
      now.log.Pairwise fun earlier later => earlier.timestamp ≤ later.timestamp) := by
  intro now isOver
  obtain ⟨flow, hsound, hbegins⟩ := exists_sound_of_start? hstart
  have hbegin : Attends options.environment session := attends_begin hstart
  have hopen : session.isComplete = false := by
    rw [isComplete, hbegins.result_eq]
    rfl
  have hnow : Attends options.environment now := attends_run hbegin hfree hplain
  have hshaped : Shaped now.log now.isComplete :=
    shaped_run hbegin hfree (hopen ▸ shaped_begin hbegins) hplain
  have hover : now.isOver = isOver := by
    rw [Session.isOver, isLeft_run hbegin hfree hplain, hbegins.isLeft_eq, Bool.false_or]
  have henvironment : now.environment
      = options.environment.map (fun host => if isOver then host else host.attach recorderId) := by
    have hfits := hnow.fits.environment_eq
    rw [hover] at hfits
    refine hfits.trans ?_
    cases isOver <;> simp
  refine ⟨hshaped, hshaped.exists_submit_iff, hnow.complete_eq, ?_, henvironment, ?_,
    now.log_prefix_run, ?_⟩
  · intro hcomplete
    rw [hcomplete] at hshaped
    exact ⟨hshaped.exists_getLast, fun more hmore =>
      log_run_of_isComplete hnow hfree hcomplete hmore⟩
  · intro host hhost signal
    rw [henvironment] at hhost
    obtain ⟨given, hgiven, rfl⟩ := Option.map_eq_some_iff.mp hhost
    have hspares := hfree given hgiven
    cases isOver with
    | true => exact hspares.count_eq _ signal
    | false => exact Environment.count_attach hspares signal
  · intro hsteady helapsed
    exact (chronological_run (chronological_begin hstart hsteady) hplain helapsed).sorted

end Session

namespace Detour

/-- A visit that completes the question, with the host telling of the focus before and after that. -/
def visit : List SessionCall :=
  [.emit "blur" [], .select "c", .submit "c", .advance 5, .submit "a", .submit "a",
    .emit "focus" []]

/-- The journal of the visit is closed, in the order of time, and nobody listens any more. -/
theorem visit_kept : ∃ session, started = .ok session
    ∧ Session.Shaped (session.run visit).1.log true
    ∧ (session.run visit).1.environment = some .empty
    ∧ (session.run visit).1.log.Pairwise fun earlier later =>
      earlier.timestamp ≤ later.timestamp := by
  have hnow : started.toOption.map (fun session => (session.run visit).1.isComplete)
      = some true := by decide +kernel
  cases hstart : started with
  | error error =>
    rw [hstart] at hnow
    cases hnow
  | ok session =>
    rw [hstart] at hnow
    have hcomplete : (session.run visit).1.isComplete = true := by
      simpa only [Except.toOption, Option.map_some, Option.some.injEq] using hnow
    have hfree : ∀ environment ∈ options.environment,
        environment.Spares Session.recorderId := by
      rintro _ ⟨⟩ event signal
      exact List.not_mem_nil
    have hplain : ∀ call ∈ visit, call.IsPlain := by simp [visit, SessionCall.IsPlain]
    obtain ⟨hshaped, -, -, -, henvironment, -, -, hsorted⟩ :=
      Session.journal_kept hstart hfree hplain
    rw [hcomplete] at hshaped henvironment
    exact ⟨session, rfl, hshaped, henvironment,
      hsorted (Clock.isSteady_still 0) (by simp [visit, SessionCall.elapsed])⟩

end Detour

end AdaptiveQuiz
