import AdaptiveQuiz.Proofs.Analytics.Erasure
import AdaptiveQuiz.Proofs.Catalog.Builtin
import AdaptiveQuiz.Proofs.Session.Safety
import AdaptiveQuiz.Proofs.Session.Setup
import AdaptiveQuiz.Proofs.Session.Timing
import AdaptiveQuiz.Proofs.Session.TypeLookup

/-!
# Observations do not influence the outcome

Selections of options and events of the host can be erased from a run. What remains is answered as
before, leads to the same stages and is completed in the same way. On a built-in type the record of the
analytics is the same, too, except for the few measures that are made for counting what was erased.

## Main definitions

* `Erasure.covers`, `Erasure.Erases`: the calls that are erased, and runs without some of them
* `Erasure.kept`: the replies to the other calls
* `Erasure.view`: a result without what depends on the calls that are erased
* `Erasure.Unnoticed`: two runs of which one is without some of the calls of the other

## Main statements

* `Session.parallel_of_mem_builtin`: on a built-in type, erased journals lead to the same results
* `Session.Parallel.perform_covered`: a call that is erased changes nothing but the erased journal
* `Session.observations_unnoticed`: erasing observations from a run
-/

namespace AdaptiveQuiz

namespace Erasure

variable {erasure : Erasure} {call : SessionCall} {calls fewer : List SessionCall}
  {reply : SessionReply} {replies : List SessionReply}

/-! ## Erasing calls -/

/-- Whether calls of a kind are erased. -/
def covers (erasure : Erasure) : SessionCall → Bool
  | .select _ => erasure.selections
  | .emit _ _ => erasure.signals
  | _ => false

/-- No time passes by calls that are erased. -/
theorem elapsed_of_covers (h : erasure.covers call = true) : call.elapsed = 0 := by
  cases call with
  | advance milliseconds => cases h
  | _ => rfl

/-- Some of the calls that are to be erased are left out of a run, wherever they stand. -/
inductive Erases (erasure : Erasure) : List SessionCall → List SessionCall → Prop where
  | nil : Erases erasure [] []
  | keep {calls fewer : List SessionCall} (call : SessionCall) (h : Erases erasure calls fewer) :
      Erases erasure (call :: calls) (call :: fewer)
  | drop {call : SessionCall} {calls fewer : List SessionCall} (hcovers : erasure.covers call = true)
      (h : Erases erasure calls fewer) : Erases erasure (call :: calls) fewer

/-- The replies to the calls that are not to be erased. -/
def kept (erasure : Erasure) (calls : List SessionCall) (replies : List SessionReply) :
    List SessionReply :=
  ((calls.zip replies).filter fun answered => !erasure.covers answered.1).map Prod.snd

theorem kept_cons_of_covers (h : erasure.covers call = true) :
    erasure.kept (call :: calls) (reply :: replies) = erasure.kept calls replies := by
  simp [kept, h]

theorem kept_cons_of_not_covers (h : erasure.covers call = false) :
    erasure.kept (call :: calls) (reply :: replies) = reply :: erasure.kept calls replies := by
  simp [kept, h]

/-- A result with a record that is masked. -/
def view (erasure : Erasure) (result : SubmissionResult) : SubmissionResult :=
  { result with analytics := result.analytics.map erasure.mask }

/-- Two runs, of which one is without some of the calls of the other: the other calls are answered in
the same way, and they lead to the same stages, counts and results. What is erased from the journal is
all that the journals differ in. -/
structure Unnoticed (erasure : Erasure) (calls fewer : List SessionCall)
    (now now' : Session × List SessionReply) : Prop where
  replies_eq : (erasure.kept calls now.2).map (SessionReply.through erasure.view)
    = (erasure.kept fewer now'.2).map (SessionReply.through erasure.view)
  traversal_eq : now.1.traversal = now'.1.traversal
  attempts_eq : ∀ stageId, now.1.attempts stageId = now'.1.attempts stageId
  result_eq : now.1.result.map erasure.view = now'.1.result.map erasure.view
  log_eq : erasure.quiet now.1.log = erasure.quiet now'.1.log

end Erasure

namespace Session

variable {erasure : Erasure} {session left right : Session} {call : SessionCall}
  {calls fewer : List SessionCall} {log log' : List LogEntry} {completion : Completion}

/-! ## Results on erased journals -/

/-- The analytics of the built-in types are the same on erased journals, to the mask. -/
theorem analytics_quiet {manifest : Manifest} (hbuiltin : manifest ∈ Manifest.builtin)
    (settings : Settings) (document : Document) (log : List LogEntry) (context : SessionContext) :
    (manifest.analytics settings document (erasure.quiet log) context).map erasure.mask
      = (manifest.analytics settings document log context).map erasure.mask := by
  rcases Manifest.mem_builtin.mp hbuiltin with rfl | rfl | rfl
  · exact Erasure.singleChoice_quiet document log
  · exact Erasure.multiStage_quiet document log
  · exact Erasure.multiStage_quiet document log

theorem view_resultOn_congr
    (h : (session.manifest.analytics session.settings session.document log session.context).map
        erasure.mask
      = (session.manifest.analytics session.settings session.document log' session.context).map
        erasure.mask) :
    erasure.view (session.resultOn log completion)
      = erasure.view (session.resultOn log' completion) := by
  unfold resultOn
  split
  · rfl
  · cases hleft : session.manifest.analytics session.settings session.document log
        session.context with
    | error failure =>
      rw [hleft] at h
      rw [except_map_eq_error.mp h.symm]
    | ok record =>
      cases hright : session.manifest.analytics session.settings session.document log'
          session.context with
      | error failure =>
        rw [hleft, hright] at h
        cases h
      | ok record' =>
        rw [hleft, hright] at h
        simp only [Erasure.view, Option.map_some, Except.ok.inj h]

/-- A session of a built-in type is side by side with itself if journals are erased. -/
theorem parallel_of_mem_builtin (hbuiltin : session.manifest ∈ Manifest.builtin) :
    Parallel erasure.view (fun log log' => erasure.quiet log = erasure.quiet log')
      session session where
  threshold_eq := rfl
  traversal_eq := rfl
  misses_eq := rfl
  result_eq := rfl
  capture_eq := rfl
  environment_eq := rfl
  clock_eq := rfl
  isLeft_eq := rfl
  log_alike := rfl
  append_alike := by
    intro log log' entry h
    rw [Erasure.quiet_append, Erasure.quiet_append, h]
  view_resultOn := by
    intro log log' completion h
    refine view_resultOn_congr ?_
    rw [← analytics_quiet hbuiltin, h, analytics_quiet hbuiltin]

/-! ## Calls that are erased -/

namespace Parallel

variable {view : SubmissionResult → SubmissionResult}

/-- What is noted on one side only does not matter if it is erased, but for the reading it takes. -/
theorem note_left
    (h : Parallel view (fun log log' => erasure.quiet log = erasure.quiet log') left right)
    {event : Event} (hsilent : erasure.silences event.kind = true) :
    Parallel view (fun log log' => erasure.quiet log = erasure.quiet log') (left.note event)
      (right.timed (left.note event).clock) where
  __ := h
  clock_eq := rfl
  log_alike := by
    have hentry : erasure.quiet [.ofEvent left.clock.now event] = [] := by
      simp [Erasure.quiet, LogEntry.ofEvent, hsilent]
    rw [(observes_note left event).log_eq, Erasure.quiet_append, hentry, List.append_nil]
    exact h.log_alike

/-- A session that is side by side with another is so on its own clock. -/
theorem timed_right {alike : List LogEntry → List LogEntry → Prop}
    (h : Parallel view alike left right) : right.timed left.clock = right := by
  rw [h.clock_eq]
  rfl

/-- A call that is erased changes nothing but the clock and the part of the journal that is
erased. -/
theorem perform_covered
    (h : Parallel view (fun log log' => erasure.quiet log = erasure.quiet log') left right)
    (hcovers : erasure.covers call = true) :
    Parallel view (fun log log' => erasure.quiet log = erasure.quiet log') (left.perform call).1
      (right.timed (left.perform call).1.clock) := by
  cases call with
  | select optionId =>
    simp only [Session.perform, select]
    cases hselect : left.traversal.select optionId with
    | error error =>
      simp only [h.timed_right]
      exact h
    | ok event =>
      refine h.note_left ?_
      rw [Traversal.select_eq_ok hselect]
      exact hcovers
  | emit event detail =>
    simp only [Session.perform, Session.emit]
    cases left.environment with
    | none =>
      simp only [h.timed_right]
      exact h
    | some environment =>
      -- each listener that hears the event notes a signal, or does nothing
      refine List.foldlRecOn (motive := fun now => Parallel view _ now (right.timed now.clock)) _ _
        (h.timed_right.symm ▸ h) fun now hnow listener _ => ?_
      cases listener with
      | host name => exact hnow
      | recorder id signal =>
        simp only [Session.hear]
        split
        · refine hnow.note_left ?_
          rcases signal.kind_event detail with hkind | hkind <;> rw [hkind] <;> exact hcovers
        · exact hnow
  | submit optionId => cases hcovers
  | advance milliseconds => cases hcovers
  | log kind payload => cases hcovers
  | recapture => cases hcovers
  | leave => cases hcovers
  | abort => cases hcovers

/-- Two runs, of which one is without calls that are erased, stay side by side if the one without
them is made on a suitable clock. If the clock stands still, it is suitable itself. -/
theorem run_erases
    (h : Parallel erasure.view (fun log log' => erasure.quiet log = erasure.quiet log') left right)
    (herases : erasure.Erases calls fewer) :
    ∃ clock, (left.clock.IsStill → clock = left.clock)
      ∧ Parallel erasure.view (fun log log' => erasure.quiet log = erasure.quiet log')
        (left.run calls).1 ((right.timed clock).run fewer).1
      ∧ (erasure.kept calls (left.run calls).2).map (SessionReply.through erasure.view)
        = (erasure.kept fewer ((right.timed clock).run fewer).2).map
          (SessionReply.through erasure.view) := by
  induction herases generalizing left right with
  | nil => exact ⟨left.clock, fun _ => rfl, by rw [h.timed_right]; exact h, rfl⟩
  | keep call _ ih =>
    obtain ⟨hnext, hreply⟩ := h.perform call
    obtain ⟨last, hlast, hparallel, hreplies⟩ := ih hnext
    -- the call is made on a clock that leaves the one that the other calls need
    obtain ⟨clock, hperform, hclock⟩ := right.exists_timed_perform call last
    refine ⟨clock, fun hstill => ?_, ?_, ?_⟩
    · rw [h.clock_eq]
      refine hclock ?_
      rw [← hnext.clock_eq]
      refine hlast ?_
      rw [clock_perform_of_isStill hstill]
      exact hstill.advance call.elapsed
    · rw [run_cons, run_cons, hperform]
      exact hparallel
    · rw [run_cons, run_cons, hperform]
      cases hcovers : erasure.covers call with
      | true =>
        rw [Erasure.kept_cons_of_covers hcovers, Erasure.kept_cons_of_covers hcovers]
        exact hreplies
      | false =>
        rw [Erasure.kept_cons_of_not_covers hcovers, Erasure.kept_cons_of_not_covers hcovers,
          List.map_cons, List.map_cons, hreply]
        exact congrArg _ hreplies
  | @drop call _ _ hcovers _ ih =>
    obtain ⟨last, hlast, hparallel, hreplies⟩ := ih (h.perform_covered hcovers)
    refine ⟨last, fun hstill => ?_, hparallel, ?_⟩
    · have hsame := clock_perform_of_isStill hstill call
      rw [Erasure.elapsed_of_covers hcovers, Clock.advance_zero] at hsame
      rw [← hsame] at hstill ⊢
      exact hlast hstill
    · rw [run_cons, Erasure.kept_cons_of_covers hcovers]
      exact hreplies

end Parallel

/-- On a question of a built-in type, no observation makes a difference. If selections are left out
of a run, or events of the host, or both, then what remains is answered in the same way, the
question takes the same course and comes to the same result, and the journals are the same but for
the entries about what was left out. In the record, only the cognitive load depends on selections,
and only the measures of distraction and focus depend on events of the host. If the clock stands
still but for the time that is let pass, this is so on the same clock; on any other clock, the
readings for the entries that are left out are left out as well. -/
theorem observations_unnoticed (hbuiltin : session.manifest ∈ Manifest.builtin)
    (herases : erasure.Erases calls fewer) :
    (session.clock.IsStill →
      erasure.Unnoticed calls fewer (session.run calls) (session.run fewer))
    ∧ ∃ clock, erasure.Unnoticed calls fewer (session.run calls)
      ((session.timed clock).run fewer) := by
  obtain ⟨clock, hclock, hlast, hreplies⟩ := (parallel_of_mem_builtin hbuiltin).run_erases herases
  have hunnoticed : erasure.Unnoticed calls fewer (session.run calls)
      ((session.timed clock).run fewer) := by
    refine ⟨hreplies, hlast.traversal_eq, fun stageId => ?_, hlast.result_eq, hlast.log_alike⟩
    rw [attempts, attempts, hlast.misses_eq]
  refine ⟨fun hstill => ?_, clock, hunnoticed⟩
  rw [hclock hstill] at hunnoticed
  exact hunnoticed

end Session

namespace Detour

/-- A visit with a selection and a loss of focus. -/
def observed : List SessionCall :=
  [.emit "blur" [], .select "c", .submit "c", .submit "a", .submit "a"]

/-- The visit without them. -/
def unobserved : List SessionCall := [.submit "c", .submit "a", .submit "a"]

/-- The loss of focus is counted, and the results are the same otherwise. -/
theorem observed_unnoticed : ∃ session result result', started = .ok session
    ∧ (session.run observed).1.result = some result
    ∧ (session.run unobserved).1.result = some result'
    ∧ result.analytics.map AnalyticsRecord.distractionScore = some 20
    ∧ result'.analytics.map AnalyticsRecord.distractionScore = some 0
    ∧ (Erasure.mk true true).view result = (Erasure.mk true true).view result' := by
  have hnow : started.toOption.bind (fun session =>
      (session.run observed).1.result.bind fun result =>
        (session.run unobserved).1.result.map fun result' =>
          (result.analytics.map AnalyticsRecord.distractionScore,
            result'.analytics.map AnalyticsRecord.distractionScore))
      = some (some 20, some 0) := by decide +kernel
  obtain ⟨session, hstart, hcompleted⟩ := except_toOption_bind_eq_some.mp hnow
  obtain ⟨result, hresult, hcompleted'⟩ := Option.bind_eq_some_iff.mp hcompleted
  obtain ⟨result', hresult', hscores⟩ := Option.map_eq_some_iff.mp hcompleted'
  obtain ⟨hscore, hscore'⟩ := Prod.mk.inj hscores
  have hbuiltin : session.manifest ∈ Manifest.builtin := Session.manifest_mem_builtin hstart
  have herases : (Erasure.mk true true).Erases observed unobserved :=
    .drop rfl (.drop rfl (.keep _ (.keep _ (.keep _ .nil))))
  have hstill : session.clock.IsStill := by
    rw [Session.clock_of_start? hstart]
    exact Clock.isStill_still 0
  have hresults := ((Session.observations_unnoticed hbuiltin herases).1 hstill).result_eq
  rw [hresult, hresult', Option.map_some, Option.map_some, Option.some.injEq] at hresults
  exact ⟨session, result, result', hstart, hresult, hresult', hscore, hscore', hresults⟩

end Detour

end AdaptiveQuiz
