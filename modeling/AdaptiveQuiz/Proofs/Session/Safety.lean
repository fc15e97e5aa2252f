import AdaptiveQuiz.Catalog.Builtin
import AdaptiveQuiz.Proofs.Session.Start
import AdaptiveQuiz.Proofs.Session.Step

/-!
# Safety of sessions

Whatever is done with a started session, its traversal stays on a sound flow. So every option that
the learner is offered can be answered, and there are two reasons left to refuse a call: the question
is completed, or the stage shown does not offer the option. A call that is refused changes nothing.

## Main statements

* `Session.onCourse_run`: a run keeps the traversal of a session on course
* `Session.refused_exactly`: which calls are refused, and that they change nothing
-/

namespace AdaptiveQuiz

namespace Session

variable {session : Session}

/-! ## Staying on course -/

theorem onCourse_perform (h : session.traversal.OnCourse) (call : SessionCall) :
    (session.perform call).1.traversal.OnCourse := by
  rcases session.perform_cases call with ⟨entries, hobserves, -⟩ | ⟨_, _, answer, -, -, hanswers⟩
  · -- the traversal is left alone
    rw [hobserves.traversal_eq]
    exact h
  · exact h.step hanswers.step

/-- A run keeps the traversal of a session on course. -/
theorem onCourse_run (h : session.traversal.OnCourse) (calls : List SessionCall) :
    (session.run calls).1.traversal.OnCourse :=
  run_invariant (P := fun session => session.traversal.OnCourse)
    (fun call _ _ hcourse => onCourse_perform hcourse call) h

/-! ## Refused calls -/

theorem perform_select_eq_refused {optionId : String} {error : TraversalError} :
    (session.perform (.select optionId)).2 = .refused error
      ↔ session.traversal.Refuses optionId error := by
  rw [← Traversal.select_eq_error]
  simp only [perform, select]
  cases session.traversal.select optionId with
  | error error' => simp
  | ok event => simp

/-- On course, a submission that is let through is answered: its action can be carried out. -/
theorem perform_submit_of_accepted {optionId : String} {submitted : Submitted}
    (h : session.traversal.OnCourse) (haccepted : session.traversal.submit optionId = .ok submitted) :
    ∃ step, (session.perform (.submit optionId)).2 = .stepped step := by
  -- what is carried out is the action of the option or a loop
  have hok : ∀ error,
      (session.traversal.carryOut (.action (session.taken submitted))).2 ≠ .error error :=
    fun error => h.carryOut_isOk haccepted (session.taken_eq submitted)
  simp only [perform, submit_of_accepted haccepted]
  cases hanswer : (session.traversal.carryOut (.action (session.taken submitted))).2 with
  | error error => exact absurd hanswer (hok error)
  | ok completion? =>
    cases completion? with
    | none => exact ⟨_, rfl⟩
    | some completion => exact ⟨_, rfl⟩

theorem perform_submit_of_refused {optionId : String} {error : TraversalError}
    (hrefused : session.traversal.submit optionId = .error error) :
    session.perform (.submit optionId) = (session, .refused error) := by
  simp only [perform, submit_of_refused hrefused]

theorem perform_submit_eq_refused (h : session.traversal.OnCourse) {optionId : String}
    {error : TraversalError} :
    (session.perform (.submit optionId)).2 = .refused error
      ↔ session.traversal.Refuses optionId error := by
  rw [← h.submit_eq_error]
  cases hsubmit : session.traversal.submit optionId with
  | error error' => simp [perform_submit_of_refused hsubmit]
  | ok submitted =>
    obtain ⟨step, hstep⟩ := perform_submit_of_accepted h hsubmit
    simp [hstep]

/-- Only choosing an option can be refused, and then nothing is changed. -/
theorem perform_eq_self_of_refused (h : session.traversal.OnCourse) {call : SessionCall}
    {error : TraversalError} (hrefused : (session.perform call).2 = .refused error) :
    (session.perform call).1 = session := by
  -- the calls that choose an option are refused before anything is noted, the others never
  cases call with
  | select optionId =>
    have hselect : session.traversal.select optionId = .error error :=
      Traversal.select_eq_error.mpr (perform_select_eq_refused.mp hrefused)
    simp only [perform, select, hselect]
  | submit optionId =>
    have hsubmit : session.traversal.submit optionId = .error error :=
      h.submit_eq_error.mpr ((perform_submit_eq_refused h).mp hrefused)
    rw [perform_submit_of_refused hsubmit]
  | emit event detail => cases hrefused
  | advance milliseconds => cases hrefused
  | log kind payload =>
    simp only [perform] at hrefused
    split at hrefused <;> cases hrefused
  | recapture =>
    simp only [perform] at hrefused
    split at hrefused <;> cases hrefused
  | leave => cases hrefused
  | abort => cases hrefused

/-- At any time after its start, a session refuses to select or submit an option if the question is
completed or the stage shown does not offer the option, for this reason and for no other, and
otherwise it does as told. A call that is refused leaves the session as it is. -/
theorem refused_exactly {settings : Settings} {shared : Registry} {given : Option Registry}
    {options : SessionOptions} {question : Json}
    (hstart : start? settings shared given options question = .ok session)
    (calls : List SessionCall) :
    let now := (session.run calls).1
    (∀ optionId error, (now.perform (.select optionId)).2 = .refused error
      ↔ now.traversal.Refuses optionId error)
    ∧ (∀ optionId error, (now.perform (.submit optionId)).2 = .refused error
      ↔ now.traversal.Refuses optionId error)
    ∧ (∀ optionId, (¬ ∃ error, now.traversal.Refuses optionId error) →
      (now.perform (.select optionId)).2 = .done
        ∧ ∃ step, (now.perform (.submit optionId)).2 = .stepped step)
    ∧ ∀ call error, (now.perform call).2 = .refused error → (now.perform call).1 = now := by
  intro now
  obtain ⟨flow, hsound, hbegins⟩ := exists_sound_of_start? hstart
  have hcourse : now.traversal.OnCourse :=
    onCourse_run (Traversal.onCourse_of_start? hsound hbegins.traversal_eq) calls
  refine ⟨fun _ _ => perform_select_eq_refused, fun _ _ => perform_submit_eq_refused hcourse, ?_,
    fun _ _ => perform_eq_self_of_refused hcourse⟩
  intro optionId hfree
  constructor
  · cases hselect : now.traversal.select optionId with
    | error error => exact absurd ⟨error, Traversal.select_eq_error.mp hselect⟩ hfree
    | ok event => simp only [perform, select, hselect]
  · cases hsubmit : now.traversal.submit optionId with
    | error error => exact absurd ⟨error, hcourse.submit_eq_error.mp hsubmit⟩ hfree
    | ok submitted => exact perform_submit_of_accepted hcourse hsubmit

end Session

/-! ## A session on the question with a detour -/

namespace Detour

/-- A raw question with its type. -/
def typed (type : String) : Json → Json
  | .object fields => .object (("meta", .object [("type", .text type)]) :: fields)
  | value => value

/-- A session that listens to a host and holds remediation back once. -/
def options : SessionOptions := ⟨.anonymous, false, some 2, some .empty, .still 0⟩

/-- The question with a detour, started on the built-in types. -/
def started : Except StartFailure Session :=
  Session.start? .standard (Registry.shared .standard).1 none options (typed "mcq-declarative" raw)

/-- After a wrong answer, which leads to `TRY` only at the second attempt, and a right one, which
leads to `LAST`, an option that only `ASK` has is refused. -/
theorem refused : ∃ session, started = .ok session
    ∧ ((session.run [.submit "c", .submit "a"]).1.perform (.submit "c")).2
      = .refused (.unknownOption "c" "LAST")
    ∧ ((session.run [.submit "c", .submit "a"]).1.perform (.submit "c")).1
      = (session.run [.submit "c", .submit "a"]).1 := by
  have hnow : started.toOption.map (fun session =>
      let shown := (session.run [.submit "c", .submit "a"]).1.traversal
      (shown.completion, shown.current.id, shown.current.options.map StageOption.id))
        = some (none, "LAST", ["a", "b"]) := by decide +kernel
  cases hstart : started with
  | error error =>
    rw [hstart] at hnow
    cases hnow
  | ok session =>
    rw [hstart] at hnow
    obtain ⟨hactive, hid, hoffered⟩ : _ ∧ _ ∧ _ := by
      simpa only [Except.toOption, Option.map_some, Option.some.injEq, Prod.mk.injEq] using hnow
    obtain ⟨-, hsubmit, -, hunchanged⟩ :=
      Session.refused_exactly hstart [.submit "c", .submit "a"]
    have hrefuses : (session.run [.submit "c", .submit "a"]).1.traversal.Refuses "c"
        (.unknownOption "c" "LAST") := by
      rw [← hid]
      refine .notOffered hactive fun option hoption hc => ?_
      have hmem : option.id ∈ ["a", "b"] := hoffered ▸ List.mem_map_of_mem hoption
      rw [hc] at hmem
      exact absurd hmem (by decide)
    have hrefused := (hsubmit "c" _).mpr hrefuses
    exact ⟨session, rfl, hrefused, hunchanged _ _ hrefused⟩

end Detour

end AdaptiveQuiz
