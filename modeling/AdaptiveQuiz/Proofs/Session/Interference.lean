import AdaptiveQuiz.Proofs.Session.Completion

/-!
# Analytics do not interfere

The analytics of a question are computed when all is over: the last entry is made, the host is no
longer listened to, and the outcome is known. So neither they nor what only they depend on can make a
difference to a session. Two sessions whose manifests differ in the analytics, and which differ in the
context and in being a preview, are the same up to the record and the reason why there is none.

## Main definitions

* `Registry.withAnalytics`: a registry with other analytics
* `Manifest.bare`, `Registry.bare`, `SessionOptions.bare`, `Session.bare`, `SubmissionResult.bare`: what
  is left without the analytics and what they depend on
* `SubmissionResult.Discloses`: a result that tells how the analytics went
* `Session.SameButAnalytics`: two runs that differ in the analytics at most
* `Session.Concluded`: a result of a session, with the journal that the analytics were computed on

## Main statements

* `Session.start?_bare`: whether a session starts does not depend on the analytics
* `Session.parallel_of_bare_eq`: sessions that differ in the analytics are side by side
* `Session.analytics_apart`: what differs between their runs
-/

namespace AdaptiveQuiz

/-! ## Without analytics -/

/-- A manifest with analytics that always fail. -/
def Manifest.bare (manifest : Manifest) : Manifest :=
  { manifest with analytics := fun _ _ _ _ => .error .noTerminalEvent }

/-- Dictionaries stay coherent as long as no manifest changes its id or its version. -/
theorem Registry.Coherent.map {manifests : Dictionary Manifest} {latest : Dictionary Int}
    (h : Coherent manifests latest) {f : Manifest → Manifest}
    (hid : ∀ manifest, (f manifest).id = manifest.id)
    (hversion : ∀ manifest, (f manifest).version = manifest.version) :
    Coherent (manifests.map f) latest where
  key_eq := by
    intro key found hfound
    rw [Dictionary.get?_map, Option.map_eq_some_iff] at hfound
    obtain ⟨manifest, hget, rfl⟩ := hfound
    rw [Manifest.key, hid, hversion]
    exact h.key_eq hget
  exists_latest := by
    intro id version hlatest
    obtain ⟨manifest, hget⟩ := h.exists_latest hlatest
    exact ⟨f manifest, by rw [Dictionary.get?_map, hget, Option.map_some]⟩
  le_latest := by
    intro key found hfound
    rw [Dictionary.get?_map, Option.map_eq_some_iff] at hfound
    obtain ⟨manifest, hget, rfl⟩ := hfound
    rw [hid, hversion]
    exact h.le_latest hget

/-- A registry with other analytics. They play no part in the keys and versions of its manifests. -/
def Registry.withAnalytics (registry : Registry) (analytics : Manifest → AnalyticsFunction) :
    Registry where
  overwrites := registry.overwrites
  manifests := registry.manifests.map fun manifest =>
    { manifest with analytics := analytics manifest }
  latest := registry.latest
  isFrozen := registry.isFrozen
  coherent := registry.coherent.map (fun _ => rfl) fun _ => rfl

/-- A registry of manifests without analytics. -/
def Registry.bare (registry : Registry) : Registry :=
  registry.withAnalytics fun _ _ _ _ _ => .error .noTerminalEvent

/-- Options without what only analytics depend on. -/
def SessionOptions.bare (options : SessionOptions) : SessionOptions :=
  { options with context := .anonymous, isPreview := false }

/-- A session without analytics and what only they depend on. -/
def Session.bare (session : Session) : Session :=
  { session with manifest := session.manifest.bare, context := .anonymous, isPreview := false }

/-- A result without the record, and without the reason why there is none. -/
def SubmissionResult.bare (result : SubmissionResult) : SubmissionResult :=
  { result with analytics := none, analyticsError := none }

/-- A result that tells how the analytics went: there is a record unless they were left out in a
preview or failed, and there is a reason if they were not left out and failed. -/
structure SubmissionResult.Discloses (result : SubmissionResult) (isPreview : Bool)
    (outcome : Except AnalyticsFailure AnalyticsRecord) : Prop where
  analytics_eq_none_iff :
    result.analytics = none ↔ isPreview = true ∨ ∃ failure, outcome = .error failure
  error_isSome_iff :
    result.analyticsError.isSome = true ↔ isPreview = false ∧ ∃ failure, outcome = .error failure
  outcome_of_analytics : ∀ record, result.analytics = some record → outcome = .ok record
  outcome_of_error : ∀ text, result.analyticsError = some text →
    ∃ failure, outcome = .error failure ∧ text = failure.message

/-! ## Look-ups -/

namespace Registry

theorem size_bare (registry : Registry) : registry.bare.size = registry.size :=
  List.length_map _

theorem find?_bare (registry : Registry) (id : String) (version : Int) :
    registry.bare.find? id version = (registry.find? id version).map Manifest.bare :=
  registry.manifests.get?_map Manifest.bare _

theorem get?_bare (registry : Registry) (id : String) (version : Option Int) :
    registry.bare.get? id version = (registry.get? id version).map Manifest.bare := by
  have hlatest : registry.bare.latest = registry.latest := rfl
  rw [get?, get?, hlatest, Option.map_bind]
  congr 1
  exact funext fun _ => registry.find?_bare id _

/-- A manifest is found whatever its analytics are. -/
theorem require_bare (registry : Registry) (id : String) (version : Option Int) :
    registry.bare.require id version = (registry.require id version).map Manifest.bare := by
  have hkeys : registry.bare.manifests.keys = registry.manifests.keys :=
    Dictionary.keys_map _ _
  simp only [require, get?_bare, hkeys]
  cases registry.get? id version <;> rfl

/-- Whatever the analytics were, none of them are left. -/
theorem bare_withAnalytics (registry : Registry) (analytics : Manifest → AnalyticsFunction) :
    (registry.withAnalytics analytics).bare = registry.bare := by
  simp [bare, withAnalytics, Dictionary.map, Function.comp_def]

end Registry

namespace Session

variable {settings : Settings} {shared shared' : Registry} {given given' : Option Registry}
  {options options' : SessionOptions} {question : Json} {session left right : Session}
  {result : SubmissionResult}

/-! ## Starting -/

theorem chooseRegistry_bare (shared : Registry) (given : Option Registry) :
    chooseRegistry shared.bare (given.map Registry.bare) = (chooseRegistry shared given).bare := by
  cases given with
  | none => rfl
  | some registry =>
    simp only [chooseRegistry, Option.map_some, Registry.size_bare]
    split <;> rfl

theorem manifestFor_bare (registry : Registry) (question : Json) :
    manifestFor registry.bare question = (manifestFor registry question).map Manifest.bare := by
  simp only [manifestFor, Registry.require_bare]
  cases Routing.resolve question with
  | error error => rfl
  | ok named =>
    show ((registry.require named.1 named.2).map Manifest.bare).mapError StartError.unknownType
      = ((registry.require named.1 named.2).mapError StartError.unknownType).map Manifest.bare
    cases registry.require named.1 named.2 <;> rfl

theorem prepare?_bare (settings : Settings) (shared : Registry) (given : Option Registry)
    (options : SessionOptions) (question : Json) :
    prepare? settings shared.bare (given.map Registry.bare) options.bare question
      = (prepare? settings shared given options question).map bare := by
  -- of all steps only the first one sees a difference, and it finds the manifest all the same
  simp only [prepare?, chooseRegistry_bare, manifestFor_bare, except_bind_map, except_map_bind]
  rfl

/-- A session starts, or fails to, whatever the analytics are. -/
theorem start?_bare (settings : Settings) (shared : Registry) (given : Option Registry)
    (options : SessionOptions) (question : Json) :
    start? settings shared.bare (given.map Registry.bare) options.bare question
      = (start? settings shared given options question).map bare := by
  simp only [start?, prepare?_bare]
  cases prepare? settings shared given options question with
  | ok prepared => rfl
  | error error => rfl

/-! ## Side by side -/

/-- But for the analytics, a result is its completion. -/
theorem bare_resultOn (session : Session) (log : List LogEntry) (completion : Completion) :
    (session.resultOn log completion).bare = ⟨completion.isCorrect, completion, none, none⟩ := by
  unfold resultOn
  split
  · rfl
  · cases session.manifest.analytics session.settings session.document log session.context <;> rfl

/-- Sessions that differ in the analytics are side by side. -/
theorem parallel_of_bare_eq (h : left.bare = right.bare) :
    Parallel SubmissionResult.bare Eq left right where
  threshold_eq := congrArg (·.threshold) h
  traversal_eq := congrArg (·.traversal) h
  misses_eq := congrArg (·.misses) h
  result_eq := congrArg (·.result.map SubmissionResult.bare) h
  capture_eq := congrArg (·.recorder.capture) h
  environment_eq := congrArg (·.environment) h
  clock_eq := congrArg (·.clock) h
  isLeft_eq := congrArg (·.isLeft) h
  log_alike := congrArg (·.log) h
  append_alike := by
    rintro log _ entry rfl
    rfl
  view_resultOn := by
    intro log log' completion _
    rw [bare_resultOn, bare_resultOn]

/-! ## Results -/

theorem discloses_resultOn (session : Session) (log : List LogEntry) (completion : Completion) :
    (session.resultOn log completion).Discloses session.isPreview
      (session.manifest.analytics session.settings session.document log session.context) := by
  unfold resultOn
  cases session.isPreview with
  | true =>
    rw [if_pos rfl]
    exact ⟨by simp, by simp, by simp, by simp⟩
  | false =>
    rw [if_neg Bool.false_ne_true]
    cases session.manifest.analytics session.settings session.document log session.context with
    | ok record => exact ⟨by simp, by simp, by simp, by simp⟩
    | error failure => exact ⟨by simp, by simp, by simp, by simp⟩

/-- The result of a session that was started with some settings and options, with the journal that
the analytics were computed on: the last entry of it is the completion. -/
structure Concluded (settings : Settings) (options : SessionOptions) (session now : Session)
    (result : SubmissionResult) : Prop where
  completion_eq : now.traversal.completion = some result.completion
  isCorrect_eq : result.isCorrect = result.completion.isCorrect
  discloses : ∃ journal time,
    journal ++ [.ofEvent time ⟨.submit, result.completion.toJson⟩] <+: now.log
    ∧ result.Discloses options.isPreview (session.manifest.analytics settings session.document
      (journal ++ [.ofEvent time ⟨.submit, result.completion.toJson⟩]) options.context)

theorem concluded_of_result {calls : List SessionCall}
    (hstart : start? settings shared given options question = .ok session)
    (hresult : (session.run calls).1.result = some result) :
    Concluded settings options session (session.run calls).1 result := by
  obtain ⟨hsettings, hcontext, hpreview⟩ := options_of_start? hstart
  obtain ⟨first, rest, optionId, submitted, completion, step, hcompleted, hcomputed⟩ :=
    completedBy_of_result hstart hresult
  obtain ⟨hcompletion, hcorrect⟩ := hcompleted.result_completion hresult
  refine ⟨hcompletion ▸ hcompleted.ended, by rw [hcompletion]; exact hcorrect, ?_⟩
  -- the result was computed on the journal as the completion left it, and entries came after it
  have hdiscloses := session.discloses_resultOn
    (session.run (first ++ [.submit optionId])).1.log completion
  rw [← hcomputed, hsettings, hcontext, hpreview, hcompleted.log_eq] at hdiscloses
  obtain ⟨entries, hobserves, -⟩ := hcompleted.adds
  rw [hobserves.log_eq, hcompleted.log_eq, hcompletion]
  exact ⟨_, _, List.prefix_append _ _, hdiscloses⟩

/-- A question is completed exactly when its flow has ended, even if the analytics fail. -/
theorem isComplete_eq_isTerminal
    (hstart : start? settings shared given options question = .ok session)
    (calls : List SessionCall) :
    (session.run calls).1.isComplete = (session.run calls).1.traversal.isTerminal := by
  rcases active_or_completedBy_of_start? hstart calls with
    hactive | ⟨first, rest, optionId, submitted, completion, step, hcompleted⟩
  · rw [isComplete, hactive.2, Traversal.isTerminal, hactive.1]
    rfl
  · rw [isComplete, hcompleted.result_eq, hcompleted.completed_eq, Traversal.isTerminal,
      hcompleted.ended]
    rfl

/-! ## Runs -/

/-- Two sessions with the replies that led to them, which differ in the analytics at most. -/
structure SameButAnalytics (now now' : Session × List SessionReply) : Prop where
  log_eq : now.1.log = now'.1.log
  attempts_eq : ∀ stageId, now.1.attempts stageId = now'.1.attempts stageId
  traversal_eq : now.1.traversal = now'.1.traversal
  environment_eq : now.1.environment = now'.1.environment
  replies_eq : now.2.map (SessionReply.through .bare) = now'.2.map (SessionReply.through .bare)
  isComplete_eq : now.1.isComplete = now'.1.isComplete
  outcome_eq : ∀ result result', now.1.result = some result → now'.1.result = some result' →
    result.isCorrect = result'.isCorrect ∧ result.completion = result'.completion

theorem Parallel.sameButAnalytics (h : Parallel SubmissionResult.bare Eq left right)
    (calls : List SessionCall) : SameButAnalytics (left.run calls) (right.run calls) := by
  obtain ⟨hnow, hreplies⟩ := h.run calls
  have hresult := hnow.result_eq
  refine ⟨hnow.log_alike, fun stageId => ?_, hnow.traversal_eq, hnow.environment_eq, hreplies, ?_, ?_⟩
  · rw [attempts, attempts, hnow.misses_eq]
  · rw [isComplete, isComplete, ← Option.isSome_map, hresult, Option.isSome_map]
  · intro result result' hleft hright
    rw [hleft, hright, Option.map_some, Option.map_some, Option.some.injEq] at hresult
    exact ⟨congrArg (·.isCorrect) hresult, congrArg (·.completion) hresult⟩

/-- Whether a question starts, how it goes and what becomes of it does not depend on the analytics, on
the context of the learner and on whether it is a preview. Each session tells how its own analytics
went, and its question is completed whether they failed or not. -/
theorem analytics_apart (hshared : shared.bare = shared'.bare)
    (hgiven : given.map Registry.bare = given'.map Registry.bare)
    (hoptions : options.bare = options'.bare) :
    (∀ failure, start? settings shared given options question = .error failure
      ↔ start? settings shared' given' options' question = .error failure)
    ∧ ∀ left right, start? settings shared given options question = .ok left →
      start? settings shared' given' options' question = .ok right →
      ∀ calls, SameButAnalytics (left.run calls) (right.run calls)
        ∧ (left.run calls).1.isComplete = (left.run calls).1.traversal.isTerminal
        ∧ (∀ result, (left.run calls).1.result = some result →
          Concluded settings options left (left.run calls).1 result)
        ∧ ∀ result, (right.run calls).1.result = some result →
          Concluded settings options' right (right.run calls).1 result := by
  have hstarts : (start? settings shared given options question).map bare
      = (start? settings shared' given' options' question).map bare := by
    rw [← start?_bare, ← start?_bare, hshared, hgiven, hoptions]
  constructor
  · intro failure
    rw [← except_map_eq_error (f := bare), hstarts, except_map_eq_error]
  · intro left right hleft hright calls
    rw [hleft, hright] at hstarts
    have hparallel := parallel_of_bare_eq (Except.ok.inj hstarts)
    exact ⟨hparallel.sameButAnalytics calls, isComplete_eq_isTerminal hleft calls,
      fun result => concluded_of_result hleft, fun result => concluded_of_result hright⟩

end Session

namespace Detour

/-- The built-in types with analytics that are out of order. -/
def failing : Registry :=
  (Registry.shared .standard).1.withAnalytics fun _ _ _ _ _ => .error (.raised "out of order")

/-- The options for a learner with a session of their own. -/
def optionsOfLearner : SessionOptions :=
  { options with context := { SessionContext.anonymous with sessionId := "s1" } }

/-- The question with a detour, started for this learner on types whose analytics are out of order. -/
def startedFailing : Except StartFailure Session :=
  Session.start? .standard failing none optionsOfLearner (typed "mcq-declarative" raw)

/-- With analytics and without, the same is entered for the same answers, and the question is completed
in the same way. -/
theorem failing_apart : ∃ left right result result', started = .ok left ∧ startedFailing = .ok right
    ∧ (left.run [.submit "c", .submit "a", .submit "a"]).1.log
      = (right.run [.submit "c", .submit "a", .submit "a"]).1.log
    ∧ (left.run [.submit "c", .submit "a", .submit "a"]).1.result = some result
    ∧ (right.run [.submit "c", .submit "a", .submit "a"]).1.result = some result'
    ∧ result.completion = result'.completion
    ∧ result'.analytics = none ∧ result'.analyticsError = some "out of order" := by
  have hleftNow : started.toOption.bind (fun session =>
      (session.run [.submit "c", .submit "a", .submit "a"]).1.result.map
        SubmissionResult.analyticsError) = some none := by decide +kernel
  have hrightNow : startedFailing.toOption.bind (fun session =>
      (session.run [.submit "c", .submit "a", .submit "a"]).1.result.map
        SubmissionResult.analyticsError) = some (some "out of order") := by decide +kernel
  obtain ⟨left, hleft, hcompleted⟩ := except_toOption_bind_eq_some.mp hleftNow
  obtain ⟨right, hright, hcompleted'⟩ := except_toOption_bind_eq_some.mp hrightNow
  obtain ⟨result, hresult, -⟩ := Option.map_eq_some_iff.mp hcompleted
  obtain ⟨result', hresult', herror⟩ := Option.map_eq_some_iff.mp hcompleted'
  have hshared : (Registry.shared .standard).1.bare = failing.bare :=
    (Registry.bare_withAnalytics _ _).symm
  have hgiven : (none : Option Registry).map Registry.bare
      = (none : Option Registry).map Registry.bare := rfl
  have hoptions : options.bare = optionsOfLearner.bare := rfl
  obtain ⟨-, hruns⟩ := Session.analytics_apart hshared hgiven hoptions
  obtain ⟨hsame, -, -, hconcluded⟩ := hruns left right hleft hright
    [.submit "c", .submit "a", .submit "a"]
  obtain ⟨journal, time, -, hdiscloses⟩ := (hconcluded result' hresult').discloses
  -- the reason is given because the analytics failed, so there is no record
  obtain ⟨failure, hfailed, -⟩ := hdiscloses.outcome_of_error _ herror
  exact ⟨left, right, result, result', hleft, hright, hsame.log_eq, hresult, hresult',
    (hsame.outcome_eq _ _ hresult hresult').2,
    hdiscloses.analytics_eq_none_iff.mpr (Or.inr ⟨failure, hfailed⟩), herror⟩

end Detour

end AdaptiveQuiz
