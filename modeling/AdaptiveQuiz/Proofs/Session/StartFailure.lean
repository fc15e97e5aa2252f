import AdaptiveQuiz.Proofs.Session.Outcome

/-!
# How a start fails

A start is meant to fail for three reasons: no type is found for the question, the question has
critical remarks, or its document has findings that keep it from compiling. Two more reasons come
through from further below. A version beside the type that stands for no integer is not a matter of
an unknown type, and a single choice question may be accepted with an atom of any kind in its
metadata, which then has no place in the document that its flow is made of.

## Main definitions

* `StartError.isForeseen`, `Session.Foreseen`: the errors that a start is meant to fail with
* `Routing.VersionMisfits`, `MultipleChoiceDocument.AtomMisfits`: the two other reasons
* `Registry.Fits`: a registry whose manifests bind the documents that they review

## Main statements

* `Routing.isForeseen_of_resolve`, `Session.exists_buildFlow_iff`: where the two reasons come in
* `Session.foreseen_prepare?`
* `Session.fails_as_foreseen`
* `Detour.numbered_unforeseen`: a question that is accepted, and fails to start unforeseen
-/

namespace AdaptiveQuiz

open Schema

/-- Whether the error says that no type was found. -/
def RoutingError.isForeseen : RoutingError → Bool
  | .unknownSpellings _ | .untyped => true
  | .notAnObject _ | .versionNotNumeral _ | .versionTooLong _ | .versionOfKind _ | .versionInfinite
  | .versionNotNumber => false

/-- Whether a start is meant to fail with the error: no type was found, or it is not registered, or
there are critical remarks, or findings that keep the document from compiling. -/
def StartError.isForeseen : StartError → Bool
  | .unrouted error => error.isForeseen
  | .unknownType _ | .invalid _ | .uncompiled _ => true
  | .unbuilt _ | .untraversable _ => false

/-! ## Versions -/

namespace Routing

variable {question : Fields}

/-- The question gives its type in its `meta` object, with a version that stands for no integer. -/
def VersionMisfits (question : Fields) : Prop :=
  ∃ type details error, metaType? question = some (type, details)
    ∧ metaVersion details = .error error

theorem not_isForeseen_of_version {value : Json} {error : RoutingError}
    (h : version value = .error error) : error.isForeseen = false := by
  cases value with
  | integer n => cases h
  | bool b => cases h
  | number x =>
    simp only [version] at h
    split at h <;> cases h <;> rfl
  | text s =>
    simp only [version, versionOfText] at h
    split at h
    · cases h
      rfl
    · split at h
      · cases h
        rfl
      · split at h <;> cases h
        rfl
  | null => cases h; rfl
  | array items => cases h; rfl
  | object fields => cases h; rfl

theorem not_isForeseen_of_metaVersion {details : Fields} {error : RoutingError}
    (h : metaVersion details = .error error) : error.isForeseen = false := by
  unfold metaVersion at h
  split at h
  · cases h
  · cases h
  · next value _ _ =>
    cases hversion : version value with
    | ok n =>
      rw [hversion] at h
      cases h
    | error error' =>
      rw [hversion] at h
      cases h
      exact not_isForeseen_of_version hversion

theorem resolve_of_metaType {type : Json} {details : Fields}
    (h : metaType? question = some (type, details)) : resolve (.object question)
      = (metaVersion details).map fun version => (type.display, version) := by
  simp only [resolve, h]

theorem resolve_of_metaType_eq_none (h : metaType? question = none) :
    resolve (.object question) = fromSpellings question := by
  simp only [resolve, h]

/-- Only a version that misfits keeps an object from naming its type in a way that is not foreseen. -/
theorem isForeseen_of_resolve {error : RoutingError}
    (h : resolve (.object question) = .error error) :
    error.isForeseen = true ↔ ¬ VersionMisfits question := by
  cases hmeta : metaType? question with
  | none =>
    -- without a type in the `meta` object no version is read
    have hfits : ¬ VersionMisfits question := by
      rintro ⟨type, details, _, hsome, -⟩
      rw [hmeta] at hsome
      cases hsome
    refine iff_of_true ?_ hfits
    rw [resolve_of_metaType_eq_none hmeta, fromSpellings] at h
    split at h
    · cases h
    · split at h <;> cases h <;> rfl
  | some named =>
    obtain ⟨type, details⟩ := named
    rw [resolve_of_metaType hmeta] at h
    cases hversion : metaVersion details with
    | ok version =>
      rw [hversion] at h
      cases h
    | error found =>
      rw [hversion] at h
      obtain rfl : found = error := Except.error.inj h
      have hmisfits : VersionMisfits question := ⟨type, details, found, hmeta, hversion⟩
      simp [not_isForeseen_of_metaVersion hversion, hmisfits]

theorem VersionMisfits.resolve_eq (h : VersionMisfits question) :
    ∃ error, resolve (.object question) = .error error := by
  obtain ⟨type, details, error, hmeta, hversion⟩ := h
  refine ⟨error, ?_⟩
  rw [resolve_of_metaType hmeta, hversion]
  rfl

end Routing

/-! ## Atoms -/

/-- The metadata name an atom that is neither a text nor null. -/
def MultipleChoiceDocument.AtomMisfits (document : MultipleChoiceDocument) : Prop :=
  ∃ value, Fields.get? document.metadata "atom_id" = some value ∧ ¬ IsTextOrNull value

theorem MultipleChoiceDocument.exists_compile_iff {document : MultipleChoiceDocument} :
    (∃ compilation, document.compile = .accepted compilation) ↔ ¬ document.AtomMisfits := by
  have hcompile : (∃ compilation, document.compile = .accepted compilation)
      ↔ ∃ atomId, document.atomId = .accepted atomId := by
    unfold compile toBranching
    cases document.atomId with
    | accepted atomId => exact iff_of_true ⟨_, rfl⟩ ⟨_, rfl⟩
    | rejected first others => exact iff_of_false nofun nofun
  rw [hcompile]
  unfold AtomMisfits atomId optionalNullable Schema.optional
  cases hget : Fields.get? document.metadata "atom_id" with
  | none => exact iff_of_true ⟨none, rfl⟩ nofun
  | some value =>
    simp only [Checked.within_eq_accepted, exists_nullable_anyText, Option.some.injEq,
      exists_eq_left', not_not]

/-- Every manifest binds documents of the kind that it reviews. -/
def Registry.Fits (registry : Registry) : Prop :=
  ∀ manifest ∈ registry.manifests.values, manifest.binding.documentKind = manifest.documentKind

theorem Registry.IsBuiltin.fits {registry : Registry} (h : registry.IsBuiltin) : registry.Fits := by
  intro manifest hmem
  rcases Manifest.mem_builtin.mp ((h manifest).mp hmem) with rfl | rfl | rfl <;> rfl

namespace Session

variable {α β : Type} {settings : Settings} {shared registry : Registry} {given : Option Registry}
  {options : SessionOptions} {question : Fields} {manifest : Manifest} {document : Document}

/-! ## The steps of a start -/

/-- It succeeds, or fails with an error that is foreseen. -/
def Foreseen (x : Except StartError α) : Prop :=
  (∃ a, x = .ok a) ∨ ∃ error, x = .error error ∧ error.isForeseen = true

instance (x : Except StartError α) : Decidable (Foreseen x) :=
  match x with
  | .ok a => isTrue (Or.inl ⟨a, rfl⟩)
  | .error error =>
    if h : error.isForeseen = true then isTrue (Or.inr ⟨error, rfl, h⟩)
    else isFalse fun
      | Or.inl ⟨_, hok⟩ => nomatch hok
      | Or.inr ⟨_, heq, hforeseen⟩ => h (Except.error.inj heq ▸ hforeseen)

theorem foreseen_iff {x : Except StartError α} :
    Foreseen x ↔ ∀ error, x = .error error → error.isForeseen = true := by
  cases x with
  | ok a => exact iff_of_true (Or.inl ⟨a, rfl⟩) nofun
  | error error => simp [Foreseen]

theorem foreseen_bind {x : Except StartError α} {f : α → Except StartError β} :
    Foreseen (x >>= f) ↔ Foreseen x ∧ ∀ a, x = .ok a → Foreseen (f a) := by
  cases x with
  | ok a => simp [foreseen_iff, bind, Except.bind]
  | error error => simp [foreseen_iff, bind, Except.bind]

/-- Steps that only fail in one way are judged by it. -/
theorem foreseen_mapError {ε : Type} {x : Except ε α} {f : ε → StartError} :
    Foreseen (x.mapError f) ↔ ∀ error, x = .error error → (f error).isForeseen = true := by
  cases x with
  | ok a => simp [foreseen_iff, Except.mapError]
  | error error => simp [foreseen_iff, Except.mapError]

theorem foreseen_manifestFor : Foreseen (manifestFor registry (.object question))
    ↔ ¬ Routing.VersionMisfits question := by
  rw [manifestFor, foreseen_bind, and_iff_left fun _ _ => foreseen_mapError.mpr fun _ _ => rfl,
    foreseen_mapError]
  constructor
  · intro hforeseen hmisfits
    obtain ⟨error, herror⟩ := hmisfits.resolve_eq
    exact (Routing.isForeseen_of_resolve herror).mp (hforeseen error herror) hmisfits
  · exact fun hfits error herror => (Routing.isForeseen_of_resolve herror).mpr hfits

theorem foreseen_documentFor (manifest : Manifest) (raw : Json) :
    Foreseen (documentFor manifest raw) :=
  foreseen_mapError.mpr fun _ _ => rfl

/-- Under a binding that is made for it, every document becomes a compilation, unless it is a single
choice question with an atom that misfits. -/
theorem exists_buildFlow_iff (hkind : manifest.binding.documentKind = document.kind) :
    (∃ compilation, manifest.buildFlow document = .ok compilation)
      ↔ ¬ ∃ single, document = .multipleChoice single ∧ single.AtomMisfits := by
  unfold Manifest.buildFlow
  cases document with
  | multipleChoice single =>
    cases hbinding : manifest.binding <;> rw [hbinding] at hkind <;> cases hkind
    have hfits : (¬ ∃ other, Document.multipleChoice single = .multipleChoice other
        ∧ other.AtomMisfits) ↔ ¬ single.AtomMisfits := by simp
    rw [hfits, ← MultipleChoiceDocument.exists_compile_iff]
    show (∃ compilation, single.compile.toExcept.mapError BuildError.unfit = .ok compilation) ↔ _
    cases single.compile with
    | accepted compilation => exact iff_of_true ⟨_, rfl⟩ ⟨_, rfl⟩
    | rejected first others => exact iff_of_false nofun nofun
  | branching document =>
    cases hbinding : manifest.binding <;> rw [hbinding] at hkind <;> cases hkind
    exact iff_of_true ⟨_, rfl⟩ (by simp)
  | declarative document =>
    cases hbinding : manifest.binding <;> rw [hbinding] at hkind <;> cases hkind
    exact iff_of_true ⟨_, rfl⟩ (by simp)

theorem foreseen_flowFor (hkind : manifest.binding.documentKind = document.kind) :
    Foreseen (flowFor manifest document)
      ↔ ¬ ∃ single, document = .multipleChoice single ∧ single.AtomMisfits := by
  rw [flowFor, foreseen_bind, and_iff_left fun _ _ => foreseen_mapError.mpr fun _ _ => rfl,
    foreseen_mapError, ← exists_buildFlow_iff hkind]
  cases manifest.buildFlow document with
  | ok compilation => simp
  | error error => simp [StartError.isForeseen]

/-- The step after the flow does not fail. -/
theorem foreseen_traversal {raw : Json} {flow : Flow}
    (hdocument : documentFor manifest raw = .ok document)
    (hflow : flowFor manifest document = .ok flow) :
    Foreseen ((Traversal.start? flow).mapError .untraversable) := by
  obtain ⟨traversal, htraversal⟩ := Traversal.exists_start? (sound_of_flowFor hdocument hflow)
  exact Or.inl ⟨traversal, except_mapError_eq_ok.mpr htraversal⟩

theorem kind_eq_of_fits {raw : Json} (hfits : registry.Fits)
    (hmanifest : manifestFor registry raw = .ok manifest)
    (hdocument : documentFor manifest raw = .ok document) :
    manifest.binding.documentKind = document.kind :=
  (hfits manifest (mem_of_manifestFor hmanifest)).trans
    (Document.kind_of_review (documentFor_eq_ok.mp hdocument)).symm

/-- A question that gives rise to an error that is not foreseen has a version that misfits, or else
is an accepted single choice question with an atom that does. -/
theorem foreseen_prepare? (hfits : (chooseRegistry shared given).Fits) :
    Foreseen (prepare? settings shared given options (.object question))
      ↔ ¬ Routing.VersionMisfits question ∧ ¬ ∃ manifest single,
        manifestFor (chooseRegistry shared given) (.object question) = .ok manifest
        ∧ documentFor manifest (.object question) = .ok (.multipleChoice single)
        ∧ single.AtomMisfits := by
  -- it is foreseen if each of its steps is, on what the steps before it gave
  simp only [prepare?, foreseen_bind, foreseen_manifestFor, foreseen_documentFor, true_and]
  refine and_congr_right fun _ => ?_
  constructor
  · rintro hrest ⟨manifest, single, hmanifest, hdocument, hmisfits⟩
    have hkind := kind_eq_of_fits hfits hmanifest hdocument
    exact (foreseen_flowFor hkind).mp (hrest manifest hmanifest _ hdocument).1
      ⟨single, rfl, hmisfits⟩
  · intro hfit manifest hmanifest document hdocument
    have hkind := kind_eq_of_fits hfits hmanifest hdocument
    refine ⟨(foreseen_flowFor hkind).mpr ?_, fun flow hflow => ?_⟩
    · rintro ⟨single, rfl, hmisfits⟩
      exact hfit ⟨manifest, single, hmanifest, hdocument, hmisfits⟩
    · exact ⟨foreseen_traversal hdocument hflow, fun _ _ => Or.inl ⟨_, rfl⟩⟩

/-- Turning to the host is no step that fails. -/
theorem foreseen_start? :
    Foreseen ((start? settings shared given options (.object question)).mapError
      StartFailure.error)
    ↔ Foreseen (prepare? settings shared given options (.object question)) := by
  unfold start?
  cases prepare? settings shared given options (.object question) with
  | ok prepared => exact iff_of_true (Or.inl ⟨_, rfl⟩) (Or.inl ⟨_, rfl⟩)
  | error error => simp [foreseen_iff, Except.mapError]

/-- On a registry that fits, like one of the built-in types, a question of any form fails to start
in a foreseen way or not at all, with two exceptions: its version misfits, or it is accepted as a
single choice question with an atom that misfits. However it fails, the host is left as it was
given, and the reason does not depend on the host or on anything else about how the session is to
run. The session is attached to the host only once it has started. -/
theorem fails_as_foreseen (settings : Settings) (shared : Registry) (given : Option Registry)
    (options : SessionOptions) (hfits : (chooseRegistry shared given).Fits)
    (question : Fields) :
    let outcome := start? settings shared given options (.object question)
    (Foreseen (outcome.mapError StartFailure.error)
      ↔ ¬ Routing.VersionMisfits question ∧ ¬ ∃ manifest single,
        manifestFor (chooseRegistry shared given) (.object question) = .ok manifest
        ∧ documentFor manifest (.object question) = .ok (.multipleChoice single)
        ∧ single.AtomMisfits)
    ∧ (∀ failure, outcome = .error failure → failure.environment = options.environment
      ∧ ∀ settings options', start? settings shared given options' (.object question)
        = .error ⟨failure.error, options'.environment⟩)
    ∧ ∀ session, outcome = .ok session →
      session.environment = options.environment.map (·.attach recorderId) := by
  intro outcome
  refine ⟨foreseen_start?.trans (foreseen_prepare? hfits), fun failure hfailure => ?_,
    fun session hsession => ?_⟩
  · obtain ⟨herror, henvironment⟩ := start?_eq_error.mp hfailure
    refine ⟨henvironment, fun settings' options' => start?_eq_error.mpr ⟨?_, rfl⟩⟩
    -- which step fails is said without the options
    exact prepare?_eq_error.mpr (prepare?_eq_error.mp herror)
  · obtain ⟨manifest, document, flow, traversal, -, -, -, htraversal, rfl⟩ := start?_eq_ok.mp hsession
    rfl

end Session

namespace Detour

/-- A question with a version that is spelt out. -/
def rawSpelt : Fields :=
  [("meta", .object [("type", .text "multiple-choice"), ("version", .text "one")])]

/-- A version that is spelt out is not read, and this is not said to be a matter of the type. The
host is left as it is, whichever it is. -/
theorem spelt_unforeseen : ∃ error, error.isForeseen = false ∧ ∀ settings options,
    Session.start? settings (Registry.shared .standard).1 none options (.object rawSpelt)
      = .error ⟨error, options.environment⟩ := by
  have hfits : (Session.chooseRegistry (Registry.shared .standard).1 none).Fits :=
    (Registry.isBuiltin_shared .standard).fits
  obtain ⟨hforeseen, hsame, -⟩ :=
    Session.fails_as_foreseen .standard (Registry.shared .standard).1 none options hfits rawSpelt
  have hmisfits : Routing.VersionMisfits rawSpelt :=
    ⟨.text "multiple-choice", _, .versionNotNumeral "one", rfl, by decide +kernel⟩
  cases houtcome : Session.start? .standard (Registry.shared .standard).1 none options
      (.object rawSpelt) with
  | ok session =>
    rw [houtcome] at hforeseen
    exact absurd hmisfits (hforeseen.mp (Or.inl ⟨session, rfl⟩)).1
  | error failure =>
    rw [houtcome] at hforeseen
    refine ⟨failure.error, Bool.eq_false_iff.mpr fun herror => ?_, (hsame failure houtcome).2⟩
    exact (hforeseen.mp (Or.inr ⟨failure.error, rfl, herror⟩)).1 hmisfits

/-- The single choice question with a number for an atom. -/
def rawNumbered : Fields :=
  [("meta", .object [("type", .text "multiple-choice")]),
    ("metadata", .object [("atom_id", .integer 7)]), ("prompt", .text "Which one?"),
    ("options", .array [rawOption "a" [], rawOption "b" []]), ("correct_option_id", .text "a")]

/-- A question of a built-in type is accepted, and fails to start in a way that is not foreseen. -/
theorem numbered_unforeseen : ¬ ∀ settings shared options (question : Fields), shared.IsBuiltin →
    Session.Foreseen ((Session.start? settings shared none options (.object question)).mapError
      StartFailure.error) := by
  intro hall
  have hunforeseen : ¬ Session.Foreseen ((Session.start? .standard
      (Registry.shared .standard).1 none options (.object rawNumbered)).mapError
        StartFailure.error) := by decide +kernel
  exact hunforeseen (hall .standard _ options rawNumbered (Registry.isBuiltin_shared .standard))

end Detour

end AdaptiveQuiz
