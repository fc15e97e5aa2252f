import AdaptiveQuiz.Proofs.Catalog.Builtin
import AdaptiveQuiz.Proofs.Session.Dependency

/-!
# Where a session looks for its type

A session takes its manifest from one registry, by the type that the question names. This is the
registry that the caller gave, if it holds anything. A registry that was given without manifests is
passed over like none at all, and the type is looked up in the registry of the whole service.

## Main statements

* `Session.manifestFor_eq_ok`: the manifest of a question is what the registry has for its type
* `Session.start?_eq_unknownType`: a start fails for the type if the registry has nothing for it
* `Session.type_looked_up`: which manifest a session has
* `Detour.empty_passed_over`: an empty registry does not keep a session from its type
-/

namespace AdaptiveQuiz

namespace Session

variable {settings : Settings} {shared registry : Registry} {given : Option Registry}
  {options : SessionOptions} {question : Json} {manifest : Manifest} {session : Session}
  {id : String} {version : Option Int}

/-! ## The manifest of a question -/

theorem manifestFor_eq_ok : manifestFor registry question = .ok manifest
    ↔ ∃ id version, Routing.resolve question = .ok (id, version)
      ∧ registry.get? id version = some manifest := by
  simp only [manifestFor, except_bind_eq_ok, except_mapError_eq_ok, Prod.exists,
    Registry.require_eq_ok]

theorem mem_of_manifestFor (h : manifestFor registry question = .ok manifest) :
    manifest ∈ registry.manifests.values := by
  obtain ⟨id, version, -, hget⟩ := manifestFor_eq_ok.mp h
  exact (Registry.mem_and_id_of_require (Registry.require_eq_ok.mpr hget)).1

theorem manifestFor_eq_unknownType {error : UnknownType} :
    manifestFor registry question = .error (.unknownType error)
      ↔ ∃ id version, Routing.resolve question = .ok (id, version)
        ∧ registry.require id version = .error error := by
  simp [manifestFor, except_bind_eq_error, except_mapError_eq_error, except_mapError_eq_ok]

/-- Each step of a start fails with an error of its own, so the type is unknown to the first one. -/
theorem start?_eq_unknownType {error : UnknownType} :
    start? settings shared given options question
        = .error ⟨.unknownType error, options.environment⟩
      ↔ manifestFor (chooseRegistry shared given) question = .error (.unknownType error) := by
  rw [start?_eq_error, and_iff_left rfl, prepare?_eq_error, or_iff_left]
  rintro ⟨manifest, -, hinvalid | ⟨document, -, hunbuilt | ⟨flow, -, huntraversable⟩⟩⟩
  · simp [documentFor, except_mapError_eq_error] at hinvalid
  · simp [flowFor, except_bind_eq_error, except_mapError_eq_error] at hunbuilt
  · simp [except_mapError_eq_error] at huntraversable

/-- What a registry that was given has to hold to be looked at. -/
theorem chooseRegistry_some (shared registry : Registry) :
    chooseRegistry shared (some registry)
      = if registry.manifests.values = [] then shared else registry := by
  simp [chooseRegistry, Registry.size, Dictionary.size, Dictionary.values]

/-! ## Starting -/

/-- Where no registry is given, a session that starts is of a built-in type. -/
theorem manifest_mem_builtin (hstart : start? settings (Registry.shared settings).1 none options
    question = .ok session) : session.manifest ∈ Manifest.builtin := by
  obtain ⟨manifest, _, _, _, hmanifest, -, -, -, rfl⟩ := start?_eq_ok.mp hstart
  exact (Registry.isBuiltin_shared settings manifest).mp (mem_of_manifestFor hmanifest)

/-- Where a question names a type, a session fails to start for its type exactly if the registry that
is looked at has no manifest for it, and a session that starts has the manifest that is there. This
is the registry that was given if it holds a manifest, and the one of the whole service if none was
given, or one that is empty. -/
theorem type_looked_up (hresolve : Routing.resolve question = .ok (id, version)) :
    ((∃ error, start? settings shared given options question
        = .error ⟨.unknownType error, options.environment⟩)
      ↔ (chooseRegistry shared given).get? id version = none)
    ∧ (∀ session, start? settings shared given options question = .ok session →
      (chooseRegistry shared given).get? id version = some session.manifest)
    ∧ (∀ registry, given = some registry → registry.manifests.values ≠ [] →
      chooseRegistry shared given = registry)
    ∧ ((given = none ∨ ∃ registry, given = some registry ∧ registry.manifests.values = []) →
      chooseRegistry shared given = shared) := by
  refine ⟨?_, ?_, ?_, ?_⟩
  · simp only [start?_eq_unknownType, manifestFor_eq_unknownType, hresolve, Except.ok.injEq,
      Prod.mk.injEq]
    constructor
    · rintro ⟨error, _, _, ⟨rfl, rfl⟩, hrequire⟩
      exact (Registry.require_eq_error.mp hrequire).1
    · intro hnone
      exact ⟨_, id, version, ⟨rfl, rfl⟩, Registry.require_eq_error.mpr ⟨hnone, rfl⟩⟩
  · intro session hstart
    obtain ⟨manifest, _, _, _, hmanifest, -, -, -, rfl⟩ := start?_eq_ok.mp hstart
    obtain ⟨id', version', hresolve', hget⟩ := manifestFor_eq_ok.mp hmanifest
    rw [hresolve] at hresolve'
    cases hresolve'
    exact hget
  · rintro registry rfl hne
    rw [chooseRegistry_some, if_neg hne]
  · rintro (rfl | ⟨registry, rfl, hempty⟩)
    · rfl
    · rw [chooseRegistry_some, if_pos hempty]

end Session

namespace Detour

/-- A registry of single choice questions only. -/
def onlyChoices : Registry := (Registry.empty true).insert .multipleChoice

theorem resolve_typed_ladder :
    Routing.resolve (typed "mcq-declarative" rawLadder) = .ok ("mcq-declarative", none) := by
  decide +kernel

/-- A registry that holds something is the only one that is looked at. -/
theorem looked_up : ∃ error, Session.start? .standard (Registry.shared .standard).1
    (some onlyChoices) options (typed "mcq-declarative" rawLadder)
      = .error ⟨.unknownType error, options.environment⟩ := by
  have hnone : (Session.chooseRegistry (Registry.shared .standard).1 (some onlyChoices)).get?
      "mcq-declarative" none = none := rfl
  exact (Session.type_looked_up resolve_typed_ladder).1.mpr hnone

/-- A registry without manifests has none for any type, but it is passed over. -/
theorem empty_passed_over : ¬ ∀ settings shared registry options question id version,
    Routing.resolve question = .ok (id, version) →
    ((∃ error, Session.start? settings shared (some registry) options question
        = .error ⟨.unknownType error, options.environment⟩)
      ↔ registry.get? id version = none) := by
  intro hall
  have hstarts : (Session.start? .standard (Registry.shared .standard).1 (some (.empty true)) options
      (typed "mcq-declarative" rawLadder)).toOption.isSome = true := by decide +kernel
  have hiff := hall .standard (Registry.shared .standard).1 (.empty true) options _ _ _
    resolve_typed_ladder
  obtain ⟨error, herror⟩ := hiff.mpr rfl
  rw [herror] at hstarts
  cases hstarts

end Detour

end AdaptiveQuiz
