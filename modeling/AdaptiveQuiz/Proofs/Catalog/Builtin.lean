import AdaptiveQuiz.Catalog.Builtin
import AdaptiveQuiz.Proofs.Catalog.Lookup

/-!
# Looking up built-in types

A look-up gives a registered manifest of the id that was asked for. Where exactly the built-in types
are registered, in whatever order, this leaves one answer, since their ids differ.

## Main definitions

* `Registry.IsBuiltin`: a registry of exactly the built-in types

## Main statements

* `Registry.mem_and_id_of_require`: what a look-up gives
* `Registry.IsBuiltin.require_eq_ok`: every built-in type is found under its id and version
* `Registry.isBuiltin_shared`: the registry of the whole service is one of exactly the built-in types
-/

namespace AdaptiveQuiz

theorem Manifest.mem_builtin {manifest : Manifest} : manifest ∈ Manifest.builtin
    ↔ manifest = .multipleChoice ∨ manifest = .branching ∨ manifest = .declarative := by
  simp only [Manifest.builtin, List.mem_cons, List.not_mem_nil, or_false]

namespace Registry

variable {registry : Registry} {manifest : Manifest}

/-- A registry of exactly the built-in types. -/
def IsBuiltin (registry : Registry) : Prop :=
  ∀ manifest, manifest ∈ registry.manifests.values ↔ manifest ∈ Manifest.builtin

/-- What a look-up gives is registered under the id that was asked for. -/
theorem mem_and_id_of_require {id : String} {version : Option Int}
    (h : registry.require id version = .ok manifest) :
    manifest ∈ registry.manifests.values ∧ manifest.id = id :=
  mem_and_id_of_get? (require_eq_ok.mp h)

theorem eq_of_id_eq_of_mem_builtin {other : Manifest} (hmanifest : manifest ∈ Manifest.builtin)
    (hother : other ∈ Manifest.builtin) (hid : manifest.id = other.id) : manifest = other := by
  rw [Manifest.mem_builtin] at hmanifest hother
  rcases hmanifest with rfl | rfl | rfl <;> rcases hother with rfl | rfl | rfl <;>
    first | rfl | exact absurd hid (by decide)

/-- Where the built-in types are registered, a look-up gives the one of the id. -/
theorem IsBuiltin.eq_of_require (h : registry.IsBuiltin) {other : Manifest}
    (hmem : manifest ∈ Manifest.builtin) {version : Option Int}
    (hrequire : registry.require manifest.id version = .ok other) : other = manifest := by
  obtain ⟨hother, hid⟩ := mem_and_id_of_require hrequire
  exact eq_of_id_eq_of_mem_builtin ((h other).mp hother) hmem hid

/-- Every built-in type is found under its id and version. -/
theorem IsBuiltin.require_eq_ok (h : registry.IsBuiltin) (hmem : manifest ∈ Manifest.builtin) :
    registry.require manifest.id (some manifest.version) = .ok manifest := by
  obtain ⟨other, hfind⟩ := Option.isSome_iff_exists.mp
    (find?_isSome.mpr ⟨manifest, (h manifest).mpr hmem, rfl⟩)
  have hrequire : registry.require manifest.id (some manifest.version) = .ok other :=
    Registry.require_eq_ok.mpr hfind
  rw [hrequire, h.eq_of_require hmem hrequire]

/-- Nothing else is found under the id of a built-in type, and no other version of it. -/
theorem IsBuiltin.get?_eq_some (h : registry.IsBuiltin) (hmem : manifest ∈ Manifest.builtin)
    {version : Option Int} {other : Manifest} : registry.get? manifest.id version = some other
      ↔ (version = none ∨ version = some manifest.version) ∧ other = manifest := by
  constructor
  · intro hget
    have hother := h.eq_of_require hmem (Registry.require_eq_ok.mpr hget)
    refine ⟨?_, hother⟩
    cases version with
    | none => exact Or.inl rfl
    | some version =>
      have hrelease := (find?_eq_some.mp hget).2
      rw [hother] at hrelease
      exact Or.inr (congrArg some (congrArg Prod.snd hrelease).symm)
  · rintro ⟨rfl | rfl, rfl⟩
    · obtain ⟨latest, hget, -⟩ := exists_get?_none ((h other).mpr hmem)
      rw [hget, h.eq_of_require hmem (Registry.require_eq_ok.mpr hget)]
    · exact Registry.require_eq_ok.mp (h.require_eq_ok hmem)

theorem isBuiltin_shared (settings : Settings) : (shared settings).1.IsBuiltin := by
  have hmanifests : (shared settings).1.manifests.values = Manifest.builtin := by
    unfold shared builtin
    cases settings.overwriteManifests <;> rfl
  intro manifest
  rw [hmanifests]

end Registry

end AdaptiveQuiz
