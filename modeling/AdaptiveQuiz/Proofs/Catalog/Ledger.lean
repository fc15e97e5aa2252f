import AdaptiveQuiz.Proofs.Catalog.Lookup
import Mathlib.Data.List.Dedup

/-!
# Registries and what was accepted

What a registry answers depends only on the registrations that it accepted. The ledger of a sequence
of calls lists them, the most recent first, and says which registrations are accepted next. A
registry keeps less than its ledger: the most recent manifest under every key, and the latest
version of every id. Every query has the answer that the ledger gives, though. Where all releases
differ, even the order of registration is forgotten.

## Main definitions

* `Ledger`, with `Ledger.Admits`, `Ledger.next` and `Ledger.after`
* `Registry.Represents`: what a registry keeps of a ledger
* `Registry.Registers`, `Registry.Answers`: how a registry registers and answers, said of a ledger
* `Registry.Keeps`: what its two dictionaries hold, said of a ledger
* `Registry.SameAnswers`: two registries that no query can tell apart

## Main statements

* `Registry.Represents.perform`, `Registry.represents_run`: a registry keeps representing its ledger
* `Registry.Represents.get?_latest`: the latest versions that are kept are the highest ones accepted
* `Registry.Rearranged.perform`: registries that hold the same in another order stay so
* `Registry.refines_ledger`
-/

namespace AdaptiveQuiz

/-! ## The ledger -/

/-- The manifests that a registry accepted, the most recent first, and whether it was closed. -/
structure Ledger where
  accepted : List Manifest
  isClosed : Bool

namespace Ledger

/-- Before the first call nothing is accepted. -/
def empty : Ledger := ⟨[], false⟩

/-- Whether a release was accepted. -/
def Holds (ledger : Ledger) (id : String) (version : Int) : Prop :=
  ∃ manifest ∈ ledger.accepted, manifest.release = (id, version)

instance (ledger : Ledger) (id : String) (version : Int) : Decidable (ledger.Holds id version) :=
  inferInstanceAs (Decidable (∃ manifest ∈ ledger.accepted, manifest.release = (id, version)))

/-- A registration is accepted as long as the registry is not closed. A release that was accepted
before is accepted again only where manifests may be overwritten. -/
def Admits (overwrites : Bool) (ledger : Ledger) (manifest : Manifest) : Prop :=
  ledger.isClosed = false ∧ (overwrites = true ∨ ¬ ledger.Holds manifest.id manifest.version)

instance (overwrites : Bool) (ledger : Ledger) (manifest : Manifest) :
    Decidable (ledger.Admits overwrites manifest) :=
  inferInstanceAs (Decidable (_ ∧ _))

/-- What a call adds to a ledger. -/
def next (overwrites : Bool) (ledger : Ledger) : RegistryCall → Ledger
  | .register manifest =>
    if ledger.Admits overwrites manifest then
      { ledger with accepted := manifest :: ledger.accepted }
    else ledger
  | .freeze => { ledger with isClosed := true }

/-- The ledger of a sequence of calls. -/
def after (overwrites : Bool) (calls : List RegistryCall) : Ledger :=
  calls.foldl (next overwrites) empty

/-- The manifest that was accepted most recently for a release. -/
def mostRecent? (ledger : Ledger) (id : String) (version : Int) : Option Manifest :=
  ledger.accepted.find? (·.release == (id, version))

/-- The highest version that was accepted for an id. -/
def highest? (ledger : Ledger) (id : String) : Option Int :=
  ((ledger.accepted.filter (·.id == id)).map Manifest.version).max?

theorem mostRecent?_isSome {ledger : Ledger} {id : String} {version : Int} :
    (ledger.mostRecent? id version).isSome = true ↔ ledger.Holds id version := by
  simp only [mostRecent?, List.find?_isSome, beq_iff_eq, Holds]

end Ledger

namespace Ledger

variable {overwrites : Bool} {ledger : Ledger} {manifest : Manifest} {manifests : List Manifest}
  {id key : String} {version : Int}

theorem mostRecent?_eq_find? (ledger : Ledger) (id : String) (version : Int) :
    ledger.mostRecent? id version
      = ledger.accepted.find? (·.key == Manifest.keyOf id version) := by
  have hkey (manifest : Manifest) :
      (manifest.release == (id, version)) = (manifest.key == Manifest.keyOf id version) := by
    rw [Bool.eq_iff_iff, beq_iff_eq, beq_iff_eq, Manifest.key_eq_keyOf_iff]
  simp only [mostRecent?, hkey]

/-- The highest version is one that was accepted, and no other is higher. -/
theorem highest?_eq_some_iff : ledger.highest? id = some version
    ↔ ledger.Holds id version
      ∧ ∀ manifest ∈ ledger.accepted, manifest.id = id → manifest.version ≤ version := by
  have hmem (n : Int) : n ∈ (ledger.accepted.filter (·.id == id)).map Manifest.version
      ↔ ∃ manifest ∈ ledger.accepted, manifest.id = id ∧ manifest.version = n := by
    simp only [List.mem_map, List.mem_filter, beq_iff_eq, and_assoc]
  simp only [highest?, List.max?_eq_some_iff, hmem, Holds, Manifest.release, Prod.mk.injEq]
  refine and_congr_right fun _ => ⟨fun h other hother hid => h _ ⟨other, hother, hid, rfl⟩, ?_⟩
  rintro h _ ⟨other, hother, hid, rfl⟩
  exact h other hother hid

/-- Where all releases differ, all of them are accepted, whether manifests may be overwritten or
not. -/
theorem accepted_register (hopen : ledger.isClosed = false)
    (hdistinct : ((manifests.reverse ++ ledger.accepted).map Manifest.release).Nodup) :
    (manifests.map .register).foldl (next overwrites) ledger
      = { ledger with accepted := manifests.reverse ++ ledger.accepted } := by
  induction manifests generalizing ledger with
  | nil => rfl
  | cons manifest rest ih =>
    rw [List.reverse_cons, List.append_assoc, List.singleton_append] at hdistinct ⊢
    have hfresh : ¬ ledger.Holds manifest.id manifest.version := by
      have hnodup := (List.nodup_append.mp (List.map_append ▸ hdistinct)).2.1
      rintro ⟨earlier, hearlier, hsame⟩
      exact (List.nodup_cons.mp hnodup).1 (List.mem_map.mpr ⟨earlier, hearlier, hsame⟩)
    have hadmits : ledger.Admits overwrites manifest := ⟨hopen, Or.inr hfresh⟩
    rw [List.map_cons, List.foldl_cons, next, if_pos hadmits]
    exact ih hopen hdistinct

/-- Where all releases differ, there is one manifest for every key, whatever the order. -/
theorem find?_key_of_perm {first second : List Manifest} (h : first.Perm second)
    (hdistinct : (first.map Manifest.release).Nodup) :
    first.find? (·.key == key) = second.find? (·.key == key) := by
  have hunique {manifests : List Manifest} (hnodup : (manifests.map Manifest.release).Nodup)
      (manifest : Manifest) : manifests.find? (·.key == key) = some manifest
        ↔ manifest ∈ manifests ∧ manifest.key = key := by
    constructor
    · intro hfind
      exact ⟨List.mem_of_find?_eq_some hfind, by simpa using List.find?_some hfind⟩
    · rintro ⟨hmem, rfl⟩
      obtain ⟨found, hfound⟩ : ∃ found, manifests.find? (·.key == manifest.key) = some found :=
        Option.isSome_iff_exists.mp (List.find?_isSome.mpr ⟨manifest, hmem, by simp⟩)
      have hkey : found.key = manifest.key := by simpa using List.find?_some hfound
      rw [hfound, List.inj_on_of_nodup_map hnodup (List.mem_of_find?_eq_some hfound) hmem
        (Manifest.key_eq_keyOf_iff.mp hkey)]
  refine Option.ext fun manifest => ?_
  rw [hunique hdistinct, hunique ((h.map Manifest.release).nodup_iff.mp hdistinct), h.mem_iff]

end Ledger

namespace Registry

variable {registry other : Registry} {ledger : Ledger} {manifest : Manifest} {id : String}
  {version : Int} {overwrites : Bool}

/-! ## Registration -/

/-- What a registry keeps of a ledger: under every key the manifest accepted most recently. -/
structure Represents (registry : Registry) (overwrites : Bool) (ledger : Ledger) : Prop where
  overwrites_eq : registry.overwrites = overwrites
  isFrozen_eq : registry.isFrozen = ledger.isClosed
  get?_manifests : ∀ key, registry.manifests.get? key = ledger.accepted.find? (·.key == key)

theorem represents_empty (overwrites : Bool) : (empty overwrites).Represents overwrites .empty where
  overwrites_eq := rfl
  isFrozen_eq := rfl
  get?_manifests _ := rfl

theorem Represents.insert (h : registry.Represents overwrites ledger) (manifest : Manifest) :
    (registry.insert manifest).Represents overwrites
      { ledger with accepted := manifest :: ledger.accepted } where
  overwrites_eq := h.overwrites_eq
  isFrozen_eq := h.isFrozen_eq
  get?_manifests key := by
    have hset := registry.manifests.get?_set manifest.key key manifest
    rw [List.find?_cons]
    refine hset.trans ?_
    split
    · next hkey => simp [hkey]
    · next hkey =>
      have hother : (manifest.key == key) = false := beq_eq_false_iff_ne.mpr (Ne.symm hkey)
      rw [hother, h.get?_manifests]

theorem Represents.find?_eq (h : registry.Represents overwrites ledger) (id : String)
    (version : Int) : registry.find? id version = ledger.mostRecent? id version := by
  rw [find?, h.get?_manifests, Ledger.mostRecent?_eq_find?]

/-- The key of a release is in use if the release was accepted before. -/
theorem Represents.contains_key (h : registry.Represents overwrites ledger) (manifest : Manifest) :
    registry.manifests.contains manifest.key = true
      ↔ ledger.Holds manifest.id manifest.version := by
  rw [← Ledger.mostRecent?_isSome, ← h.find?_eq]
  rfl

/-- How a registry takes a registration. It is accepted or it changes nothing, and that the registry
is closed is noticed first. That another manifest is overwritten is noticed as well. -/
structure Registers (registry : Registry) (overwrites : Bool) (ledger : Ledger)
    (manifest : Manifest) : Prop where
  accepted_iff : (∃ notices, (registry.perform (.register manifest)).2 = .ok notices)
    ↔ ledger.Admits overwrites manifest
  of_isClosed : ledger.isClosed = true →
    registry.perform (.register manifest) = (registry, .error (.frozen manifest.key))
  of_not_admits : ledger.isClosed = false → ¬ ledger.Admits overwrites manifest →
    registry.perform (.register manifest) = (registry, .error (.duplicate manifest.key))
  of_admits : ledger.Admits overwrites manifest → (registry.perform (.register manifest)).2
    = .ok (if ledger.Holds manifest.id manifest.version then
        [.overwritten manifest.key, .registered manifest.key] else [.registered manifest.key])

/-- A registration comes out in one of three ways. -/
theorem Represents.perform_register (h : registry.Represents overwrites ledger)
    (manifest : Manifest) :
    (ledger.isClosed = true ∧ ¬ ledger.Admits overwrites manifest
      ∧ registry.perform (.register manifest) = (registry, .error (.frozen manifest.key)))
    ∨ (ledger.isClosed = false ∧ ¬ ledger.Admits overwrites manifest
      ∧ registry.perform (.register manifest) = (registry, .error (.duplicate manifest.key)))
    ∨ (ledger.isClosed = false ∧ ledger.Admits overwrites manifest
      ∧ registry.perform (.register manifest) = (registry.insert manifest,
        .ok (if ledger.Holds manifest.id manifest.version then
          [.overwritten manifest.key, .registered manifest.key]
          else [.registered manifest.key]))) := by
  have hfrozen := h.isFrozen_eq
  have hoverwrites := h.overwrites_eq
  have hcontains := h.contains_key manifest
  unfold Ledger.Admits
  cases hclosed : ledger.isClosed with
  | true =>
    rw [hclosed] at hfrozen
    exact Or.inl (by simp [perform, register, hfrozen])
  | false =>
    rw [hclosed] at hfrozen
    refine Or.inr ?_
    by_cases hheld : ledger.Holds manifest.id manifest.version
    · have hused := hcontains.mpr hheld
      cases overwrites with
      | true => exact Or.inr (by simp [perform, register, hfrozen, hused, hoverwrites, hheld])
      | false => exact Or.inl (by simp [perform, register, hfrozen, hused, hoverwrites, hheld])
    · have hunused := mt hcontains.mp hheld
      exact Or.inr (by simp [perform, register, hfrozen, hunused, hheld])

theorem Represents.registers (h : registry.Represents overwrites ledger) (manifest : Manifest) :
    registry.Registers overwrites ledger manifest := by
  rcases h.perform_register manifest with ⟨hclosed, hnot, hperform⟩ | ⟨hopen, hnot, hperform⟩
    | ⟨hopen, hadmits, hperform⟩
  · exact ⟨by simp [hperform, hnot], fun _ => hperform, by simp [hclosed],
      fun hadmits => absurd hadmits hnot⟩
  · exact ⟨by simp [hperform, hnot], by simp [hopen], fun _ _ => hperform,
      fun hadmits => absurd hadmits hnot⟩
  · exact ⟨by simp [hperform, hadmits], by simp [hopen], fun _ hnot => absurd hadmits hnot,
      fun _ => by rw [hperform]⟩

/-! ## Sequences of calls -/

theorem Represents.perform (h : registry.Represents overwrites ledger) (call : RegistryCall) :
    (registry.perform call).1.Represents overwrites (ledger.next overwrites call) := by
  cases call with
  | freeze => exact ⟨h.overwrites_eq, rfl, h.get?_manifests⟩
  | register manifest =>
    rcases h.perform_register manifest with ⟨-, hnot, hperform⟩ | ⟨-, hnot, hperform⟩
      | ⟨-, hadmits, hperform⟩
    · rwa [hperform, Ledger.next, if_neg hnot]
    · rwa [hperform, Ledger.next, if_neg hnot]
    · rw [hperform, Ledger.next, if_pos hadmits]
      exact h.insert manifest

theorem Represents.run (h : registry.Represents overwrites ledger) (calls : List RegistryCall) :
    (registry.run calls).1.Represents overwrites (calls.foldl (Ledger.next overwrites) ledger) := by
  induction calls generalizing registry ledger with
  | nil => exact h
  | cons call calls ih => exact ih (h.perform call)

/-- After any sequence of calls, a registry represents its ledger. -/
theorem represents_run (overwrites : Bool) (calls : List RegistryCall) :
    ((empty overwrites).run calls).1.Represents overwrites (Ledger.after overwrites calls) :=
  (represents_empty overwrites).run calls

/-! ## Queries -/

/-- The registry has the releases that were accepted. -/
theorem Represents.mem_releases (h : registry.Represents overwrites ledger) (release : String × Int) :
    release ∈ registry.manifests.values.map Manifest.release
      ↔ release ∈ ledger.accepted.map Manifest.release := by
  obtain ⟨id, version⟩ := release
  rw [List.mem_map, List.mem_map, ← find?_isSome, h.find?_eq, Ledger.mostRecent?_isSome,
    Ledger.Holds]

/-- What is said of releases alone holds of the registry as of its ledger. -/
theorem Represents.exists_release (h : registry.Represents overwrites ledger)
    (p : String × Int → Prop) :
    (∃ manifest ∈ registry.manifests.values, p manifest.release)
      ↔ ∃ manifest ∈ ledger.accepted, p manifest.release := by
  have hreleases (manifests : List Manifest) : (∃ manifest ∈ manifests, p manifest.release)
      ↔ ∃ release ∈ manifests.map Manifest.release, p release := by
    simp only [List.mem_map, exists_exists_and_eq_and]
  simp only [hreleases, h.mem_releases]

/-- The latest versions that are kept are the highest ones that were accepted. -/
theorem Represents.get?_latest (h : registry.Represents overwrites ledger) (id : String) :
    registry.latest.get? id = ledger.highest? id := by
  refine Option.ext fun version => ?_
  rw [latest_eq_some_iff, Ledger.highest?_eq_some_iff]
  refine and_congr (h.exists_release (· = (id, version))) ?_
  have hlower := h.exists_release fun release => release.1 = id ∧ version < release.2
  simpa [Manifest.release] using not_congr hlower

theorem Represents.mem_keys (h : registry.Represents overwrites ledger) (key : String) :
    key ∈ registry.manifests.keys ↔ ∃ manifest ∈ ledger.accepted, manifest.key = key := by
  rw [Dictionary.mem_keys_iff, ← Option.isSome_iff_exists, h.get?_manifests, List.find?_isSome]
  simp only [beq_iff_eq]

theorem Represents.mem_keys_latest (h : registry.Represents overwrites ledger) (id : String) :
    id ∈ registry.latest.keys ↔ ∃ manifest ∈ ledger.accepted, manifest.id = id := by
  rw [Registry.mem_keys_latest]
  exact h.exists_release (·.1 = id)

/-- How a registry answers queries. -/
structure Answers (registry : Registry) (ledger : Ledger) : Prop where
  get?_version : ∀ id version, registry.get? id (some version) = ledger.mostRecent? id version
  get?_latest : ∀ id, registry.get? id none
    = (ledger.highest? id).bind fun version => registry.get? id (some version)
  get?_isSome : ∀ id, (registry.get? id none).isSome ↔ ∃ manifest ∈ ledger.accepted, manifest.id = id
  require_ok : ∀ id version manifest,
    registry.require id version = .ok manifest ↔ registry.get? id version = some manifest
  require_error : ∀ id version,
    (∃ error, registry.require id version = .error error) ↔ registry.get? id version = none
  require_told : ∀ id version error, registry.require id version = .error error →
    error.id = id ∧ error.version = version ∧ error.available.Pairwise (· < ·)
      ∧ ∀ key, key ∈ error.available ↔ ∃ manifest ∈ ledger.accepted, manifest.key = key
  summaries_sorted : (registry.summaries.map TypeSummary.id).Pairwise (· < ·)
  summaries_complete : ∀ id, id ∈ registry.summaries.map TypeSummary.id
    ↔ ∃ manifest ∈ ledger.accepted, manifest.id = id
  mem_summaries : ∀ summary, summary ∈ registry.summaries
    ↔ ∃ manifest, registry.get? summary.id none = some manifest
      ∧ summary = ⟨manifest.id, manifest.name, manifest.version⟩
  contains_iff : ∀ text, registry.contains text = true
    ↔ ∃ manifest ∈ ledger.accepted, manifest.key = text ∨ manifest.id = text
  size_eq : registry.size = (ledger.accepted.map Manifest.release).dedup.length
  isFrozen_eq : registry.isFrozen = ledger.isClosed

/-- What the two dictionaries of a registry hold: under every key the manifest accepted most
recently for it, and under every id the highest version accepted, for which there is a manifest. -/
structure Keeps (registry : Registry) (ledger : Ledger) : Prop where
  manifests_eq : ∀ key, registry.manifests.get? key = ledger.accepted.find? (·.key == key)
  latest_eq : ∀ id, registry.latest.get? id = ledger.highest? id
  exists_latest : ∀ id version, registry.latest.get? id = some version →
    ∃ manifest, registry.manifests.get? (Manifest.keyOf id version) = some manifest
      ∧ manifest.id = id ∧ manifest.version = version

theorem Represents.keeps (h : registry.Represents overwrites ledger) : registry.Keeps ledger where
  manifests_eq := h.get?_manifests
  latest_eq := h.get?_latest
  exists_latest id version hlatest := by
    obtain ⟨manifest, hfind⟩ := registry.coherent.exists_latest hlatest
    exact ⟨manifest, hfind, Prod.mk.inj (find?_eq_some.mp hfind).2⟩

theorem Represents.size_eq (h : registry.Represents overwrites ledger) :
    registry.size = (ledger.accepted.map Manifest.release).dedup.length := by
  -- a key for a release, and a release for a key
  have hkeys : registry.manifests.keys.Perm
      ((ledger.accepted.map Manifest.release).dedup.map fun release =>
        Manifest.keyOf release.1 release.2) := by
    refine (List.perm_ext_iff_of_nodup registry.manifests.nodup ?_).mpr fun key => ?_
    · refine (List.nodup_dedup _).map fun release release' hsame => ?_
      exact Prod.ext_iff.mpr (Manifest.keyOf_inj.mp hsame)
    · show key ∈ registry.manifests.keys ↔ _
      rw [h.mem_keys]
      simp [Manifest.release, Manifest.key]
  rw [size, ← Dictionary.length_keys, hkeys.length_eq, List.length_map]

theorem Represents.answers (h : registry.Represents overwrites ledger) :
    registry.Answers ledger where
  get?_version := h.find?_eq
  get?_latest id := by
    rw [← h.get?_latest, get?, Option.none_or]
    rfl
  get?_isSome id := by
    rw [← h.mem_keys_latest, Option.isSome_iff_exists]
    constructor
    · rintro ⟨manifest, hget⟩
      exact Registry.mem_keys_latest.mpr ⟨manifest, mem_and_id_of_get? hget⟩
    · intro hid
      obtain ⟨manifest, hmem, rfl⟩ := Registry.mem_keys_latest.mp hid
      obtain ⟨latest, hget, -⟩ := exists_get?_none hmem
      exact ⟨latest, hget⟩
  require_ok _ _ _ := require_eq_ok
  require_error id version := by
    simp [require_eq_error]
  require_told id version error herror := by
    obtain ⟨-, rfl⟩ := require_eq_error.mp herror
    refine ⟨rfl, rfl, pairwise_sortTexts_of_nodup registry.manifests.nodup, fun key => ?_⟩
    rw [mem_sortTexts, h.mem_keys]
  summaries_sorted := by
    rw [map_id_summaries]
    exact pairwise_sortTexts_of_nodup registry.latest.nodup
  summaries_complete id := by
    rw [map_id_summaries, mem_sortTexts, h.mem_keys_latest]
  mem_summaries _ := mem_summaries
  contains_iff text := by
    rw [contains, Bool.or_eq_true, Dictionary.contains_eq_true, Dictionary.contains_eq_true,
      h.mem_keys, h.mem_keys_latest, ← exists_or]
    simp only [and_or_left]
  size_eq := h.size_eq
  isFrozen_eq := h.isFrozen_eq

/-! ## The order of registration -/

/-- Two registries that no query can tell apart. -/
structure SameAnswers (registry other : Registry) : Prop where
  get?_eq : ∀ id version, registry.get? id version = other.get? id version
  require_eq : ∀ id version, registry.require id version = other.require id version
  summaries_eq : registry.summaries = other.summaries
  contains_eq : ∀ text, registry.contains text = other.contains text
  size_eq : registry.size = other.size
  describe_eq : registry.describe = other.describe
  isFrozen_eq : registry.isFrozen = other.isFrozen

/-- Two registries with the same manifests, registered in another order. -/
structure Rearranged (registry other : Registry) : Prop where
  overwrites_eq : registry.overwrites = other.overwrites
  isFrozen_eq : registry.isFrozen = other.isFrozen
  get?_manifests : ∀ key, registry.manifests.get? key = other.manifests.get? key

namespace Rearranged

/-- The latest versions are those of the manifests. -/
theorem get?_latest (h : registry.Rearranged other) (id : String) :
    registry.latest.get? id = other.latest.get? id := by
  have hmem (manifest : Manifest) : manifest ∈ registry.manifests.values
      ↔ manifest ∈ other.manifests.values := by
    simp only [Dictionary.mem_values_iff, h.get?_manifests]
  refine Option.ext fun version => ?_
  simp only [latest_eq_some_iff, hmem]

theorem get?_eq (h : registry.Rearranged other) (id : String) (version : Option Int) :
    registry.get? id version = other.get? id version := by
  have hfind : registry.find? id = other.find? id := funext fun _ => h.get?_manifests _
  rw [get?, get?, h.get?_latest, hfind]

theorem contains_manifests (h : registry.Rearranged other) (key : String) :
    registry.manifests.contains key = other.manifests.contains key := by
  rw [Dictionary.contains, Dictionary.contains, h.get?_manifests]

theorem contains_latest (h : registry.Rearranged other) (id : String) :
    registry.latest.contains id = other.latest.contains id := by
  rw [Dictionary.contains, Dictionary.contains, h.get?_latest]

theorem sameAnswers (h : registry.Rearranged other) : registry.SameAnswers other := by
  have hkeys := Dictionary.perm_keys h.get?_manifests
  have hids := Dictionary.perm_keys h.get?_latest
  have hsize : registry.size = other.size := by
    rw [size, size, ← Dictionary.length_keys, ← Dictionary.length_keys, hkeys.length_eq]
  have htypes : registry.latest.size = other.latest.size := by
    rw [← Dictionary.length_keys, ← Dictionary.length_keys, hids.length_eq]
  refine ⟨h.get?_eq, fun id version => ?_, ?_, fun text => ?_, hsize, ?_, h.isFrozen_eq⟩
  · rw [require, require, h.get?_eq, sortTexts_eq_of_perm hkeys]
  · simp only [summaries, sortTexts_eq_of_perm hids, h.get?_eq]
  · rw [contains, contains, h.contains_manifests, h.contains_latest]
  · unfold describe
    rw [htypes, hsize]

theorem insert (h : registry.Rearranged other) (manifest : Manifest) :
    (registry.insert manifest).Rearranged (other.insert manifest) where
  overwrites_eq := h.overwrites_eq
  isFrozen_eq := h.isFrozen_eq
  get?_manifests key := by
    have hset := registry.manifests.get?_set manifest.key key manifest
    rw [h.get?_manifests, ← Dictionary.get?_set] at hset
    exact hset

/-- The same call has the same reply, and leaves the two alike. -/
theorem perform (h : registry.Rearranged other) (call : RegistryCall) :
    (registry.perform call).2 = (other.perform call).2
      ∧ (registry.perform call).1.Rearranged (other.perform call).1 := by
  cases call with
  | freeze => exact ⟨rfl, h.overwrites_eq, rfl, h.get?_manifests⟩
  | register manifest =>
    simp only [Registry.perform, register, h.isFrozen_eq, h.contains_manifests, h.overwrites_eq]
    cases other.isFrozen with
    | true => exact ⟨rfl, h⟩
    | false =>
      cases other.manifests.contains manifest.key with
      | false => exact ⟨rfl, h.insert manifest⟩
      | true =>
        cases other.overwrites with
        | true => exact ⟨rfl, h.insert manifest⟩
        | false => exact ⟨rfl, h⟩

theorem run (h : registry.Rearranged other) (calls : List RegistryCall) :
    (registry.run calls).2 = (other.run calls).2
      ∧ (registry.run calls).1.Rearranged (other.run calls).1 := by
  induction calls generalizing registry other with
  | nil => exact ⟨rfl, h⟩
  | cons call calls ih =>
    obtain ⟨hreply, hnext⟩ := h.perform call
    obtain ⟨hreplies, hlast⟩ := ih hnext
    exact ⟨congrArg₂ List.cons hreply hreplies, hlast⟩

end Rearranged

/-- Where all releases differ, the order in which they are registered makes no difference. -/
theorem rearranged_of_perm {first second : List Manifest} (h : first.Perm second)
    (hdistinct : (first.map Manifest.release).Nodup) (overwrites : Bool) :
    ((empty overwrites).run (first.map .register)).1.Rearranged
      ((empty overwrites).run (second.map .register)).1 := by
  -- both ledgers list what was registered, backwards
  have hreverse {manifests : List Manifest} (hnodup : (manifests.map Manifest.release).Nodup) :
      ((manifests.reverse ++ Ledger.empty.accepted).map Manifest.release).Nodup := by
    rw [Ledger.empty, List.append_nil, List.map_reverse, List.nodup_reverse]
    exact hnodup
  have hnodup := (h.map Manifest.release).nodup_iff.mp hdistinct
  have hfirst := represents_run overwrites (first.map .register)
  have hsecond := represents_run overwrites (second.map .register)
  rw [Ledger.after, Ledger.accepted_register rfl (hreverse hdistinct)] at hfirst
  rw [Ledger.after, Ledger.accepted_register rfl (hreverse hnodup)] at hsecond
  refine ⟨hfirst.overwrites_eq.trans hsecond.overwrites_eq.symm,
    hfirst.isFrozen_eq.trans hsecond.isFrozen_eq.symm, fun key => ?_⟩
  have hperm : (first.reverse ++ Ledger.empty.accepted).Perm
      (second.reverse ++ Ledger.empty.accepted) :=
    ((first.reverse_perm.trans h).trans second.reverse_perm.symm).append_right _
  rw [hfirst.get?_manifests, hsecond.get?_manifests]
  exact Ledger.find?_key_of_perm hperm (hreverse hdistinct)

/-! ## Any sequence of calls -/

/-- Whatever is called, a registry registers and answers as its ledger says, and its two
dictionaries hold what the ledger says. Registrations of manifests whose releases all differ may be
made in any order: all later calls have the same replies, and all queries the same answers. -/
theorem refines_ledger (overwrites : Bool) (calls : List RegistryCall) :
    let registry := ((empty overwrites).run calls).1
    let ledger := Ledger.after overwrites calls
    (∀ manifest, registry.Registers overwrites ledger manifest)
    ∧ registry.Answers ledger
    ∧ registry.Keeps ledger
    ∧ ∀ first second : List Manifest, first.Perm second → (first.map Manifest.release).Nodup →
      let one := ((empty overwrites).run (first.map .register)).1.run calls
      let another := ((empty overwrites).run (second.map .register)).1.run calls
      one.2 = another.2 ∧ one.1.SameAnswers another.1 := by
  intro registry ledger
  have hrepresents : registry.Represents overwrites ledger := represents_run overwrites calls
  refine ⟨hrepresents.registers, hrepresents.answers, hrepresents.keeps, ?_⟩
  intro first second hperm hdistinct one another
  obtain ⟨hreplies, hlast⟩ := (rearranged_of_perm hperm hdistinct overwrites).run calls
  exact ⟨hreplies, hlast.sameAnswers⟩

/-- A manifest that differs from others in its id, its version and its name at most. The version
says how many came before it. -/
def edition (id : String) (before : Nat) (name : String) (hid : id ≠ "") : Manifest where
  id := id
  version := before + 1
  name := name
  description := ""
  documentKind := .multipleChoice
  binding := .singleChoice
  analytics _ _ _ _ := .error .noTerminalEvent
  id_ne_empty := hid
  one_le_version := by omega

/-- The second version of a type. -/
def secondEdition : Manifest := edition "quiz" 1 "second" (by decide)

/-- The first version of it. -/
def firstEdition : Manifest := edition "quiz" 0 "first" (by decide)

/-- A type with an id that looks like a key of the other type. -/
def colonized : Manifest := edition "quiz:1" 0 "other" (by decide)

/-- The second version once more, with another name. -/
def revisedEdition : Manifest := edition "quiz" 1 "revised" (by decide)

/-- The second version comes before the first one and is overwritten later. -/
def unordered : List RegistryCall :=
  [.register secondEdition, .register firstEdition, .register colonized, .register revisedEdition]

/-- The first version is found although it came later, the overwritten one is found under its old
place, and the latest version stays the second one. Where nothing is overwritten, the first two may
come in any order. -/
theorem unordered_refined :
    let registry := ((empty true).run unordered).1
    (registry.get? "quiz" none).map Manifest.name = some "revised"
    ∧ (registry.get? "quiz" (some 1)).map Manifest.name = some "first"
    ∧ (registry.get? "quiz:1" none).map Manifest.name = some "other"
    ∧ registry.latest.get? "quiz" = some 2
    ∧ (registry.manifests.get? "quiz:2").map Manifest.name = some "revised"
    ∧ registry.manifests.keys = ["quiz:2", "quiz:1", "quiz:1:1"]
    ∧ registry.size = 3
    ∧ (registry.perform (.register firstEdition)).2
      = .ok [.overwritten "quiz:1", .registered "quiz:1"]
    ∧ (((empty false).run [.register secondEdition, .register firstEdition]).1.run
        [.freeze]).1.SameAnswers
      (((empty false).run [.register firstEdition, .register secondEdition]).1.run
        [.freeze]).1 := by
  intro registry
  obtain ⟨hregisters, hanswers, hkeeps, -⟩ := refines_ledger true unordered
  obtain ⟨-, -, -, horder⟩ := refines_ledger false [.freeze]
  obtain ⟨-, hsame⟩ := horder [secondEdition, firstEdition] [firstEdition, secondEdition]
    (.swap _ _ _) (by decide)
  -- the ledger is evaluated, and the registry answers as it does
  have hlatest : (registry.get? "quiz" none).map Manifest.name = some "revised" := by
    rw [hanswers.get?_latest, show (Ledger.after true unordered).highest? "quiz" = some 2 by decide,
      Option.bind_some, hanswers.get?_version]
    decide
  refine ⟨hlatest, ?_, ?_, ?_, ?_, by decide, ?_, ?_, hsame⟩
  · rw [hanswers.get?_version]
    decide
  · rw [hanswers.get?_latest,
      show (Ledger.after true unordered).highest? "quiz:1" = some 1 by decide, Option.bind_some,
      hanswers.get?_version]
    decide
  · rw [hkeeps.latest_eq]
    decide
  · rw [hkeeps.manifests_eq]
    decide
  · rw [hanswers.size_eq]
    decide
  · rw [(hregisters firstEdition).of_admits (by decide)]
    decide

end Registry

end AdaptiveQuiz
