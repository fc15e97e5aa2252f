import AdaptiveQuiz.Catalog.Registry
import Mathlib.Data.List.Nodup

/-!
# What look-ups find

A manifest is one release of a question type: an id with a version. A registry keeps it under its
key, and different releases have different keys. So a look-up by id and version finds exactly what
is registered, one by the id alone finds the highest version, and the summaries name every id once,
in order.

## Main definitions

* `Manifest.release`

## Main statements

* `Manifest.keyOf_inj`: different releases have different keys
* `Registry.find?_eq_some`: a look-up finds exactly what is registered
* `Registry.latest_eq_some_iff`: the latest version of an id is the highest one
* `Registry.exists_get?_none`: a registered id has a highest version, which is found
* `Registry.require_eq_ok`, `Registry.require_eq_error`: a look-up that has to succeed
* `Registry.map_id_summaries`, `Registry.mem_summaries`: which summaries there are
-/

namespace AdaptiveQuiz

/-! ## Keys

The key of a manifest is written with a colon between id and version. The id may contain colons
itself, and digits after them, but a version is written without one, so the last colon of a key is
the one that was put there. -/

/-- Where the part before a separator does not contain it, it can be told from the rest. -/
theorem append_separator_inj {α : Type} {separator : α} {before before' after after' : List α}
    (h : separator ∉ before) (h' : separator ∉ before')
    (heq : before ++ separator :: after = before' ++ separator :: after') :
    before = before' ∧ after = after' := by
  -- the longer one of the two first parts would go on with the separator
  rcases List.append_eq_append_iff.mp heq with ⟨_ | ⟨c, rest⟩, hbefore, hafter⟩
    | ⟨_ | ⟨c, rest⟩, hbefore, hafter⟩
  · simpa [hbefore, eq_comm] using hafter
  · cases hafter
    simp [hbefore] at h'
  · simpa [hbefore, eq_comm] using hafter
  · cases hafter
    simp [hbefore] at h

/-- A numeral has no characters but digits. -/
theorem notMem_repr {c : Char} (hc : c.isDigit = false) (n : Nat) : c ∉ n.repr.toList := by
  intro hmem
  rw [Nat.repr_eq_ofList_toDigits, String.toList_ofList] at hmem
  have hdigit := Nat.isDigit_of_mem_toDigits (by decide) (by decide) hmem
  rw [hc] at hdigit
  cases hdigit

theorem eq_of_repr_eq {n m : Nat} (h : n.repr = m.repr) : n = m := by
  rw [Nat.repr_eq_ofList_toDigits, Nat.repr_eq_ofList_toDigits, String.ofList_inj] at h
  -- the digits are read back
  rw [← Nat.ofDigitChars_toDigits (b := 10) (n := n) (by decide) (by decide), h,
    Nat.ofDigitChars_toDigits (by decide) (by decide)]

/-- Different integers are written differently. -/
theorem eq_of_toString_eq {n m : Int} (h : toString n = toString m) : n = m := by
  have hsign (k l : Nat) : k.repr ≠ "-" ++ l.repr := by
    intro heq
    have hmem : '-' ∈ k.repr.toList := by
      rw [heq, String.toList_append]
      exact List.mem_append_left _ (by decide)
    exact notMem_repr (by decide) k hmem
  rw [Int.toString_eq_repr, Int.toString_eq_repr, Int.repr_eq_if, Int.repr_eq_if] at h
  split at h
  · split at h
    · have hnat := eq_of_repr_eq h
      omega
    · exact absurd h (hsign _ _)
  · split at h
    · exact absurd h.symm (hsign _ _)
    · rw [String.append_right_inj] at h
      have hnat := eq_of_repr_eq h
      omega

namespace Manifest

variable {manifest : Manifest} {id id' : String} {version version' : Int}

/-- What a manifest is registered as: its id and its version. -/
def release (manifest : Manifest) : String × Int := (manifest.id, manifest.version)

theorem colon_notMem_toString (n : Int) : ':' ∉ (toString n).toList := by
  rw [Int.toString_eq_repr, Int.repr_eq_if]
  split
  · exact notMem_repr (by decide) _
  · rw [String.toList_append, List.mem_append]
    rintro (hminus | hmem)
    · revert hminus
      decide
    · exact notMem_repr (by decide) _ hmem

/-- Different releases have different keys, whatever the ids contain. -/
theorem keyOf_inj : keyOf id version = keyOf id' version' ↔ id = id' ∧ version = version' := by
  constructor
  · intro hkeys
    -- read from the end, the first colon is the one between version and id
    have hreversed : (toString version).toList.reverse ++ ':' :: id.toList.reverse
        = (toString version').toList.reverse ++ ':' :: id'.toList.reverse := by
      simpa [keyOf] using congrArg (fun key => key.toList.reverse) hkeys
    obtain ⟨hversion, hid⟩ := append_separator_inj
      (fun hmem => colon_notMem_toString version (List.mem_reverse.mp hmem))
      (fun hmem => colon_notMem_toString version' (List.mem_reverse.mp hmem)) hreversed
    rw [List.reverse_inj, String.toList_inj] at hversion hid
    exact ⟨hid, eq_of_toString_eq hversion⟩
  · rintro ⟨rfl, rfl⟩
    rfl

/-- The key of a manifest tells its release. -/
theorem key_eq_keyOf_iff : manifest.key = keyOf id version ↔ manifest.release = (id, version) := by
  rw [key, keyOf_inj, release, Prod.mk.injEq]

end Manifest

namespace Registry

variable {registry : Registry} {manifest : Manifest} {id : String} {version : Int}

/-! ## By id and version -/

/-- What is found under a key is registered under it. -/
theorem get?_manifests_eq_some {key : String} : registry.manifests.get? key = some manifest
    ↔ manifest ∈ registry.manifests.values ∧ manifest.key = key := by
  rw [Dictionary.mem_values_iff]
  constructor
  · intro hget
    exact ⟨⟨key, hget⟩, registry.coherent.key_eq hget⟩
  · rintro ⟨⟨key', hget⟩, rfl⟩
    rw [registry.coherent.key_eq hget]
    exact hget

/-- A look-up finds exactly what is registered. -/
theorem find?_eq_some : registry.find? id version = some manifest
    ↔ manifest ∈ registry.manifests.values ∧ manifest.release = (id, version) := by
  rw [find?, get?_manifests_eq_some, Manifest.key_eq_keyOf_iff]

theorem find?_isSome : (registry.find? id version).isSome = true
    ↔ ∃ manifest ∈ registry.manifests.values, manifest.release = (id, version) := by
  simp only [Option.isSome_iff_exists, find?_eq_some]

/-! ## The highest version -/

/-- The latest version of an id is the highest one that is registered. -/
theorem latest_eq_some_iff : registry.latest.get? id = some version
    ↔ (∃ manifest ∈ registry.manifests.values, manifest.release = (id, version))
      ∧ ∀ manifest ∈ registry.manifests.values, manifest.id = id → manifest.version ≤ version := by
  have hhighest (other : Manifest) (hmem : other ∈ registry.manifests.values) :
      ∃ latest, registry.latest.get? other.id = some latest ∧ other.version ≤ latest := by
    obtain ⟨key, hget⟩ := Dictionary.mem_values_iff.mp hmem
    exact registry.coherent.le_latest hget
  constructor
  · intro hlatest
    refine ⟨?_, fun other hmem hid => ?_⟩
    · rw [← find?_isSome]
      exact Option.isSome_iff_exists.mpr (registry.coherent.exists_latest hlatest)
    · obtain ⟨latest, hget, hle⟩ := hhighest other hmem
      rw [hid, hlatest] at hget
      cases hget
      exact hle
  · rintro ⟨⟨manifest, hmem, hrelease⟩, hle⟩
    obtain ⟨rfl, rfl⟩ := Prod.mk.inj hrelease
    obtain ⟨latest, hget, hge⟩ := hhighest manifest hmem
    -- the latest version is registered as well, so it is not higher
    obtain ⟨other, hother⟩ := registry.coherent.exists_latest hget
    obtain ⟨hotherMem, hotherRelease⟩ := find?_eq_some.mp hother
    obtain ⟨hid, rfl⟩ := Prod.mk.inj hotherRelease
    rw [hget, Int.le_antisymm (hle other hotherMem hid) hge]

/-- What a look-up gives is registered under the id that was asked for. -/
theorem mem_and_id_of_get? {version : Option Int} (h : registry.get? id version = some manifest) :
    manifest ∈ registry.manifests.values ∧ manifest.id = id := by
  obtain ⟨version, -, hfind⟩ := Option.bind_eq_some_iff.mp h
  obtain ⟨hmem, hrelease⟩ := find?_eq_some.mp hfind
  exact ⟨hmem, congrArg Prod.fst hrelease⟩

/-- Without a version the look-up is for the latest one. -/
theorem get?_none_eq_some : registry.get? id none = some manifest
    ↔ ∃ version, registry.latest.get? id = some version
      ∧ registry.find? id version = some manifest := by
  rw [get?, Option.none_or, Option.bind_eq_some_iff]

/-- An id that is registered has a highest version, which is found. -/
theorem exists_get?_none (hmem : manifest ∈ registry.manifests.values) :
    ∃ latest, registry.get? manifest.id none = some latest ∧ latest.id = manifest.id := by
  obtain ⟨key, hkey⟩ := Dictionary.mem_values_iff.mp hmem
  obtain ⟨version, hlatest, -⟩ := registry.coherent.le_latest hkey
  obtain ⟨latest, hfind⟩ := registry.coherent.exists_latest hlatest
  have hget : registry.get? manifest.id none = some latest :=
    get?_none_eq_some.mpr ⟨version, hlatest, hfind⟩
  exact ⟨latest, hget, (mem_and_id_of_get? hget).2⟩

/-! ## Look-ups that have to succeed -/

theorem require_eq_ok {version : Option Int} :
    registry.require id version = .ok manifest ↔ registry.get? id version = some manifest := by
  unfold require
  cases registry.get? id version with
  | none => simp
  | some found => simp

/-- What is said of a type that is not there: its name, and the keys of what is there instead. -/
theorem require_eq_error {version : Option Int} {error : UnknownType} :
    registry.require id version = .error error ↔ registry.get? id version = none
      ∧ error = ⟨id, version, sortTexts registry.manifests.keys⟩ := by
  unfold require
  cases registry.get? id version with
  | none => simp [eq_comm]
  | some found => simp

/-! ## Texts in order -/

theorem mem_sortTexts {texts : List String} {text : String} :
    text ∈ sortTexts texts ↔ text ∈ texts :=
  (List.mergeSort_perm texts _).mem_iff

theorem pairwise_sortTexts (texts : List String) : (sortTexts texts).Pairwise (· ≤ ·) := by
  have hsorted : (sortTexts texts).Pairwise fun a b => decide (a ≤ b) = true := by
    refine List.pairwise_mergeSort (fun _ _ _ hab hbc => ?_) (fun a b => ?_) texts
    · rw [decide_eq_true_eq] at hab hbc ⊢
      exact String.le_trans hab hbc
    · simpa using String.le_total a b
  exact hsorted.imp fun hle => of_decide_eq_true hle

/-- The order in which texts are given makes no difference. -/
theorem sortTexts_eq_of_perm {texts texts' : List String} (h : texts.Perm texts') :
    sortTexts texts = sortTexts texts' :=
  List.Perm.eq_of_pairwise (fun _ _ _ _ hab hba => String.le_antisymm hab hba)
    (pairwise_sortTexts texts) (pairwise_sortTexts texts')
    (((List.mergeSort_perm texts _).trans h).trans (List.mergeSort_perm texts' _).symm)

/-! ## Summaries -/

/-- The ids that have a latest version are those of the manifests. -/
theorem mem_keys_latest : id ∈ registry.latest.keys
    ↔ ∃ manifest ∈ registry.manifests.values, manifest.id = id := by
  rw [Dictionary.mem_keys_iff]
  constructor
  · rintro ⟨version, hlatest⟩
    obtain ⟨⟨manifest, hmem, hrelease⟩, -⟩ := latest_eq_some_iff.mp hlatest
    exact ⟨manifest, hmem, congrArg Prod.fst hrelease⟩
  · rintro ⟨manifest, hmem, rfl⟩
    obtain ⟨key, hget⟩ := Dictionary.mem_values_iff.mp hmem
    obtain ⟨version, hlatest, -⟩ := registry.coherent.le_latest hget
    exact ⟨version, hlatest⟩

/-- Different texts are in strict order once they are sorted. -/
theorem pairwise_sortTexts_of_nodup {texts : List String} (h : texts.Nodup) :
    (sortTexts texts).Pairwise (· < ·) := by
  have hnodup : (sortTexts texts).Nodup := (List.mergeSort_perm texts _).nodup_iff.mpr h
  refine (pairwise_sortTexts texts).imp₂ (fun a b hle hne => ?_) hnodup
  exact String.not_le.mp fun hge => hne (String.le_antisymm hle hge)

/-- There is one summary for every id, in the order of the ids. -/
theorem map_id_summaries (registry : Registry) :
    registry.summaries.map TypeSummary.id = sortTexts registry.latest.keys := by
  have hall (texts : List String) (h : ∀ id ∈ texts, id ∈ registry.latest.keys) :
      (texts.filterMap fun id => (registry.get? id none).map fun manifest =>
        (⟨manifest.id, manifest.name, manifest.version⟩ : TypeSummary)).map TypeSummary.id
        = texts := by
    induction texts with
    | nil => rfl
    | cons id rest ih =>
      obtain ⟨hid, hrest⟩ := List.forall_mem_cons.mp h
      obtain ⟨manifest, hmem, rfl⟩ := mem_keys_latest.mp hid
      obtain ⟨latest, hget, hlatest⟩ := exists_get?_none hmem
      simp only [List.filterMap_cons, hget, Option.map_some, List.map_cons, hlatest, ih hrest]
  exact hall _ fun id hid => mem_sortTexts.mp hid

/-- A summary describes what the look-up by its id finds. -/
theorem mem_summaries {summary : TypeSummary} : summary ∈ registry.summaries
    ↔ ∃ manifest, registry.get? summary.id none = some manifest
      ∧ summary = ⟨manifest.id, manifest.name, manifest.version⟩ := by
  simp only [summaries, List.mem_filterMap, mem_sortTexts, Option.map_eq_some_iff]
  constructor
  · rintro ⟨id, -, manifest, hget, rfl⟩
    rw [← (mem_and_id_of_get? hget).2] at hget
    exact ⟨manifest, hget, rfl⟩
  · rintro ⟨manifest, hget, hsummary⟩
    obtain ⟨hmem, hid⟩ := mem_and_id_of_get? hget
    exact ⟨summary.id, mem_keys_latest.mpr ⟨manifest, hmem, hid⟩, manifest, hget, hsummary.symm⟩

end Registry

end AdaptiveQuiz
