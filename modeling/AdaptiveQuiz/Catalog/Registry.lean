import AdaptiveQuiz.Catalog.Dictionary
import AdaptiveQuiz.Catalog.Manifest
import AdaptiveQuiz.Notice

/-!
# Registries

A registry holds manifests under their keys, at most one for every id and version. Beside them it
keeps the highest version of every id, which counts where no version is asked for; a registration
brings it up to date. A frozen registry takes no more manifests, and one that does not overwrite
takes none twice.

## Main definitions

* `Registry`, `RegistryError`
* `Registry.Coherent`: what the two dictionaries of a registry have to do with each other
* `Registry.register`, `Registry.freeze`
* `Registry.get?`, `Registry.require`, `Registry.summaries`
* `RegistryCall`, `Registry.perform`, `Registry.run`: sequences of calls

## Main statements

* `Registry.Coherent.insert`: registering a manifest keeps the dictionaries coherent
-/

namespace AdaptiveQuiz

/-- Manifests under their own keys, and the latest version of every id that they have: it is the
version of a manifest, and no manifest of the id has a higher one. -/
structure Registry.Coherent (manifests : Dictionary Manifest) (latest : Dictionary Int) : Prop where
  key_eq : ∀ {key manifest}, manifests.get? key = some manifest → manifest.key = key
  exists_latest : ∀ {id version}, latest.get? id = some version →
    ∃ manifest, manifests.get? (Manifest.keyOf id version) = some manifest
  le_latest : ∀ {key manifest}, manifests.get? key = some manifest →
    ∃ version, latest.get? manifest.id = some version ∧ manifest.version ≤ version

/-- Manifests by id and version. -/
structure Registry where
  overwrites : Bool
  /-- The manifests under their keys. -/
  manifests : Dictionary Manifest
  /-- The highest versions under the ids. -/
  latest : Dictionary Int
  isFrozen : Bool
  coherent : Registry.Coherent manifests latest

/-- Why a manifest is not registered. -/
inductive RegistryError where
  | frozen (key : String)
  | duplicate (key : String)
deriving DecidableEq, Repr

/-- The error in words. -/
def RegistryError.message : RegistryError → String
  | .frozen key => "Cannot register " ++ key ++ ": registry is frozen"
  | .duplicate key => "Manifest " ++ key ++ " is already registered"

/-- A question type for which there is no manifest, and what there is instead. -/
structure UnknownType where
  id : String
  version : Option Int
  available : List String
deriving DecidableEq, Repr

/-- The error in words. -/
def UnknownType.message (error : UnknownType) : String :=
  let wanted := match error.version with
    | none => error.id
    | some version => Manifest.keyOf error.id version
  "Question type '" ++ wanted ++ "' is not registered.\nAvailable types: "
    ++ ", ".intercalate error.available

/-- What there is to say about a question type. -/
structure TypeSummary where
  id : String
  name : String
  latestVersion : Int
deriving DecidableEq, Repr

namespace Registry

/-! ## Registration -/

/-- A registry without manifests. -/
def empty (overwrites : Bool) : Registry where
  overwrites := overwrites
  manifests := .empty
  latest := .empty
  isFrozen := false
  coherent := ⟨nofun, nofun, nofun⟩

/-- The latest versions with a manifest taken into account. They only ever move up. -/
def raise (latest : Dictionary Int) (manifest : Manifest) : Dictionary Int :=
  if (latest.get? manifest.id).getD 0 < manifest.version then
    latest.set manifest.id manifest.version
  else latest

/-- An id has the higher one of its version and the version that is registered. -/
theorem get?_raise (latest : Dictionary Int) (manifest : Manifest) (id : String) :
    (raise latest manifest).get? id = if id = manifest.id then
      some (max ((latest.get? id).getD manifest.version) manifest.version)
      else latest.get? id := by
  have hpositive := manifest.one_le_version
  unfold raise
  split
  · next hlt =>
    rw [Dictionary.get?_set]
    split
    · next hid =>
      rw [hid]
      cases hget : latest.get? manifest.id with
      | none => simp
      | some version =>
        rw [hget, Option.getD_some] at hlt
        rw [Option.getD_some, Int.max_eq_right (Int.le_of_lt hlt)]
    · rfl
  · next hnot =>
    split
    · next hid =>
      rw [hid]
      cases hget : latest.get? manifest.id with
      | none =>
        -- an id without a version counts as version zero, which is below every version
        rw [hget, Option.getD_none] at hnot
        omega
      | some version =>
        rw [hget, Option.getD_some] at hnot
        rw [Option.getD_some, Int.max_eq_left (Int.not_lt.mp hnot)]
    · rfl

/-- Registering a manifest keeps the dictionaries coherent. -/
theorem Coherent.insert {manifests : Dictionary Manifest} {latest : Dictionary Int}
    (h : Coherent manifests latest) (manifest : Manifest) :
    Coherent (manifests.set manifest.key manifest) (raise latest manifest) where
  key_eq := by
    intro key found hfound
    rw [Dictionary.get?_set] at hfound
    split at hfound
    · next hkey =>
      cases hfound
      exact hkey.symm
    · exact h.key_eq hfound
  exists_latest := by
    intro id version hversion
    rw [Dictionary.get?_set]
    split
    · exact ⟨manifest, rfl⟩
    · next hkey =>
      rw [get?_raise] at hversion
      split at hversion
      · next hid =>
        -- the version is not the one registered, so it was the latest before
        cases hget : latest.get? id with
        | none =>
          rw [hget, Option.getD_none, Int.max_self] at hversion
          cases hversion
          exact absurd (by rw [hid, Manifest.key]) hkey
        | some before =>
          rw [hget, Option.getD_some] at hversion
          cases hversion
          rcases Int.le_total before manifest.version with hle | hle
          · rw [Int.max_eq_right hle] at hkey
            exact absurd (by rw [hid, Manifest.key]) hkey
          · rw [Int.max_eq_left hle]
            exact h.exists_latest hget
      · exact h.exists_latest hversion
  le_latest := by
    intro key found hfound
    rw [get?_raise]
    rw [Dictionary.get?_set] at hfound
    split at hfound
    · cases hfound
      exact ⟨_, if_pos rfl, Int.le_max_right _ _⟩
    · obtain ⟨version, hget, hle⟩ := h.le_latest hfound
      split
      · rw [hget, Option.getD_some]
        exact ⟨_, rfl, Int.le_trans hle (Int.le_max_left _ _)⟩
      · exact ⟨version, hget, hle⟩

/-- Puts a manifest into the registry, in the place of one with the same key, and brings the latest
version of its id up to date. -/
def insert (registry : Registry) (manifest : Manifest) : Registry where
  overwrites := registry.overwrites
  manifests := registry.manifests.set manifest.key manifest
  latest := raise registry.latest manifest
  isFrozen := registry.isFrozen
  coherent := registry.coherent.insert manifest

/-- Registers a manifest. That the registry is frozen is noticed first. -/
def register (registry : Registry) (manifest : Manifest) :
    Except RegistryError (Registry × List Notice) :=
  if registry.isFrozen then .error (.frozen manifest.key)
  else if registry.manifests.contains manifest.key then
    if registry.overwrites then
      .ok (registry.insert manifest, [.overwritten manifest.key, .registered manifest.key])
    else .error (.duplicate manifest.key)
  else .ok (registry.insert manifest, [.registered manifest.key])

/-- Registers manifests one after the other, until one is refused. -/
def registerAll : List Manifest → Registry → Registry × List Notice × Except RegistryError Unit
  | [], registry => (registry, [], .ok ())
  | manifest :: manifests, registry =>
    match registry.register manifest with
    | .error error => (registry, [], .error error)
    | .ok (registry, notices) =>
      let (registry, more, answer) := registerAll manifests registry
      (registry, notices ++ more, answer)

/-- Takes no more manifests. -/
def freeze (registry : Registry) : Registry := { registry with isFrozen := true }

/-! ## Queries -/

/-- The manifest under the key of an id and a version. -/
def find? (registry : Registry) (id : String) (version : Int) : Option Manifest :=
  registry.manifests.get? (Manifest.keyOf id version)

/-- The manifest of an id, in the given version or in the latest one. -/
def get? (registry : Registry) (id : String) (version : Option Int) : Option Manifest :=
  (version.or (registry.latest.get? id)).bind (registry.find? id)

/-- Texts in the order of their code points. -/
def sortTexts (texts : List String) : List String := texts.mergeSort fun a b => decide (a ≤ b)

/-- The manifest of an id, or what there is instead. -/
def require (registry : Registry) (id : String) (version : Option Int) :
    Except UnknownType Manifest :=
  match registry.get? id version with
  | some manifest => .ok manifest
  | none => .error ⟨id, version, sortTexts registry.manifests.keys⟩

/-- A summary of every question type, in the order of the ids. -/
def summaries (registry : Registry) : List TypeSummary :=
  (sortTexts registry.latest.keys).filterMap fun id =>
    (registry.get? id none).map fun manifest => ⟨manifest.id, manifest.name, manifest.version⟩

/-- Whether a text is the key of a manifest or a registered id. -/
def contains (registry : Registry) (key : String) : Bool :=
  registry.manifests.contains key || registry.latest.contains key

/-- The number of manifests. -/
def size (registry : Registry) : Nat := registry.manifests.size

/-- The size of a registry in words. -/
def describe (registry : Registry) : String :=
  "ManifestRegistry(types=" ++ toString registry.latest.size ++ ", manifests="
    ++ toString registry.size ++ ")"

end Registry

/-! ## Sequences of calls -/

/-- What can be done with a registry, apart from queries. -/
inductive RegistryCall where
  | register (manifest : Manifest)
  | freeze

/-- What comes back: what was noticed, or why a manifest was not registered. -/
abbrev RegistryReply := Except RegistryError (List Notice)

namespace Registry

/-- Makes one call. A manifest that is not registered changes nothing. -/
def perform (registry : Registry) : RegistryCall → Registry × RegistryReply
  | .register manifest =>
    match registry.register manifest with
    | .ok (registry, notices) => (registry, .ok notices)
    | .error error => (registry, .error error)
  | .freeze => (registry.freeze, .ok [])

/-- Makes a sequence of calls. -/
def run (registry : Registry) : List RegistryCall → Registry × List RegistryReply
  | [] => (registry, [])
  | call :: calls =>
    let (next, reply) := registry.perform call
    let (last, replies) := next.run calls
    (last, reply :: replies)

end Registry

end AdaptiveQuiz
