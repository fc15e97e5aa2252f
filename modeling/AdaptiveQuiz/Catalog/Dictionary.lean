/-!
# Dictionaries

A dictionary holds values under texts, in the order in which the texts were first used. A text that
is used again keeps its place and has a new value.

## Main definitions

* `Dictionary`, with `Dictionary.get?`, `Dictionary.set`, `Dictionary.map`

## Main statements

* `Dictionary.get?_set`: what is found after a value was set
* `Dictionary.get?_eq_some_iff`: a look-up finds exactly the entries that there are
-/

namespace AdaptiveQuiz

/-- Values under texts, of which no two are the same. -/
@[ext]
structure Dictionary (α : Type) where
  entries : List (String × α)
  nodup : (entries.map Prod.fst).Nodup

namespace Dictionary

variable {α β : Type} {key key' : String} {value : α} {entries : List (String × α)}

/-- A dictionary without entries. -/
def empty : Dictionary α := ⟨[], List.nodup_nil⟩

/-- The texts, in order. -/
def keys (dictionary : Dictionary α) : List String := dictionary.entries.map Prod.fst

/-- The values, in order. -/
def values (dictionary : Dictionary α) : List α := dictionary.entries.map Prod.snd

/-- The number of entries. -/
def size (dictionary : Dictionary α) : Nat := dictionary.entries.length

/-- The value under a text. -/
def get? (dictionary : Dictionary α) (key : String) : Option α := dictionary.entries.lookup key

/-- Whether there is a value under a text. -/
def contains (dictionary : Dictionary α) (key : String) : Bool := (dictionary.get? key).isSome

/-! ## Setting values -/

/-- Entries with a value set: in its place if there is one under the text, at the end otherwise. -/
def setEntry (key : String) (value : α) : List (String × α) → List (String × α)
  | [] => [(key, value)]
  | entry :: entries =>
    if entry.1 = key then (key, value) :: entries else entry :: setEntry key value entries

theorem mem_keys_setEntry :
    key' ∈ (setEntry key value entries).map Prod.fst
      ↔ key' = key ∨ key' ∈ entries.map Prod.fst := by
  induction entries with
  | nil => simp [setEntry]
  | cons entry entries ih =>
    unfold setEntry
    split
    · next hkey => simp [hkey]
    · rw [List.map_cons, List.mem_cons, ih, List.map_cons, List.mem_cons, or_left_comm]

theorem nodup_setEntry (h : (entries.map Prod.fst).Nodup) :
    ((setEntry key value entries).map Prod.fst).Nodup := by
  induction entries with
  | nil => simp [setEntry]
  | cons entry entries ih =>
    obtain ⟨hfirst, hrest⟩ := List.nodup_cons.mp h
    unfold setEntry
    split
    · next hkey =>
      rw [hkey] at hfirst
      exact List.nodup_cons.mpr ⟨hfirst, hrest⟩
    · next hkey =>
      refine List.nodup_cons.mpr ⟨?_, ih hrest⟩
      rw [mem_keys_setEntry]
      exact not_or.mpr ⟨hkey, hfirst⟩

theorem lookup_cons (entry : String × α) (entries : List (String × α)) (key : String) :
    (entry :: entries).lookup key = if key = entry.1 then some entry.2 else entries.lookup key := by
  rw [List.lookup_cons]
  by_cases hkey : key = entry.1
  · simp [hkey]
  · simp [hkey, beq_eq_false_iff_ne.mpr hkey]

theorem lookup_setEntry : (setEntry key value entries).lookup key'
    = if key' = key then some value else entries.lookup key' := by
  induction entries with
  | nil => rw [setEntry, lookup_cons]
  | cons entry entries ih =>
    unfold setEntry
    split
    · next hkey =>
      rw [lookup_cons, lookup_cons, hkey]
      split <;> rfl
    · next hkey =>
      rw [lookup_cons, lookup_cons, ih]
      by_cases hsame : key' = key
      · -- the text that is set is not the one of the first entry
        rw [if_pos hsame, if_pos hsame, if_neg (hsame ▸ Ne.symm hkey)]
      · rw [if_neg hsame, if_neg hsame]

/-- Sets the value under a text. -/
def set (dictionary : Dictionary α) (key : String) (value : α) : Dictionary α :=
  ⟨setEntry key value dictionary.entries, nodup_setEntry dictionary.nodup⟩

/-- Applies a function to all values. -/
def map (f : α → β) (dictionary : Dictionary α) : Dictionary β where
  entries := dictionary.entries.map fun entry => (entry.1, f entry.2)
  nodup := by simpa [Function.comp_def] using dictionary.nodup

/-! ## Look-ups -/

@[simp] theorem get?_empty (key : String) : (empty : Dictionary α).get? key = none := rfl

theorem get?_set (dictionary : Dictionary α) (key key' : String) (value : α) :
    (dictionary.set key value).get? key'
      = if key' = key then some value else dictionary.get? key' :=
  lookup_setEntry

@[simp] theorem get?_set_self (dictionary : Dictionary α) (key : String) (value : α) :
    (dictionary.set key value).get? key = some value := by
  rw [get?_set, if_pos rfl]

/-- A look-up finds exactly the entries that there are. -/
theorem get?_eq_some_iff {dictionary : Dictionary α} :
    dictionary.get? key = some value ↔ (key, value) ∈ dictionary.entries := by
  obtain ⟨entries, hnodup⟩ := dictionary
  show entries.lookup key = some value ↔ (key, value) ∈ entries
  induction entries with
  | nil => simp
  | cons entry entries ih =>
    obtain ⟨hfirst, hrest⟩ := List.nodup_cons.mp hnodup
    rw [lookup_cons, List.mem_cons]
    split
    · next hkey =>
      -- no later entry has the text of the first one
      have hlater : (key, value) ∉ entries := fun hmem =>
        hfirst (List.mem_map.mpr ⟨(key, value), hmem, hkey⟩)
      rw [or_iff_left hlater]
      simp [hkey, Prod.ext_iff, eq_comm]
    · next hkey => simp [hkey, Prod.ext_iff, ih hrest]

theorem mem_keys_iff {dictionary : Dictionary α} :
    key ∈ dictionary.keys ↔ ∃ value, dictionary.get? key = some value := by
  simp [keys, get?_eq_some_iff]

theorem mem_values_iff {dictionary : Dictionary α} :
    value ∈ dictionary.values ↔ ∃ key, dictionary.get? key = some value := by
  simp [values, get?_eq_some_iff]

theorem contains_eq_true {dictionary : Dictionary α} :
    dictionary.contains key = true ↔ key ∈ dictionary.keys := by
  rw [contains, mem_keys_iff, Option.isSome_iff_exists]

theorem get?_map (f : α → β) (dictionary : Dictionary α) (key : String) :
    (dictionary.map f).get? key = (dictionary.get? key).map f := by
  refine Option.ext fun value => ?_
  rw [get?_eq_some_iff, Option.map_eq_some_iff]
  simp only [get?_eq_some_iff, map, List.mem_map, Prod.mk.injEq]
  constructor
  · rintro ⟨⟨_, value⟩, hmem, rfl, hvalue⟩
    exact ⟨value, hmem, hvalue⟩
  · rintro ⟨value, hmem, hvalue⟩
    exact ⟨(key, value), hmem, rfl, hvalue⟩

theorem keys_map (f : α → β) (dictionary : Dictionary α) :
    (dictionary.map f).keys = dictionary.keys := by
  simp [keys, map]

/-- Dictionaries with the same values under the same texts have the same texts. -/
theorem perm_keys {dictionary other : Dictionary α}
    (h : ∀ key, dictionary.get? key = other.get? key) : dictionary.keys.Perm other.keys := by
  refine (List.perm_ext_iff_of_nodup dictionary.nodup other.nodup).mpr fun key => ?_
  show key ∈ dictionary.keys ↔ key ∈ other.keys
  rw [mem_keys_iff, mem_keys_iff, h]

theorem length_keys (dictionary : Dictionary α) : dictionary.keys.length = dictionary.size :=
  List.length_map _

end Dictionary

end AdaptiveQuiz
