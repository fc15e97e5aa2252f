import AdaptiveQuiz.Schema.Record
import Mathlib.Data.List.Forall2
import Mathlib.Data.List.Nodup

/-!
# What acceptance says

A check is taken apart along its structure: if a combination of checks accepts a value, each part
accepts its share of it. With these equivalences the schema of a record gives up what it promises
about the fields without being unfolded as a whole.

## Main statements

* `Checked.seq_eq_accepted`, `Checked.ensure_eq_accepted`: outcomes side by side and in sequence
* `required_eq_accepted`, `optional_eq_accepted`, `record_eq_accepted`: objects
* `listOfAtLeast_eq_accepted`: arrays, item by item
* `firstRepeated?_nil_eq_none`: no text is found repeated if and only if all differ
-/

namespace AdaptiveQuiz.Schema

namespace Checked

variable {α β : Type}

theorem reject_ne_accepted {message : String} {a : α} : reject message ≠ .accepted a := nofun

@[simp] theorem map_eq_accepted {f : α → β} {x : Checked α} {b : β} :
    f <$> x = .accepted b ↔ ∃ a, x = .accepted a ∧ f a = b := by
  cases x with
  | accepted a => simp
  | rejected first others => simp

@[simp] theorem seq_eq_accepted {f : Checked (α → β)} {x : Checked α} {b : β} :
    (f <*> x) = .accepted b ↔ ∃ g a, f = .accepted g ∧ x = .accepted a ∧ g a = b := by
  cases f with
  | accepted g =>
    cases x with
    | accepted a => simp
    | rejected first others => exact ⟨nofun, by simp⟩
  | rejected first others => exact ⟨nofun, by simp⟩

@[simp] theorem within_eq_accepted {step : Step} {x : Checked α} {a : α} :
    x.within step = .accepted a ↔ x = .accepted a := by
  cases x with
  | accepted a => simp
  | rejected first others => exact ⟨nofun, nofun⟩

theorem andThen_eq_accepted {x : Checked α} {f : α → Checked β} {b : β} :
    x.andThen f = .accepted b ↔ ∃ a, x = .accepted a ∧ f a = .accepted b := by
  cases x with
  | accepted a => simp
  | rejected first others => exact ⟨nofun, by simp⟩

theorem ensure_eq_accepted {x : Checked α} {fault? : α → Option String} {a : α} :
    x.ensure fault? = .accepted a ↔ x = .accepted a ∧ fault? a = none := by
  rw [ensure, andThen_eq_accepted]
  constructor
  · rintro ⟨a', rfl, hfault⟩
    split at hfault
    · next hnone =>
      cases hfault
      exact ⟨rfl, hnone⟩
    · exact absurd hfault reject_ne_accepted
  · rintro ⟨rfl, hnone⟩
    exact ⟨a, rfl, by simp [hnone]⟩

/-! ### Issues, and other forms of what is accepted -/

theorem map_id (x : Checked α) : id <$> x = x := by
  cases x <;> rfl

theorem map_seq {γ : Type} (f : β → γ) (x : Checked (α → β)) (y : Checked α) :
    f <$> (x <*> y) = ((f ∘ ·) <$> x) <*> y := by
  cases x with
  | accepted g => cases y <;> rfl
  | rejected first others => rfl

theorem map_ensure {f : α → β} {fault? : α → Option String} {fault?' : β → Option String}
    (h : ∀ a, fault?' (f a) = fault? a) (x : Checked α) :
    f <$> x.ensure fault? = (f <$> x).ensure fault?' := by
  cases x with
  | accepted a =>
    simp only [ensure, map_accepted, andThen_accepted, h]
    cases fault? a <;> rfl
  | rejected first others => rfl

theorem issues_map (f : α → β) (x : Checked α) : (f <$> x).issues = x.issues := by
  cases x <;> rfl

/-- A condition that fails is the only issue, which is about the value as a whole. -/
theorem issues_ensure (x : Checked α) (fault? : α → Option String) :
    (x.ensure fault?).issues = x.issues
      ∨ x.issues = [] ∧ ∃ message, (x.ensure fault?).issues = [⟨[], message⟩] := by
  cases x with
  | accepted a =>
    simp only [ensure, andThen_accepted]
    cases fault? a with
    | none => exact Or.inl rfl
    | some fault => exact Or.inr ⟨rfl, _, rfl⟩
  | rejected first others => exact Or.inl rfl

end Checked

variable {α : Type}

/-! ## Scalars -/

theorem anyText_eq_accepted {v : Json} {s : String} : anyText v = .accepted s ↔ v = .text s := by
  cases v <;> simp [anyText, Checked.reject]

/-- What is read as a text that may be missing. -/
def IsTextOrNull (v : Json) : Prop := v = .null ∨ ∃ s, v = .text s

theorem exists_nullable_anyText {v : Json} :
    (∃ a, nullable anyText v = .accepted a) ↔ IsTextOrNull v := by
  cases v <;> simp [nullable, anyText, Checked.reject, IsTextOrNull]

theorem nonemptyText_eq_accepted {v : Json} {s : String} :
    nonemptyText v = .accepted s ↔ v = .text s ∧ s ≠ "" := by
  simp only [nonemptyText, Checked.andThen_eq_accepted, anyText_eq_accepted]
  constructor
  · rintro ⟨t, rfl, ht⟩
    split at ht
    · exact absurd ht Checked.reject_ne_accepted
    · next hne =>
      cases ht
      exact ⟨rfl, hne⟩
  · rintro ⟨rfl, hne⟩
    exact ⟨s, rfl, by simp [hne]⟩

/-- A value of a list of words was named by its word. -/
theorem oneOf_eq_accepted {values : List α} {word : α → String} {v : Json} {a : α}
    (h : oneOf values word v = .accepted a) : a ∈ values ∧ v = .text (word a) := by
  cases v with
  | text s =>
    simp only [oneOf] at h
    split at h
    · next found hfind =>
      cases h
      have hword : word a = s := by simpa using List.find?_some hfind
      exact ⟨List.mem_of_find?_eq_some hfind, by rw [hword]⟩
    · exact absurd h Checked.reject_ne_accepted
  | _ => exact absurd h Checked.reject_ne_accepted

theorem bounded_eq_accepted {schema : Schema α} {within : α → Bool} {message : String} {v : Json}
    {a : α} : bounded schema within message v = .accepted a
      ↔ schema v = .accepted a ∧ within a = true := by
  rw [bounded, Checked.andThen_eq_accepted]
  constructor
  · rintro ⟨a', haccepted, hwithin⟩
    split at hwithin
    · next hbound =>
      cases hwithin
      exact ⟨haccepted, hbound⟩
    · exact absurd hwithin Checked.reject_ne_accepted
  · rintro ⟨haccepted, hwithin⟩
    exact ⟨a, haccepted, if_pos hwithin⟩

theorem nullable_eq_some {schema : Schema α} {v : Json} {a : α}
    (h : nullable schema v = .accepted (some a)) : schema v = .accepted a := by
  unfold nullable at h
  split at h
  · cases h
  · obtain ⟨a', haccepted, hsome⟩ := Checked.map_eq_accepted.mp h
    cases hsome
    exact haccepted

/-! ## Objects -/

theorem record_eq_accepted {name : String} {check : Fields → Checked α} {v : Json} {a : α} :
    record name check v = .accepted a
      ↔ ∃ fields, v = .object fields ∧ check fields = .accepted a := by
  cases v <;> simp [record, Checked.reject]

theorem required_eq_accepted {fields : Fields} {name : String} {schema : Schema α} {a : α} :
    required fields name schema = .accepted a
      ↔ ∃ v, Fields.get? fields name = some v ∧ schema v = .accepted a := by
  unfold required
  cases hget : Fields.get? fields name with
  | none => simp [Checked.reject]
  | some v => simp

theorem optional_eq_accepted {fields : Fields} {name : String} {schema : Schema α} {default a : α} :
    optional fields name schema default = .accepted a
      ↔ (Fields.get? fields name = none ∧ default = a)
        ∨ ∃ v, Fields.get? fields name = some v ∧ schema v = .accepted a := by
  unfold optional
  cases hget : Fields.get? fields name with
  | none => simp
  | some v => simp

/-- What is looked up among the fields whose names pass a test is found if its own name passes. -/
theorem get?_filter (keep : String → Bool) (fields : Fields) (name : String) :
    Fields.get? (fields.filter fun field => keep field.1) name
      = if keep name then Fields.get? fields name else none := by
  induction fields with
  | nil => simp [Fields.get?]
  | cons field rest ih =>
    unfold Fields.get? at ih ⊢
    rw [List.filter_cons, List.lookup_cons]
    by_cases hname : name = field.1
    · -- the field itself is kept or left out
      rw [← hname, beq_self_eq_true]
      cases hkeep : keep name with
      | true => rw [if_pos rfl, if_pos rfl, List.lookup_cons, ← hname, beq_self_eq_true]
      | false => simpa [hkeep] using ih
    · have hother : (name == field.1) = false := beq_eq_false_iff_ne.mpr hname
      rw [hother]
      split
      · rw [List.lookup_cons, hother, ih]
      · exact ih

/-- Of the fields of an object, a check of one field looks at this field only. -/
theorem required_congr {fields fields' : Fields} {name : String}
    (h : Fields.get? fields' name = Fields.get? fields name) (schema : Schema α) :
    required fields' name schema = required fields name schema := by
  rw [required, h, required]

theorem optional_congr {fields fields' : Fields} {name : String}
    (h : Fields.get? fields' name = Fields.get? fields name) (schema : Schema α) (default : α) :
    optional fields' name schema default = optional fields name schema default := by
  rw [optional, h, optional]

/-! ## Arrays -/

theorem items_eq_accepted {schema : Schema α} {index : Nat} {vs : List Json} {values : List α} :
    items schema index vs = .accepted values
      ↔ List.Forall₂ (fun v value => schema v = .accepted value) vs values := by
  induction vs generalizing index values with
  | nil =>
    rw [List.forall₂_nil_left_iff, items]
    exact ⟨fun h => by cases h; rfl, fun h => by rw [h]⟩
  | cons v rest ih =>
    rw [List.forall₂_cons_left_iff]
    simp only [items, Checked.seq_eq_accepted, Checked.map_eq_accepted,
      Checked.within_eq_accepted, ih]
    constructor
    · rintro ⟨_, tail, ⟨value, hvalue, rfl⟩, htail, rfl⟩
      exact ⟨value, tail, hvalue, htail, rfl⟩
    · rintro ⟨value, tail, hvalue, htail, rfl⟩
      exact ⟨_, tail, ⟨value, hvalue, rfl⟩, htail, rfl⟩

theorem arrayOf_eq_accepted {message : String} {schema : Schema α} {v : Json} {values : List α} :
    arrayOf message schema v = .accepted values
      ↔ ∃ vs, v = .array vs
        ∧ List.Forall₂ (fun v value => schema v = .accepted value) vs values := by
  cases v <;> simp [arrayOf, Checked.reject, items_eq_accepted]

theorem listOfAtLeast_eq_accepted {least : Nat} {schema : Schema α} {v : Json} {values : List α} :
    listOfAtLeast least schema v = .accepted values
      ↔ least ≤ values.length ∧ ∃ vs, v = .array vs
        ∧ List.Forall₂ (fun v value => schema v = .accepted value) vs values := by
  simp only [listOfAtLeast, listOf, Checked.andThen_eq_accepted, arrayOf_eq_accepted]
  constructor
  · rintro ⟨values', hitems, hlength⟩
    split at hlength
    · exact absurd hlength Checked.reject_ne_accepted
    · next hge =>
      cases hlength
      exact ⟨Nat.le_of_not_lt hge, hitems⟩
  · rintro ⟨hlength, hitems⟩
    exact ⟨values, hitems, by simp [Nat.not_lt.mpr hlength]⟩

/-- Each value that a list was accepted with is the value of one of the items. -/
theorem exists_item_of_forall₂ {schema : Schema α} {vs : List Json} {values : List α}
    (h : List.Forall₂ (fun v value => schema v = .accepted value) vs values) {value : α}
    (hvalue : value ∈ values) : ∃ v ∈ vs, schema v = .accepted value := by
  induction h with
  | nil => cases hvalue
  | cons hhead htail ih =>
    rcases List.mem_cons.mp hvalue with rfl | hvalue
    · exact ⟨_, List.mem_cons_self .., hhead⟩
    · obtain ⟨v, hv, haccepted⟩ := ih hvalue
      exact ⟨v, List.mem_cons_of_mem _ hv, haccepted⟩

/-! ## Repeated texts -/

theorem firstRepeated?_eq_none_iff {seen texts : List String} :
    firstRepeated? seen texts = none ↔ texts.Nodup ∧ ∀ s ∈ texts, s ∉ seen := by
  induction texts generalizing seen with
  | nil => simp [firstRepeated?]
  | cons s rest ih =>
    by_cases hseen : s ∈ seen
    · simp [firstRepeated?, hseen]
    · simp only [firstRepeated?, List.contains_iff_mem, hseen, if_false, ih, List.nodup_cons,
        List.mem_cons, forall_eq_or_imp, not_or, not_false_eq_true, true_and]
      constructor
      · rintro ⟨hnodup, hrest⟩
        exact ⟨⟨fun hs => (hrest s hs).1 rfl, hnodup⟩, fun t ht => (hrest t ht).2⟩
      · rintro ⟨⟨hs, hnodup⟩, hrest⟩
        exact ⟨hnodup, fun t ht => ⟨fun heq => hs (heq ▸ ht), hrest t ht⟩⟩

theorem firstRepeated?_nil_eq_none {texts : List String} :
    firstRepeated? [] texts = none ↔ texts.Nodup := by
  simp [firstRepeated?_eq_none_iff]

end AdaptiveQuiz.Schema
