import AdaptiveQuiz.Proofs.Schema.Acceptance

/-!
# What is accepted, seen from outside

Which JSON values a schema accepts can be said without the schema, by the shape of the value: what
kinds of scalars stand where, which fields an object must have and which it may have, and which
arrays have items with different keys. Here are the shapes, each with the schema that accepts just
the values of this shape.

## Main definitions

* `Checked.IsAccepted`: an outcome with a value
* `IsText`, `IsName`, `IsWord`, `IsBoolean`, `IsInteger`, `OrNull`: shapes of scalars
* `Has`, `May`, `IsObject`: shapes of objects, by their fields
* `IsArray`, `IsKeyed`: shapes of arrays

## Main statements

* `isAccepted_record`, `isAccepted_required`, `isAccepted_optional`
* `exists_required_keyed`: a list whose values have different names
-/

namespace AdaptiveQuiz.Schema

variable {α β : Type}

/-! ## Outcomes with a value -/

namespace Checked

/-- The outcome has a value. -/
def IsAccepted (x : Checked α) : Prop := ∃ a, x = .accepted a

@[simp] theorem isAccepted_accepted (a : α) : (accepted a).IsAccepted := ⟨a, rfl⟩

@[simp] theorem not_isAccepted_reject (message : String) :
    ¬ (reject message : Checked α).IsAccepted := nofun

@[simp] theorem isAccepted_map {f : α → β} {x : Checked α} :
    (f <$> x).IsAccepted ↔ x.IsAccepted := by
  simp [IsAccepted]

/-- Side by side, both outcomes need a value. -/
@[simp] theorem isAccepted_seq {f : Checked (α → β)} {x : Checked α} :
    (f <*> x).IsAccepted ↔ f.IsAccepted ∧ x.IsAccepted := by
  simp [IsAccepted]

@[simp] theorem isAccepted_within {step : Step} {x : Checked α} :
    (x.within step).IsAccepted ↔ x.IsAccepted := by
  simp [IsAccepted]

/-- A condition that only looks at the last part is a condition on this part. -/
theorem isAccepted_ensure_seq {f : Checked (α → β)} {x : Checked α} {fault? : β → Option String}
    (good : α → Prop) (h : ∀ g a, f = .accepted g → (fault? (g a) = none ↔ good a)) :
    ((f <*> x).ensure fault?).IsAccepted ↔ f.IsAccepted ∧ ∃ a, x = .accepted a ∧ good a := by
  simp only [IsAccepted, ensure_eq_accepted, seq_eq_accepted]
  constructor
  · rintro ⟨_, ⟨g, a, hf, hx, rfl⟩, hfault⟩
    exact ⟨⟨g, hf⟩, a, hx, (h g a hf).mp hfault⟩
  · rintro ⟨⟨g, hf⟩, a, hx, hgood⟩
    exact ⟨_, ⟨g, a, hf, hx, rfl⟩, (h g a hf).mpr hgood⟩

end Checked

open Checked

/-! ## Scalars -/

/-- A text. -/
def IsText (v : Json) : Prop := ∃ s, v = .text s

/-- A text that is not empty. -/
def IsName (v : Json) : Prop := ∃ s, s ≠ "" ∧ v = .text s

/-- One of a few words. -/
def IsWord (words : List String) (v : Json) : Prop := ∃ s ∈ words, v = .text s

/-- A boolean, or what counts as one: the numbers zero and one, and some words. -/
inductive IsBoolean : Json → Prop where
  | bool (b : Bool) : IsBoolean (.bool b)
  | zero : IsBoolean (.integer 0)
  | one : IsBoolean (.integer 1)
  | zeroDouble {x : Binary64} (h : x.isZero = true) : IsBoolean (.number x)
  | oneDouble : IsBoolean (.number .one)
  | word {s : String} (h : s.map Char.toLower ∈ trueWords ++ falseWords) : IsBoolean (.text s)

/-- An integer, or what counts as one: a boolean, a double without fraction and a numeral. -/
inductive IsInteger : Json → Prop where
  | integer (n : Int) : IsInteger (.integer n)
  | bool (b : Bool) : IsInteger (.bool b)
  | double {x : Binary64} {n : Int} (h : wholeWord? x = some n) : IsInteger (.number x)
  | numeral {s : String} {n : Int} (h : Numeral.integer s.toList = .ok n) : IsInteger (.text s)

/-- Null, or a value of another shape. -/
def OrNull (fits : Json → Prop) (v : Json) : Prop := v = .null ∨ fits v

@[simp] theorem isAccepted_anyText {v : Json} : (anyText v).IsAccepted ↔ IsText v := by
  simp only [IsAccepted, anyText_eq_accepted, IsText]

@[simp] theorem isAccepted_nonemptyText {v : Json} : (nonemptyText v).IsAccepted ↔ IsName v := by
  simp only [IsAccepted, nonemptyText_eq_accepted, IsName, and_comm]

@[simp] theorem isAccepted_oneOf {values : List α} {word : α → String} {v : Json} :
    (oneOf values word v).IsAccepted ↔ IsWord (values.map word) v := by
  constructor
  · rintro ⟨a, h⟩
    obtain ⟨hmem, rfl⟩ := oneOf_eq_accepted h
    exact ⟨word a, List.mem_map_of_mem hmem, rfl⟩
  · rintro ⟨s, hs, rfl⟩
    obtain ⟨a, hmem, rfl⟩ := List.mem_map.mp hs
    simp only [oneOf]
    split
    · exact isAccepted_accepted _
    · next hnone => exact absurd (List.find?_eq_none.mp hnone a hmem) (by simp)

theorem booleanWord?_isSome {s : String} :
    (booleanWord? s).isSome = true ↔ s.map Char.toLower ∈ trueWords ++ falseWords := by
  simp only [booleanWord?, List.contains_iff_mem, List.mem_append]
  split
  · next htrue => simp [htrue]
  · next htrue =>
    split
    · next hfalse => simp [hfalse]
    · next hfalse => simp [htrue, hfalse]

@[simp] theorem isAccepted_boolean {v : Json} : (boolean v).IsAccepted ↔ IsBoolean v := by
  constructor
  · intro h
    cases v with
    | bool b => exact .bool b
    | integer n =>
      simp only [boolean] at h
      split_ifs at h with hzero hone
      · exact hzero ▸ .zero
      · exact hone ▸ .one
      · exact absurd h (not_isAccepted_reject _)
      · exact absurd h (not_isAccepted_reject _)
    | number x =>
      simp only [boolean] at h
      split_ifs at h with hzero hone
      · exact .zeroDouble hzero
      · exact hone ▸ .oneDouble
      · split at h <;> exact absurd h (not_isAccepted_reject _)
    | text s =>
      simp only [boolean] at h
      split at h
      · next b hb => exact .word (booleanWord?_isSome.mp (by simp [hb]))
      · exact absurd h (not_isAccepted_reject _)
    | _ => exact absurd h (not_isAccepted_reject _)
  · intro h
    cases h with
    | bool b => exact isAccepted_accepted b
    | zero => exact isAccepted_accepted false
    | one => exact isAccepted_accepted true
    | zeroDouble hzero => simp [boolean, hzero]
    | oneDouble =>
      simp only [boolean]
      split <;> simp
    | word hword =>
      obtain ⟨b, hb⟩ := Option.isSome_iff_exists.mp (booleanWord?_isSome.mpr hword)
      simp [boolean, hb]

/-- A double counts as an integer if it is a whole one of the right size. -/
theorem isAccepted_integerOfDouble {x : Binary64} :
    (integerOfDouble x).IsAccepted ↔ ∃ n, wholeWord? x = some n := by
  unfold integerOfDouble
  split
  · next hnone => simp [wholeWord?, hnone]
  · next n hsome =>
    split
    · split
      · next m hm => simp [hm]
      · next hm => simp [hm]
    · next hfraction => simp [wholeWord?, hsome, hfraction]

@[simp] theorem isAccepted_integer {v : Json} : (integer v).IsAccepted ↔ IsInteger v := by
  constructor
  · intro h
    cases v with
    | bool b => exact .bool b
    | integer n => exact .integer n
    | number x =>
      obtain ⟨n, hn⟩ := isAccepted_integerOfDouble.mp h
      exact .double hn
    | text s =>
      simp only [integer] at h
      split at h
      · next n hn => exact .numeral hn
      · exact absurd h (not_isAccepted_reject _)
      · exact absurd h (not_isAccepted_reject _)
    | _ => exact absurd h (not_isAccepted_reject _)
  · intro h
    cases h with
    | integer n => exact isAccepted_accepted n
    | bool b => exact isAccepted_accepted _
    | double hn => exact isAccepted_integerOfDouble.mpr ⟨_, hn⟩
    | numeral hn => simp [integer, hn]

@[simp] theorem isAccepted_nullable {schema : Schema α} {v : Json} :
    (nullable schema v).IsAccepted ↔ OrNull (fun v => (schema v).IsAccepted) v := by
  unfold OrNull
  cases v <;> simp [nullable]

/-! ## Objects -/

/-- A field that is there. -/
def Has (fields : Fields) (name : String) (fits : Json → Prop) : Prop :=
  ∃ v, Fields.get? fields name = some v ∧ fits v

/-- A field that may be there. -/
def May (fields : Fields) (name : String) (fits : Json → Prop) : Prop :=
  ∀ v, Fields.get? fields name = some v → fits v

/-- An object with certain fields. -/
def IsObject (fits : Fields → Prop) (v : Json) : Prop := ∃ fields, v = .object fields ∧ fits fields

theorem isObject_congr {fits fits' : Fields → Prop} (h : ∀ fields, fits fields ↔ fits' fields)
    (v : Json) : IsObject fits v ↔ IsObject fits' v := by
  simp only [IsObject, h]

@[simp] theorem isObject_object {fits : Fields → Prop} {fields : Fields} :
    IsObject fits (.object fields) ↔ fits fields := by
  simp [IsObject]

@[simp] theorem isAccepted_record {name : String} {check : Fields → Checked α} {v : Json} :
    (record name check v).IsAccepted ↔ IsObject (fun fields => (check fields).IsAccepted) v := by
  unfold IsObject
  cases v <;> simp [record]

@[simp] theorem isAccepted_dictionary {v : Json} :
    (dictionary v).IsAccepted ↔ IsObject (fun _ => True) v := by
  unfold IsObject
  cases v <;> simp [dictionary]

variable {fields : Fields} {name : String} {schema : Schema α}

@[simp] theorem isAccepted_required : (required fields name schema).IsAccepted
    ↔ Has fields name fun v => (schema v).IsAccepted := by
  unfold required Has
  cases Fields.get? fields name <;> simp

@[simp] theorem isAccepted_optional {default : α} :
    (Schema.optional fields name schema default).IsAccepted
      ↔ May fields name fun v => (schema v).IsAccepted := by
  unfold Schema.optional May
  cases Fields.get? fields name <;> simp

@[simp] theorem isAccepted_optionalNullable : (optionalNullable fields name schema).IsAccepted
    ↔ May fields name (OrNull fun v => (schema v).IsAccepted) := by
  simp [optionalNullable]

/-! ## Arrays -/

/-- An array of items of one shape. -/
def IsArray (fits : Json → Prop) (v : Json) : Prop := ∃ vs, v = .array vs ∧ ∀ w ∈ vs, fits w

/-- An array of items of one shape, with at least so many of them, and no two with the same key. -/
def IsKeyed (least : Nat) (key : String) (fits : Json → Prop) (v : Json) : Prop :=
  ∃ vs, v = .array vs ∧ least ≤ vs.length ∧ (∀ w ∈ vs, fits w) ∧ (vs.map (Json.field? key)).Nodup

/-- Items that are all accepted have values, one each. -/
theorem exists_values {vs : List Json} : (∀ v ∈ vs, (schema v).IsAccepted)
    ↔ ∃ values, List.Forall₂ (fun v value => schema v = .accepted value) vs values := by
  induction vs with
  | nil => simp
  | cons v rest ih =>
    rw [List.forall_mem_cons, ih]
    simp only [List.forall₂_cons_left_iff]
    constructor
    · rintro ⟨⟨value, hvalue⟩, values, hvalues⟩
      exact ⟨_, value, values, hvalue, hvalues, rfl⟩
    · rintro ⟨_, value, values, hvalue, hvalues, rfl⟩
      exact ⟨⟨value, hvalue⟩, values, hvalues⟩

@[simp] theorem isAccepted_listOf {v : Json} :
    (listOf schema v).IsAccepted ↔ IsArray (fun v => (schema v).IsAccepted) v := by
  simp only [IsAccepted, listOf, arrayOf_eq_accepted]
  constructor
  · rintro ⟨values, vs, rfl, hitems⟩
    exact ⟨vs, rfl, exists_values.mpr ⟨values, hitems⟩⟩
  · rintro ⟨vs, rfl, hall⟩
    obtain ⟨values, hitems⟩ := exists_values.mp hall
    exact ⟨values, vs, rfl, hitems⟩

/-! ## Names of items -/

/-- A key of the items that holds the name of the value that an item is accepted as. -/
def Names (schema : Schema α) (key : String) (nameOf : α → String) : Prop :=
  ∀ v a, schema v = .accepted a → v.field? key = some (.text (nameOf a))

theorem get?_of_nonemptyText {s : String}
    (h : required fields name nonemptyText = .accepted s) :
    Fields.get? fields name = some (.text s) := by
  obtain ⟨v, hget, hv⟩ := required_eq_accepted.mp h
  rw [hget, (nonemptyText_eq_accepted.mp hv).1]

variable {key : String} {nameOf : α → String} {least : Nat}

theorem Names.map_field? (h : Names schema key nameOf) {vs : List Json} {values : List α}
    (hitems : List.Forall₂ (fun v value => schema v = .accepted value) vs values) :
    vs.map (Json.field? key) = values.map fun a => some (.text (nameOf a)) := by
  induction hitems with
  | nil => rfl
  | cons hhead _ ih => rw [List.map_cons, List.map_cons, h _ _ hhead, ih]

/-- The keys of the items differ exactly if the names of the values do. -/
theorem Names.nodup_iff (h : Names schema key nameOf) {vs : List Json} {values : List α}
    (hitems : List.Forall₂ (fun v value => schema v = .accepted value) vs values) :
    (vs.map (Json.field? key)).Nodup ↔ (values.map nameOf).Nodup := by
  have hinjective : Function.Injective fun s : String => some (Json.text s) := by
    intro s t heq
    simpa using heq
  have hcomp : (values.map fun a => some (Json.text (nameOf a)))
      = (values.map nameOf).map fun s => some (Json.text s) := by
    rw [List.map_map]
    rfl
  rw [h.map_field? hitems, hcomp, List.nodup_map_iff hinjective]

/-- A name of a value is the key of an item. -/
theorem Names.mem_iff (h : Names schema key nameOf) {vs : List Json} {values : List α}
    (hitems : List.Forall₂ (fun v value => schema v = .accepted value) vs values) {s : String} :
    (∃ v ∈ vs, v.field? key = some (.text s)) ↔ s ∈ values.map nameOf := by
  rw [← List.mem_map, h.map_field? hitems]
  simp

/-- A field with a list is an array with an item for each value. -/
theorem exists_items_of_required {values : List α}
    (h : required fields name (listOfAtLeast least schema) = .accepted values) :
    ∃ vs, Fields.get? fields name = some (.array vs)
      ∧ List.Forall₂ (fun v value => schema v = .accepted value) vs values := by
  obtain ⟨v, hget, hv⟩ := required_eq_accepted.mp h
  obtain ⟨-, vs, rfl, hitems⟩ := listOfAtLeast_eq_accepted.mp hv
  exact ⟨vs, hget, hitems⟩

/-- A list with values of different names is one with items of different keys. -/
theorem Names.exists_required_keyed (h : Names schema key nameOf) :
    (∃ values, required fields name (listOfAtLeast least schema) = .accepted values
      ∧ (values.map nameOf).Nodup)
      ↔ Has fields name (IsKeyed least key fun v => (schema v).IsAccepted) := by
  simp only [required_eq_accepted, listOfAtLeast_eq_accepted]
  constructor
  · rintro ⟨values, ⟨v, hget, hlength, vs, rfl, hitems⟩, hnodup⟩
    refine ⟨_, hget, vs, rfl, ?_, exists_values.mpr ⟨values, hitems⟩,
      (h.nodup_iff hitems).mpr hnodup⟩
    rw [hitems.length_eq]
    exact hlength
  · rintro ⟨v, hget, vs, rfl, hlength, hall, hnodup⟩
    obtain ⟨values, hitems⟩ := exists_values.mp hall
    rw [hitems.length_eq] at hlength
    exact ⟨values, ⟨_, hget, hlength, vs, rfl, hitems⟩, (h.nodup_iff hitems).mp hnodup⟩

end AdaptiveQuiz.Schema
