import AdaptiveQuiz.Proofs.Schema.Acceptance

/-!
# Reading back what was written

A value is written down in one of two forms: with all its fields, or without those that are null.
A schema that lets a field be absent wherever it lets it be null reads the same value back from
either form. The lemmas here say so for each kind of schema; a record then follows from its fields.

## Main definitions

* `Dump`: the two forms, with `Dump.value` and `Dump.fields`
* `Dumped`: what can be relied on about the fields of an object in one of the forms
* `Recovers`: a schema reads a value back from a JSON value in either form

## Main statements

* `recovers_arrayOf`, `recovers_listOfAtLeast`, `recovers_object`: arrays and objects
* `Dumped.required_eq`, `Dumped.optional_eq`, `Dumped.optionalNullable_eq`: fields of an object
-/

namespace AdaptiveQuiz.Schema

/-- How a value is written: with all its fields, or without those that are null. -/
inductive Dump where
  | full
  | compact
deriving DecidableEq, Repr

namespace Dump

/-- The form of a value. -/
def value : Dump → Json → Json
  | .full, v => v
  | .compact, v => v.withoutNulls

/-- The form of the fields of an object. -/
def fields : Dump → Fields → Fields
  | .full, fields => fields
  | .compact, fields => Json.withoutNullsFields fields

variable (dump : Dump)

@[simp] theorem value_text (s : String) : dump.value (.text s) = .text s := by
  cases dump <;> simp [value, Json.withoutNulls]

@[simp] theorem value_bool (b : Bool) : dump.value (.bool b) = .bool b := by
  cases dump <;> simp [value, Json.withoutNulls]

@[simp] theorem value_integer (n : Int) : dump.value (.integer n) = .integer n := by
  cases dump <;> simp [value, Json.withoutNulls]

@[simp] theorem value_number (x : Binary64) : dump.value (.number x) = .number x := by
  cases dump <;> simp [value, Json.withoutNulls]

@[simp] theorem value_object (fields : Fields) :
    dump.value (.object fields) = .object (dump.fields fields) := by
  cases dump <;> simp [value, Dump.fields, Json.withoutNulls]

theorem withoutNullsItems_eq_map (vs : List Json) :
    Json.withoutNullsItems vs = vs.map Json.withoutNulls := by
  induction vs with
  | nil => rfl
  | cons v rest ih => rw [Json.withoutNullsItems, ih, List.map_cons]

@[simp] theorem value_array (vs : List Json) :
    dump.value (.array vs) = .array (vs.map dump.value) := by
  cases dump with
  | full =>
    show Json.array vs = .array (vs.map id)
    rw [List.map_id]
  | compact =>
    show Json.withoutNulls (.array vs) = .array (vs.map Json.withoutNulls)
    rw [Json.withoutNulls, withoutNullsItems_eq_map]

/-- What is not null is not null in either form. -/
theorem value_ne_null {v : Json} (hv : v ≠ .null) : dump.value v ≠ .null := by
  cases dump with
  | full => exact hv
  | compact => cases v <;> first | exact absurd rfl hv | simp [value, Json.withoutNulls]

/-! ## Fields -/

theorem withoutNullsFields_cons {name : String} {v : Json} (rest : Fields) (hv : v ≠ .null) :
    Json.withoutNullsFields ((name, v) :: rest)
      = (name, v.withoutNulls) :: Json.withoutNullsFields rest := by
  cases v <;> first | exact absurd rfl hv | rfl

theorem get?_cons_of_ne {name key : String} {v : Json} {rest : Fields} (h : name ≠ key) :
    Fields.get? ((key, v) :: rest) name = Fields.get? rest name := by
  have hkey : (name == key) = false := beq_eq_false_iff_ne.mpr h
  rw [Fields.get?, List.lookup_cons, hkey]
  rfl

/-- A field of another name does not matter, whether it is dropped or not. -/
theorem get?_withoutNullsFields_cons_of_ne {name key : String} {v : Json} {rest : Fields}
    (h : name ≠ key) : Fields.get? (Json.withoutNullsFields ((key, v) :: rest)) name
      = Fields.get? (Json.withoutNullsFields rest) name := by
  by_cases hv : v = .null
  · rw [hv, Json.withoutNullsFields]
  · rw [withoutNullsFields_cons rest hv, get?_cons_of_ne h]

/-- A field that is not null is kept. -/
theorem get?_fields {fields : Fields} {name : String} {v : Json}
    (hget : Fields.get? fields name = some v) (hv : v ≠ .null) :
    Fields.get? (dump.fields fields) name = some (dump.value v) := by
  cases dump with
  | full => exact hget
  | compact =>
    show Fields.get? (Json.withoutNullsFields fields) name = some v.withoutNulls
    induction fields with
    | nil => cases hget
    | cons field rest ih =>
      obtain ⟨key, w⟩ := field
      -- the field is found here, or behind a field that may be dropped
      by_cases hkey : name = key
      · have hw : w = v := by simpa [Fields.get?, hkey] using hget
        rw [hkey, hw, withoutNullsFields_cons rest hv]
        simp [Fields.get?]
      · rw [get?_cons_of_ne hkey] at hget
        rw [get?_withoutNullsFields_cons_of_ne hkey]
        exact ih hget

theorem get?_withoutNullsFields_of_notMem {fields : Fields} {name : String}
    (h : name ∉ fields.map Prod.fst) :
    Fields.get? (Json.withoutNullsFields fields) name = none := by
  induction fields with
  | nil => rfl
  | cons field rest ih =>
    rw [List.map_cons, List.mem_cons, not_or] at h
    rw [get?_withoutNullsFields_cons_of_ne h.1]
    exact ih h.2

/-- A field that is null is null or absent, as no other field can take its place. -/
theorem get?_fields_of_null {fields : Fields} {name : String}
    (hkeys : (fields.map Prod.fst).Nodup) (hget : Fields.get? fields name = some .null) :
    Fields.get? (dump.fields fields) name = none
      ∨ Fields.get? (dump.fields fields) name = some .null := by
  cases dump with
  | full => exact Or.inr hget
  | compact =>
    refine Or.inl ?_
    show Fields.get? (Json.withoutNullsFields fields) name = none
    induction fields with
    | nil => rfl
    | cons field rest ih =>
      obtain ⟨key, w⟩ := field
      rw [List.map_cons, List.nodup_cons] at hkeys
      by_cases hkey : name = key
      · have hw : w = .null := by simpa [Fields.get?, hkey] using hget
        rw [hkey, hw, Json.withoutNullsFields]
        exact get?_withoutNullsFields_of_notMem hkeys.1
      · rw [get?_cons_of_ne hkey] at hget
        rw [get?_withoutNullsFields_cons_of_ne hkey]
        exact ih hkeys.2 hget

/-- Every field of a form is the form of a field. -/
theorem exists_of_mem_fields {fields : Fields} {name : String} {w : Json}
    (h : (name, w) ∈ dump.fields fields) : ∃ v, (name, v) ∈ fields ∧ w = dump.value v := by
  cases dump with
  | full => exact ⟨w, h, rfl⟩
  | compact =>
    change (name, w) ∈ Json.withoutNullsFields fields at h
    induction fields with
    | nil => cases h
    | cons field rest ih =>
      obtain ⟨key, v⟩ := field
      by_cases hv : v = .null
      · -- a field that is null is dropped
        rw [hv, Json.withoutNullsFields] at h
        obtain ⟨v', hmem, heq⟩ := ih h
        exact ⟨v', List.mem_cons_of_mem _ hmem, heq⟩
      · rw [withoutNullsFields_cons rest hv] at h
        rcases List.mem_cons.mp h with heq | hrest
        · cases heq
          exact ⟨v, List.mem_cons_self .., rfl⟩
        · obtain ⟨v', hmem, heq⟩ := ih hrest
          exact ⟨v', List.mem_cons_of_mem _ hmem, heq⟩

end Dump

/-- The fields of an object in one of its forms: what is not null is there, in its own form, and
what is null is null or absent. -/
structure Dumped (dump : Dump) (fields dumped : Fields) : Prop where
  get?_of_ne_null : ∀ name v, Fields.get? fields name = some v → v ≠ .null →
    Fields.get? dumped name = some (dump.value v)
  get?_of_null : ∀ name, Fields.get? fields name = some .null →
    Fields.get? dumped name = none ∨ Fields.get? dumped name = some .null

theorem dumped_self (fields : Fields) : Dumped .full fields fields where
  get?_of_ne_null _ _ hget _ := hget
  get?_of_null _ hget := Or.inr hget

theorem dumped_fields (dump : Dump) {fields : Fields} (hkeys : (fields.map Prod.fst).Nodup) :
    Dumped dump fields (dump.fields fields) where
  get?_of_ne_null _ _ := dump.get?_fields
  get?_of_null _ := dump.get?_fields_of_null hkeys

variable {α : Type}

/-- The schema reads a value back from a JSON value, which is not null, in either form. -/
structure Recovers (schema : Schema α) (v : Json) (a : α) : Prop where
  ne_null : v ≠ .null
  accepted : ∀ dump : Dump, schema (dump.value v) = .accepted a

/-! ## Scalars -/

theorem recovers_anyText (s : String) : Recovers anyText (.text s) s where
  ne_null := by simp
  accepted dump := by rw [Dump.value_text, anyText]

theorem recovers_nonemptyText {s : String} (hs : s ≠ "") : Recovers nonemptyText (.text s) s where
  ne_null := by simp
  accepted dump := by
    rw [Dump.value_text, nonemptyText_eq_accepted]
    exact ⟨rfl, hs⟩

theorem recovers_boolean (b : Bool) : Recovers boolean (.bool b) b where
  ne_null := by simp
  accepted dump := by rw [Dump.value_bool, boolean]

theorem recovers_integer (n : Int) : Recovers integer (.integer n) n where
  ne_null := by simp
  accepted dump := by rw [Dump.value_integer, integer]

theorem recovers_real (x : Binary64) : Recovers real (.number x) x where
  ne_null := by simp
  accepted dump := by
    rw [Dump.value_number]
    rfl

theorem Recovers.bounded {schema : Schema α} {v : Json} {a : α} (h : Recovers schema v a)
    {within : α → Bool} (hwithin : within a = true) (message : String) :
    Recovers (Schema.bounded schema within message) v a where
  ne_null := h.ne_null
  accepted dump := bounded_eq_accepted.mpr ⟨h.accepted dump, hwithin⟩

theorem recovers_atLeast {limit n : Int} (h : limit ≤ n) :
    Recovers (atLeast limit) (.integer n) n :=
  (recovers_integer n).bounded (decide_eq_true h) _

/-- A word stands for the only value that it is the word for. -/
theorem recovers_oneOf {values : List α} {word : α → String} {a : α} (hmem : a ∈ values)
    (hword : ∀ b ∈ values, word b = word a → b = a) :
    Recovers (oneOf values word) (.text (word a)) a where
  ne_null := by simp
  accepted dump := by
    rw [Dump.value_text]
    simp only [oneOf]
    cases hfind : values.find? (fun b => word b == word a) with
    | none => exact absurd (List.find?_eq_none.mp hfind a hmem) (by simp)
    | some b =>
      have hb : word b = word a := by simpa using List.find?_some hfind
      rw [hword b (List.mem_of_find?_eq_some hfind) hb]

/-! ## Arrays -/

theorem forall₂_dump {schema : Schema α} {encode : α → Json} {values : List α}
    (h : ∀ a ∈ values, Recovers schema (encode a) a) (dump : Dump) :
    List.Forall₂ (fun v a => schema v = .accepted a) ((values.map encode).map dump.value)
      values := by
  induction values with
  | nil => exact .nil
  | cons a rest ih =>
    have hhead : schema (dump.value (encode a)) = .accepted a :=
      (h a (List.mem_cons_self ..)).accepted dump
    exact .cons hhead (ih fun b hb => h b (List.mem_cons_of_mem _ hb))

theorem recovers_arrayOf {message : String} {schema : Schema α} {encode : α → Json}
    {values : List α} (h : ∀ a ∈ values, Recovers schema (encode a) a) :
    Recovers (arrayOf message schema) (.array (values.map encode)) values where
  ne_null := by simp
  accepted dump := by
    rw [Dump.value_array, arrayOf_eq_accepted]
    exact ⟨_, rfl, forall₂_dump h dump⟩

theorem recovers_listOf {schema : Schema α} {encode : α → Json} {values : List α}
    (h : ∀ a ∈ values, Recovers schema (encode a) a) :
    Recovers (listOf schema) (.array (values.map encode)) values :=
  recovers_arrayOf h

theorem recovers_listOfAtLeast {least : Nat} {schema : Schema α} {encode : α → Json}
    {values : List α} (hlength : least ≤ values.length)
    (h : ∀ a ∈ values, Recovers schema (encode a) a) :
    Recovers (listOfAtLeast least schema) (.array (values.map encode)) values where
  ne_null := by simp
  accepted dump := by
    rw [Dump.value_array, listOfAtLeast_eq_accepted]
    exact ⟨hlength, _, rfl, forall₂_dump h dump⟩

/-! ## Objects -/

/-- An object is read back if its fields are, in either form. -/
theorem recovers_object {schema : Schema α} {fields : Fields} {a : α}
    (hkeys : (fields.map Prod.fst).Nodup)
    (h : ∀ dump dumped, Dumped dump fields dumped → schema (.object dumped) = .accepted a) :
    Recovers schema (.object fields) a where
  ne_null := by simp
  accepted dump := by
    rw [Dump.value_object]
    exact h dump _ (dumped_fields dump hkeys)

namespace Dumped

variable {dump : Dump} {fields dumped : Fields} {name : String} {schema : Schema α} {v : Json}
  {a : α} {a? : Option α}

theorem required_eq (h : Dumped dump fields dumped) (hget : Fields.get? fields name = some v)
    (hv : Recovers schema v a) : required dumped name schema = .accepted a :=
  required_eq_accepted.mpr ⟨_, h.get?_of_ne_null name v hget hv.ne_null, hv.accepted dump⟩

theorem optional_eq {default : α} (h : Dumped dump fields dumped)
    (hget : Fields.get? fields name = some v) (hv : Recovers schema v a) :
    optional dumped name schema default = .accepted a :=
  optional_eq_accepted.mpr
    (Or.inr ⟨_, h.get?_of_ne_null name v hget hv.ne_null, hv.accepted dump⟩)

theorem nullable_of_ne_null (hv : v ≠ .null) (h : schema v = .accepted a) :
    nullable schema v = .accepted (some a) := by
  cases v <;> first | exact absurd rfl hv | simp [nullable, h]

/-- A field that may be null is read back, whether it is there or not. -/
theorem optionalNullable_eq_of_mem {encode : α → Json} (h : Dumped dump fields dumped)
    (hget : Fields.get? fields name = some (.ofOption encode a?))
    (hencode : ∀ a ∈ a?, Recovers schema (encode a) a) :
    optionalNullable dumped name schema = .accepted a? := by
  rw [optionalNullable, optional_eq_accepted]
  cases a? with
  | none =>
    -- absent or null, both stand for no value
    rcases h.get?_of_null name hget with habsent | hnull
    · exact Or.inl ⟨habsent, rfl⟩
    · exact Or.inr ⟨_, hnull, rfl⟩
  | some a =>
    have hrecovers : Recovers schema (encode a) a := hencode a rfl
    have hfield : Fields.get? dumped name = some (dump.value (encode a)) :=
      h.get?_of_ne_null name _ hget hrecovers.ne_null
    exact Or.inr ⟨_, hfield,
      nullable_of_ne_null (dump.value_ne_null hrecovers.ne_null) (hrecovers.accepted dump)⟩

theorem optionalNullable_eq {encode : α → Json} (h : Dumped dump fields dumped)
    (hget : Fields.get? fields name = some (.ofOption encode a?))
    (hencode : ∀ a, Recovers schema (encode a) a) :
    optionalNullable dumped name schema = .accepted a? :=
  h.optionalNullable_eq_of_mem hget fun a _ => hencode a

theorem optionalText_eq {s? : Option String} (h : Dumped dump fields dumped)
    (hget : Fields.get? fields name = some (.ofText? s?)) :
    optionalNullable dumped name anyText = .accepted s? := by
  have htext : Json.ofText? s? = .ofOption .text s? := by cases s? <;> rfl
  rw [htext] at hget
  exact h.optionalNullable_eq hget recovers_anyText

theorem optionalWord_eq {values : List α} {word : α → String} (h : Dumped dump fields dumped)
    (hget : Fields.get? fields name = some (.ofText? (a?.map word)))
    (hword : ∀ a, Recovers (oneOf values word) (.text (word a)) a) :
    optionalNullable dumped name (oneOf values word) = .accepted a? := by
  have htext : Json.ofText? (a?.map word) = .ofOption (fun a => .text (word a)) a? := by
    cases a? <;> rfl
  rw [htext] at hget
  exact h.optionalNullable_eq hget hword

end Dumped

end AdaptiveQuiz.Schema
