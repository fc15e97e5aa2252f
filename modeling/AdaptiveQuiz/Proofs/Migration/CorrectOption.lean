import AdaptiveQuiz.Proofs.Migration.Legacy
import Mathlib.Order.Bounds.Basic

/-!
# Which option of a legacy question is correct

A legacy question may say in several ways which of its options is correct, and at most one of them
counts. An id wins over everything else. Without one it is the answer if that is a text, without
such an answer the index if that is an integer, and only then the flags of the options. None of the
ways falls back on the next one if it leads nowhere.

Here the place of the correct option is said by these rules, without any search, and a conversion
is shown to succeed exactly if there is such a place.

## Main definitions

* `Legacy.IsOption`: what can be converted into an option
* `Legacy.Becomes`, `Legacy.Corresponds`: options and what they become in a document
* `Legacy.NamesIndex`: the index that a question names
* `Legacy.Marked`: where the correct option stands if no id is given
* `Legacy.Shows`: the options of a converted document and the id of the correct one

## Main statements

* `Legacy.corresponds_of_convertOptions`, `Legacy.exists_badOption`: the conversion of options
* `Legacy.correctOption?_eq_some`: the option that is found stands at the marked place
* `Legacy.migrate_marked`
-/

namespace AdaptiveQuiz.Legacy

variable {fields : Fields} {options : List Json} {converted : List LegacyOption}

/-! ## Options -/

/-- Options are texts and objects. -/
inductive IsOption : Json → Prop where
  | text (s : String) : IsOption (.text s)
  | object (details : Fields) : IsOption (.object details)

/-- What an object shows in a document. It says id, text and image itself, and there is a substitute
for each; an id that does not count as given is none. -/
structure OfObject (index : Nat) (details : Fields) (id text : String) (image : Json) : Prop where
  id_of_given : ∀ given, Fields.get? details "id" = some given → given.isTruthy = true →
    id = given.display
  id_of_missing : (∀ given, Fields.get? details "id" = some given → given.isTruthy = false) →
    id = "opt_" ++ toString index
  text_of_given : ∀ given, Fields.get? details "text" = some given → text = given.display
  text_of_missing : Fields.get? details "text" = none → text = ""
  image_of_given : ∀ given, Fields.get? details "image_url" = some given → image = given
  image_of_missing : Fields.get? details "image_url" = none → image = .null

/-- What an option at an index becomes in a document. Only an option that was an object has an
image. -/
inductive Becomes (index : Nat) : Json → Json → Prop where
  | text (s : String) : Becomes index (.text s)
      (.object [("id", .text ("opt_" ++ toString index)), ("text", .text s)])
  | object {details : Fields} {id text : String} {image : Json}
      (h : OfObject index details id text image) : Becomes index (.object details)
      (.object [("id", .text id), ("text", .text text), ("image_url", image)])

/-- Options and what they become, one by one and in the same order. -/
structure Corresponds (options shown : List Json) : Prop where
  length_eq : shown.length = options.length
  becomes : ∀ i v, options[i]? = some v → ∃ option, shown[i]? = some option ∧ Becomes i v option

/-- A field counts as missing if what it holds does not count as given. -/
theorem firstTruthy?_eq_none {v? : Option Json} :
    Json.firstTruthy? [v?] = none ↔ ∀ v, v? = some v → v.isTruthy = false := by
  cases v? <;> simp [Json.firstTruthy?]

theorem firstTruthy?_of_given {v : Json} (h : v.isTruthy = true) :
    Json.firstTruthy? [some v] = some v := by
  simp [Json.firstTruthy?, h]

theorem becomes_of_convertOption {index : Nat} {v : Json} {option : LegacyOption}
    (h : convertOption index v = .ok option) : Becomes index v option.toJson := by
  cases v with
  | text s =>
    cases h
    exact .text s
  | object details =>
    cases h
    refine .object ⟨?_, ?_, ?_, ?_, ?_, ?_⟩
    · intro given hget hgiven
      simp [hget, firstTruthy?_of_given hgiven]
    · intro hmissing
      simp [firstTruthy?_eq_none.mpr hmissing, indexId]
    · intro given hget
      simp [hget]
    · intro hnone
      simp [hnone]
    · intro given hget
      simp [fieldOrNull, hget]
    · intro hnone
      simp [fieldOrNull, hnone]
  | _ => cases h

theorem flagged_of_convertOption {index : Nat} {v : Json} {option : LegacyOption}
    (h : convertOption index v = .ok option) :
    option.flagged = true
      ↔ ∃ details, v = .object details ∧ Fields.get? details "is_correct" = some (.bool true) := by
  cases v with
  | text s =>
    cases h
    simp
  | object details =>
    cases h
    simp
  | _ => cases h

theorem exists_convertOption {v : Json} (h : IsOption v) (index : Nat) :
    ∃ option, convertOption index v = .ok option := by
  cases h with
  | text s => exact ⟨_, rfl⟩
  | object details => exact ⟨_, rfl⟩

theorem convertOption_of_not_isOption {v : Json} (h : ¬ IsOption v) (index : Nat) :
    convertOption index v = .error (.badOption index v.kind) := by
  cases v with
  | text s => exact absurd (.text s) h
  | object details => exact absurd (.object details) h
  | _ => rfl

/-! ## Lists of options -/

theorem convertOptions_cons {index : Nat} {v : Json} {rest : List Json} :
    convertOptions index (v :: rest) = .ok converted
      ↔ ∃ option others, convertOption index v = .ok option
        ∧ convertOptions (index + 1) rest = .ok others ∧ converted = option :: others := by
  simp only [convertOptions, except_bind_eq_ok]
  constructor
  · rintro ⟨option, hoption, others, hothers, heq⟩
    cases heq
    exact ⟨option, others, hoption, hothers, rfl⟩
  · rintro ⟨option, others, hoption, hothers, rfl⟩
    exact ⟨option, hoption, others, hothers, rfl⟩

theorem exists_convertOptions (h : ∀ v ∈ options, IsOption v) (index : Nat) :
    ∃ converted, convertOptions index options = .ok converted := by
  induction options generalizing index with
  | nil => exact ⟨[], rfl⟩
  | cons v rest ih =>
    obtain ⟨hv, hrest⟩ := List.forall_mem_cons.mp h
    obtain ⟨option, hoption⟩ := exists_convertOption hv index
    obtain ⟨others, hothers⟩ := ih hrest (index + 1)
    exact ⟨_, convertOptions_cons.mpr ⟨option, others, hoption, hothers, rfl⟩⟩

/-- The first item that is not an option stops the conversion. -/
theorem exists_badOption (h : ∃ v ∈ options, ¬ IsOption v) (index : Nat) :
    ∃ before v after, options = before ++ v :: after ∧ (∀ u ∈ before, IsOption u) ∧ ¬ IsOption v
      ∧ convertOptions index options = .error (.badOption (index + before.length) v.kind) := by
  induction options generalizing index with
  | nil => simp at h
  | cons v rest ih =>
    by_cases hv : IsOption v
    · have hrest : ∃ u ∈ rest, ¬ IsOption u := by
        simpa [hv] using h
      obtain ⟨before, u, after, heq, hbefore, hu, herror⟩ := ih hrest (index + 1)
      obtain ⟨option, hoption⟩ := exists_convertOption hv index
      refine ⟨v :: before, u, after, by rw [heq, List.cons_append],
        List.forall_mem_cons.mpr ⟨hv, hbefore⟩, hu, ?_⟩
      have hlength : index + 1 + before.length = index + (v :: before).length := by
        rw [List.length_cons]
        omega
      rw [convertOptions, hoption, herror, hlength]
      rfl
    · refine ⟨[], v, rest, rfl, by simp, hv, ?_⟩
      rw [convertOptions, convertOption_of_not_isOption hv]
      rfl

/-- At each place there is an option and what it is converted into, or neither. -/
theorem getElem?_of_convertOptions {index : Nat}
    (h : convertOptions index options = .ok converted) (i : Nat) :
    options[i]? = none ∧ converted[i]? = none
      ∨ ∃ v option, options[i]? = some v ∧ converted[i]? = some option
        ∧ convertOption (index + i) v = .ok option := by
  induction options generalizing index converted i with
  | nil =>
    cases h
    exact Or.inl ⟨rfl, rfl⟩
  | cons v rest ih =>
    obtain ⟨option, others, hoption, hothers, rfl⟩ := convertOptions_cons.mp h
    cases i with
    | zero => exact Or.inr ⟨v, option, rfl, rfl, hoption⟩
    | succ i =>
      have hindex : index + (i + 1) = index + 1 + i := by omega
      simpa [hindex] using ih hothers i

theorem length_of_convertOptions {index : Nat}
    (h : convertOptions index options = .ok converted) : converted.length = options.length := by
  induction options generalizing index converted with
  | nil =>
    cases h
    rfl
  | cons v rest ih =>
    obtain ⟨option, others, -, hothers, rfl⟩ := convertOptions_cons.mp h
    rw [List.length_cons, List.length_cons, ih hothers]

theorem corresponds_of_convertOptions (h : convertOptions 0 options = .ok converted) :
    Corresponds options (converted.map LegacyOption.toJson) where
  length_eq := by rw [List.length_map, length_of_convertOptions h]
  becomes := by
    intro i v hv
    rcases getElem?_of_convertOptions h i with ⟨hnone, -⟩ | ⟨u, option, hu, hoption, hconvert⟩
    · rw [hnone] at hv
      cases hv
    · obtain rfl : u = v := Option.some.inj (hu.symm.trans hv)
      rw [Nat.zero_add] at hconvert
      refine ⟨option.toJson, ?_, becomes_of_convertOption hconvert⟩
      rw [List.getElem?_map, hoption, Option.map_some]

/-- The flags are those of the objects at the same places. -/
theorem flagged_iff (h : convertOptions 0 options = .ok converted) (i : Nat) :
    (∃ option, converted[i]? = some option ∧ option.flagged = true)
      ↔ ∃ details, options[i]? = some (.object details)
        ∧ Fields.get? details "is_correct" = some (.bool true) := by
  rcases getElem?_of_convertOptions h i with ⟨hnone, hnone'⟩ | ⟨v, option, hv, hoption, hconvert⟩
  · simp [hnone, hnone']
  · simp [hv, hoption, flagged_of_convertOption hconvert]

/-! ## The place of the correct option -/

/-- There is no answer that counts, as only a text does. -/
def NoAnswer (fields : Fields) : Prop :=
  ∀ answer, Fields.get? fields "answer" ≠ some (.text answer)

/-- The index that a question names: an integer is one, and a boolean counts as one or zero. -/
inductive NamesIndex (fields : Fields) : Int → Prop where
  | integer {n : Int} (h : Fields.get? fields "correct_option_index" = some (.integer n)) :
      NamesIndex fields n
  | one (h : Fields.get? fields "correct_option_index" = some (.bool true)) : NamesIndex fields 1
  | zero (h : Fields.get? fields "correct_option_index" = some (.bool false)) : NamesIndex fields 0

/-- Where the correct option of a question stands if no id is given: at the first option that shows
the answer as its text or as its id; or else at the index, if there is an option; or else at the
first object with a flag, which has to be true itself. -/
inductive Marked (fields : Fields) (options shown : List Json) : Nat → Prop where
  | answer {answer : String} {i : Nat} (hanswer : Fields.get? fields "answer" = some (.text answer))
      (hleast : IsLeast {j | ∃ option, shown[j]? = some option
        ∧ (option.field? "text" = some (.text answer) ∨ option.field? "id" = some (.text answer))}
        i) : Marked fields options shown i
  | index {i : Nat} (hanswer : NoAnswer fields) (hindex : NamesIndex fields i)
      (hlt : i < options.length) : Marked fields options shown i
  | flag {i : Nat} (hanswer : NoAnswer fields) (hindex : ∀ n, ¬ NamesIndex fields n)
      (hleast : IsLeast {j | ∃ details, options[j]? = some (.object details)
        ∧ Fields.get? details "is_correct" = some (.bool true)} i) : Marked fields options shown i

/-- The index that is read is the one that is named. -/
theorem index?_fieldOrNull {n : Int} :
    index? (fieldOrNull fields "correct_option_index") = some n ↔ NamesIndex fields n := by
  constructor
  · intro h
    unfold fieldOrNull at h
    cases hget : Fields.get? fields "correct_option_index" with
    | none => simp [hget, index?] at h
    | some v =>
      rw [hget, Option.getD_some] at h
      cases v with
      | integer m =>
        cases h
        exact .integer hget
      | bool b =>
        cases b with
        | true =>
          cases h
          exact .one hget
        | false =>
          cases h
          exact .zero hget
      | _ => cases h
  · intro h
    cases h with
    | integer hget => simp [fieldOrNull, hget, index?]
    | one hget => simp [fieldOrNull, hget, index?]
    | zero hget => simp [fieldOrNull, hget, index?]

/-- The first item of a list that passes a test stands at the least place of such items. -/
theorem find?_eq_some_iff_isLeast {α : Type} {test : α → Bool} {items : List α} {a : α} :
    items.find? test = some a
      ↔ ∃ i : Nat, IsLeast {j : Nat | ∃ b, items[j]? = some b ∧ test b = true} i
        ∧ items[i]? = some a := by
  rw [List.find?_eq_some_iff_getElem]
  constructor
  · rintro ⟨htest, i, hi, rfl, hbefore⟩
    refine ⟨i, ⟨⟨items[i], List.getElem?_eq_getElem hi, htest⟩, ?_⟩, List.getElem?_eq_getElem hi⟩
    rintro j ⟨b, hb, hpass⟩
    by_contra hlt
    obtain ⟨hj, rfl⟩ := List.getElem?_eq_some_iff.mp hb
    simpa [hpass] using hbefore j (Nat.lt_of_not_le hlt)
  · rintro ⟨i, ⟨⟨b, hb, htest⟩, hleast⟩, ha⟩
    obtain rfl : b = a := Option.some.inj (hb.symm.trans ha)
    obtain ⟨hi, hitem⟩ := List.getElem?_eq_some_iff.mp ha
    refine ⟨htest, i, hi, hitem, fun j hj => ?_⟩
    by_contra hpass
    -- an earlier item that passes would stand at an earlier place
    have hle : i ≤ j := hleast ⟨items[j], List.getElem?_eq_getElem (by omega), by simpa using hpass⟩
    omega

theorem optionAt?_eq_some {index : Int} {option : LegacyOption} :
    optionAt? converted index = some option
      ↔ ∃ i : Nat, index = i ∧ converted[i]? = some option := by
  unfold optionAt?
  split
  · next hneg =>
    refine iff_of_false nofun ?_
    rintro ⟨i, rfl, -⟩
    omega
  · next hpos =>
    constructor
    · intro h
      exact ⟨index.toNat, by omega, h⟩
    · rintro ⟨i, rfl, h⟩
      exact h

theorem correctOption?_of_answer {answer : String}
    (h : Fields.get? fields "answer" = some (.text answer)) :
    correctOption? fields converted
      = converted.find? fun option => option.text == answer || option.id == answer := by
  simp [correctOption?, fieldOrNull, h]

/-- An answer that is a text is a field, as a field that is not there counts as null. -/
theorem NoAnswer.fieldOrNull_ne (h : NoAnswer fields) (answer : String) :
    fieldOrNull fields "answer" ≠ .text answer := by
  intro heq
  refine h answer ?_
  unfold fieldOrNull at heq
  cases hget : Fields.get? fields "answer" with
  | none => simp [hget] at heq
  | some v => simpa [hget] using heq

theorem correctOption?_of_index (h : NoAnswer fields) {n : Int} (hindex : NamesIndex fields n) :
    correctOption? fields converted = optionAt? converted n := by
  unfold correctOption?
  split
  · next answer hanswer => exact absurd hanswer (h.fieldOrNull_ne answer)
  · simp only [index?_fieldOrNull.mpr hindex]

theorem correctOption?_of_flags (h : NoAnswer fields) (hindex : ∀ n, ¬ NamesIndex fields n) :
    correctOption? fields converted = converted.find? (·.flagged) := by
  unfold correctOption?
  split
  · next answer hanswer => exact absurd hanswer (h.fieldOrNull_ne answer)
  · have hnone : index? (fieldOrNull fields "correct_option_index") = none :=
      Option.eq_none_iff_forall_ne_some.mpr fun n hn => hindex n (index?_fieldOrNull.mp hn)
    simp only [hnone]

/-! ### One rule at a time -/

theorem marked_of_answer {shown : List Json} {answer : String} {i : Nat}
    (h : Fields.get? fields "answer" = some (.text answer)) : Marked fields options shown i
      ↔ IsLeast {j | ∃ option, shown[j]? = some option ∧ (option.field? "text" = some (.text answer)
        ∨ option.field? "id" = some (.text answer))} i := by
  constructor
  · intro hmarked
    cases hmarked with
    | answer h' hleast =>
      cases h.symm.trans h'
      exact hleast
    | index hno => exact absurd h (hno answer)
    | flag hno => exact absurd h (hno answer)
  · exact .answer h

theorem marked_of_index {shown : List Json} {n : Int} {i : Nat} (h : NoAnswer fields)
    (hindex : NamesIndex fields n) :
    Marked fields options shown i ↔ n = i ∧ i < options.length := by
  constructor
  · intro hmarked
    cases hmarked with
    | answer hanswer => exact absurd hanswer (h _)
    | index _ hindex' hlt =>
      rw [← index?_fieldOrNull] at hindex hindex'
      exact ⟨Option.some.inj (hindex.symm.trans hindex'), hlt⟩
    | flag _ hnone => exact absurd hindex (hnone n)
  · rintro ⟨rfl, hlt⟩
    exact .index h hindex hlt

theorem marked_of_flags {shown : List Json} {i : Nat} (h : NoAnswer fields)
    (hindex : ∀ n, ¬ NamesIndex fields n) : Marked fields options shown i
      ↔ IsLeast {j | ∃ details, options[j]? = some (.object details)
        ∧ Fields.get? details "is_correct" = some (.bool true)} i := by
  constructor
  · intro hmarked
    cases hmarked with
    | answer hanswer => exact absurd hanswer (h _)
    | index _ hsome => exact absurd hsome (hindex _)
    | flag _ _ hleast => exact hleast
  · exact .flag h hindex

/-- An option shows its text and its id. -/
theorem shows_answer_iff {answer : String} {j : Nat} :
    (∃ v, (converted.map LegacyOption.toJson)[j]? = some v
        ∧ (v.field? "text" = some (.text answer) ∨ v.field? "id" = some (.text answer)))
      ↔ ∃ option, converted[j]? = some option ∧ (option.text = answer ∨ option.id = answer) := by
  have htext (option : LegacyOption) : option.toJson.field? "text" = some (.text option.text) := rfl
  have hid (option : LegacyOption) : option.toJson.field? "id" = some (.text option.id) := rfl
  simp only [List.getElem?_map, Option.map_eq_some_iff, exists_exists_and_eq_and, htext, hid,
    Option.some.injEq, Json.text.injEq]

/-- The option that is found is the one at the marked place. -/
theorem correctOption?_eq_some (h : convertOptions 0 options = .ok converted)
    {option : LegacyOption} : correctOption? fields converted = some option
      ↔ ∃ i, Marked fields options (converted.map LegacyOption.toJson) i
        ∧ converted[i]? = some option := by
  by_cases hanswer : ∃ answer, Fields.get? fields "answer" = some (.text answer)
  · obtain ⟨answer, hanswer⟩ := hanswer
    simp only [correctOption?_of_answer hanswer, marked_of_answer hanswer, shows_answer_iff,
      find?_eq_some_iff_isLeast, Bool.or_eq_true, beq_iff_eq]
  · have hno : NoAnswer fields := fun answer heq => hanswer ⟨answer, heq⟩
    by_cases hindex : ∃ n, NamesIndex fields n
    · obtain ⟨n, hindex⟩ := hindex
      simp only [correctOption?_of_index hno hindex, marked_of_index hno hindex, optionAt?_eq_some]
      -- what is found at a place is at a place of the options
      refine exists_congr fun i => and_congr_left fun hoption => (and_iff_left ?_).symm
      rw [← length_of_convertOptions h]
      exact (List.getElem?_eq_some_iff.mp hoption).1
    · have hnone : ∀ n, ¬ NamesIndex fields n := not_exists.mp hindex
      simp only [correctOption?_of_flags hno hnone, marked_of_flags hno hnone,
        find?_eq_some_iff_isLeast, flagged_iff h]

/-- At a marked place there is an option. -/
theorem Marked.exists_option (h : convertOptions 0 options = .ok converted) {i : Nat}
    (hmarked : Marked fields options (converted.map LegacyOption.toJson) i) :
    ∃ option, converted[i]? = some option := by
  cases hmarked with
  | answer hanswer hleast =>
    obtain ⟨option, hoption, -⟩ := shows_answer_iff.mp hleast.1
    exact ⟨option, hoption⟩
  | index hanswer hindex hlt =>
    rw [← length_of_convertOptions h] at hlt
    exact ⟨converted[i], List.getElem?_eq_getElem hlt⟩
  | flag hanswer hindex hleast =>
    obtain ⟨option, hoption, -⟩ := (flagged_iff h i).mpr hleast.1
    exact ⟨option, hoption⟩

/-- Without an id that counts as given, the id of the option at the marked place is the correct
one. -/
theorem correctId?_eq_some
    (hmissing : ∀ given, Fields.get? fields "correct_option_id" = some given →
      given.isTruthy = false)
    (h : convertOptions 0 options = .ok converted) {correctId : String} :
    correctId? fields converted = some correctId
      ↔ ∃ i option, Marked fields options (converted.map LegacyOption.toJson) i
        ∧ converted[i]? = some option ∧ option.id = correctId := by
  simp only [correctId?, firstTruthy?_eq_none.mpr hmissing, Option.map_eq_some_iff,
    correctOption?_eq_some h]
  constructor
  · rintro ⟨option, ⟨i, hmarked, hoption⟩, hid⟩
    exact ⟨i, option, hmarked, hoption, hid⟩
  · rintro ⟨i, option, hmarked, hoption, hid⟩
    exact ⟨option, ⟨i, hmarked, hoption⟩, hid⟩

theorem Marked.exists_correct {i : Nat}
    (hmarked : Marked fields options (converted.map LegacyOption.toJson) i)
    (hmissing : ∀ given, Fields.get? fields "correct_option_id" = some given →
      given.isTruthy = false)
    (h : convertOptions 0 options = .ok converted) :
    ∃ option, converted[i]? = some option ∧ correctId? fields converted = some option.id := by
  obtain ⟨option, hoption⟩ := hmarked.exists_option h
  exact ⟨option, hoption, (correctId?_eq_some hmissing h).mpr ⟨i, option, hmarked, hoption, rfl⟩⟩

/-! ## Documents -/

/-- The options that a converted document shows, and the id of the correct one. -/
structure Shows (data : Json) (shown : List Json) (correctId : String) : Prop where
  options_eq : data.field? "options" = some (.array shown)
  correctId_eq : data.field? "correct_option_id" = some (.text correctId)

theorem migrate_of_correctId? {correctId : String}
    (hoptions : Fields.get? fields "options" = some (.array options))
    (hconverted : convertOptions 0 options = .ok converted)
    (hcorrect : correctId? fields converted = some correctId) :
    ∃ data, migrate (.object fields) = .ok data
      ∧ Shows data (converted.map LegacyOption.toJson) correctId :=
  ⟨document fields converted correctId,
    migrate_eq_ok.mpr ⟨fields, options, converted, correctId, rfl, hoptions, hconverted, hcorrect,
      rfl⟩, rfl, rfl⟩

theorem exists_migrate_iff (hoptions : Fields.get? fields "options" = some (.array options))
    (hconverted : convertOptions 0 options = .ok converted) :
    (∃ data, migrate (.object fields) = .ok data)
      ↔ ∃ correctId, correctId? fields converted = some correctId := by
  constructor
  · rintro ⟨data, hdata⟩
    obtain ⟨fields', options', converted', correctId, hfields, hoptions', hconverted', hcorrect, -⟩ :=
      migrate_eq_ok.mp hdata
    cases hfields
    cases hoptions.symm.trans hoptions'
    cases hconverted.symm.trans hconverted'
    exact ⟨correctId, hcorrect⟩
  · rintro ⟨correctId, hcorrect⟩
    obtain ⟨data, hdata, -⟩ := migrate_of_correctId? hoptions hconverted hcorrect
    exact ⟨data, hdata⟩

/-- A question with an array of options is refused at the first item that is neither a text nor an
object. If there is none, its options are converted one by one and in order. An id that counts as
given is then the correct one in any case. Without such an id the conversion succeeds exactly if an
option is marked, and the id that the marked one shows is the correct one. -/
theorem migrate_marked (hoptions : Fields.get? fields "options" = some (.array options)) :
    ((∃ v ∈ options, ¬ IsOption v) → ∃ before v after, options = before ++ v :: after
      ∧ (∀ u ∈ before, IsOption u) ∧ ¬ IsOption v
      ∧ migrate (.object fields) = .error (.badOption before.length v.kind))
    ∧ ((∀ v ∈ options, IsOption v) → ∃ shown, Corresponds options shown
      ∧ (∀ given, Fields.get? fields "correct_option_id" = some given → given.isTruthy = true →
        ∃ data, migrate (.object fields) = .ok data ∧ Shows data shown given.display)
      ∧ ((∀ given, Fields.get? fields "correct_option_id" = some given → given.isTruthy = false) →
        ((∃ data, migrate (.object fields) = .ok data) ↔ ∃ i, Marked fields options shown i)
        ∧ ∀ i, Marked fields options shown i → ∃ data option id,
          migrate (.object fields) = .ok data ∧ shown[i]? = some option
          ∧ option.field? "id" = some (.text id) ∧ Shows data shown id)) := by
  constructor
  · intro hbad
    obtain ⟨before, v, after, heq, hbefore, hv, herror⟩ := exists_badOption hbad 0
    refine ⟨before, v, after, heq, hbefore, hv, ?_⟩
    rw [Nat.zero_add] at herror
    simp only [migrate, hoptions, herror]
    rfl
  · intro hgood
    obtain ⟨converted, hconverted⟩ := exists_convertOptions hgood 0
    refine ⟨converted.map LegacyOption.toJson, corresponds_of_convertOptions hconverted, ?_, ?_⟩
    · intro given hget hgiven
      have hcorrect : correctId? fields converted = some given.display := by
        simp only [correctId?, hget, firstTruthy?_of_given hgiven]
      exact migrate_of_correctId? hoptions hconverted hcorrect
    · intro hmissing
      constructor
      · rw [exists_migrate_iff hoptions hconverted]
        constructor
        · rintro ⟨correctId, hsome⟩
          obtain ⟨i, option, hmarked, -⟩ := (correctId?_eq_some hmissing hconverted).mp hsome
          exact ⟨i, hmarked⟩
        · rintro ⟨i, hmarked⟩
          obtain ⟨option, -, hcorrect⟩ := hmarked.exists_correct hmissing hconverted
          exact ⟨option.id, hcorrect⟩
      · intro i hmarked
        obtain ⟨option, hoption, hcorrect⟩ := hmarked.exists_correct hmissing hconverted
        obtain ⟨data, hdata, hshows⟩ := migrate_of_correctId? hoptions hconverted hcorrect
        refine ⟨data, option.toJson, option.id, hdata, ?_, rfl, hshows⟩
        rw [List.getElem?_map, hoption, Option.map_some]

/-- Options of both kinds, the last of which has the id of the second one for its text, and a
flag. -/
def mixedOptions : List Json :=
  [.text "3", .text "4", .object [("id", .integer 7), ("text", .text "opt_1"),
    ("is_correct", .bool true)]]

/-- What they become. -/
def mixedShown : List Json :=
  [.object [("id", .text "opt_0"), ("text", .text "3")],
    .object [("id", .text "opt_1"), ("text", .text "4")],
    .object [("id", .text "7"), ("text", .text "opt_1"), ("image_url", .null)]]

/-- A question with an answer, and an index and a flag that name other options than it. -/
def mixedFields (answer : Json) : Fields :=
  [("options", .array mixedOptions), ("answer", answer), ("correct_option_index", .bool false)]

/-- The options of the question are shown in this way only. -/
theorem eq_mixedShown {shown : List Json} (h : Corresponds mixedOptions shown) :
    shown = mixedShown := by
  obtain ⟨first, second, third, rfl⟩ := List.length_eq_three.mp h.length_eq
  obtain ⟨_, hfirst, hbecomes⟩ := h.becomes 0 _ rfl
  cases hfirst
  obtain ⟨_, hsecond, hbecomes'⟩ := h.becomes 1 _ rfl
  cases hsecond
  obtain ⟨_, hthird, hbecomes''⟩ := h.becomes 2 _ rfl
  cases hthird
  cases hbecomes
  cases hbecomes'
  cases hbecomes'' with
  | object hobject =>
    rw [hobject.id_of_given _ rfl rfl, hobject.text_of_given _ rfl, hobject.image_of_missing rfl]
    rfl

/-- An answer that is a text counts. It is found among the ids before it is found among the texts,
as the second option comes first. An answer that is no text does not count, and so the first option
is the correct one: the index is false, which is zero. -/
theorem mixed_marked :
    (∃ data, migrate (.object (mixedFields (.text "opt_1"))) = .ok data
      ∧ Shows data mixedShown "opt_1")
    ∧ ∃ data, migrate (.object (mixedFields (.integer 4))) = .ok data
      ∧ Shows data mixedShown "opt_0" := by
  have hoptions : ∀ v ∈ mixedOptions, IsOption v := by
    simp only [mixedOptions, List.forall_mem_cons]
    exact ⟨.text _, .text _, .object _, by simp⟩
  constructor
  · have harray : Fields.get? (mixedFields (.text "opt_1")) "options"
      = some (.array mixedOptions) := rfl
    obtain ⟨shown, hcorresponds, -, hmissing⟩ := (migrate_marked harray).2 hoptions
    obtain rfl := eq_mixedShown hcorresponds
    have hleast : IsLeast {j : Nat | ∃ option, mixedShown[j]? = some option
        ∧ (option.field? "text" = some (.text "opt_1")
          ∨ option.field? "id" = some (.text "opt_1"))} 1 := by
      refine ⟨⟨_, rfl, Or.inr rfl⟩, ?_⟩
      rintro j ⟨option, hoption, hfits⟩
      by_contra hlt
      obtain rfl : j = 0 := by omega
      cases hoption
      exact absurd hfits (by decide)
    obtain ⟨data, option, id, hdata, hoption, hid, hshows⟩ :=
      (hmissing nofun).2 1 (.answer rfl hleast)
    cases hoption
    cases hid
    exact ⟨data, hdata, hshows⟩
  · have harray : Fields.get? (mixedFields (.integer 4)) "options"
      = some (.array mixedOptions) := rfl
    obtain ⟨shown, hcorresponds, -, hmissing⟩ := (migrate_marked harray).2 hoptions
    obtain rfl := eq_mixedShown hcorresponds
    obtain ⟨data, option, id, hdata, hoption, hid, hshows⟩ :=
      (hmissing nofun).2 0 (.index nofun (.zero rfl) (by decide))
    cases hoption
    cases hid
    exact ⟨data, hdata, hshows⟩

end AdaptiveQuiz.Legacy
