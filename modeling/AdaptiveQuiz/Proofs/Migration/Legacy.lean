import AdaptiveQuiz.Migration.Legacy
import AdaptiveQuiz.Proofs.Document.Review
import AdaptiveQuiz.Proofs.Document.SingleChoice
import AdaptiveQuiz.Proofs.Except

/-!
# When a converted legacy question can be used

The conversion of a legacy question writes texts for what it makes up itself: the ids of options are
never empty, and an option that is found to be the correct one is one of them. Some fields of the
source are handed on as they are, though, and neither are options counted nor their ids compared. So
the document may be refused by the schema that it is meant for, and here is what this depends on.

## Main definitions

* `LegacyOption.choice`: a converted option as it is read
* `Legacy.Usable`: what the schema requires beyond the conversion

## Main statements

* `Json.display_ne_empty`: a value that counts as given is not displayed as nothing
* `Legacy.id_ne_empty`, `Legacy.correctId_mem`: what holds of every conversion
* `Legacy.usable_iff`
* `Legacy.numbered_refused`: a question that is converted and cannot be used
-/

namespace AdaptiveQuiz

open Schema

/-! ## Values as texts -/

namespace Binary64

theorem positional_ne_nil (digits : List Char) (point : Int) : positional digits point ≠ [] := by
  unfold positional
  split
  · exact List.cons_ne_nil _ _
  · split <;> simp

theorem scientific_ne_nil (style : NumeralStyle) (digits : List Char) (exponent : Int) :
    scientific style digits exponent ≠ [] := by
  simp [scientific]

theorem magnitudeText_ne_nil (style : NumeralStyle) (units : Nat) :
    magnitudeText style units ≠ [] := by
  -- a case split on the goal would have the digits evaluated
  delta magnitudeText
  exact iteInduction (motive := (· ≠ [])) (fun _ => positional_ne_nil _ _)
    fun _ => scientific_ne_nil _ _ _

theorem toText_ne_empty (style : NumeralStyle) (x : Binary64) : x.toText style ≠ "" := by
  cases x with
  | nan => exact (by decide : "nan" ≠ "")
  | infinity negative =>
    cases negative with
    | true => exact (by decide : "-inf" ≠ "")
    | false => exact (by decide : "inf" ≠ "")
  | finite negative units =>
    have hdigits := magnitudeText_ne_nil style units
    simp only [toText]
    -- how the digits come about does not matter from here on
    generalize magnitudeText style units = digits at hdigits ⊢
    cases negative <;> by_cases hzero : units = 0 <;> simp [hzero, hdigits]

end Binary64

namespace Json

/-- No literal is empty. -/
theorem literal_ne_empty (value : Json) : value.literal ≠ "" := by
  cases value with
  | null => decide
  | bool b => cases b <;> decide
  | integer n =>
    rw [literal, Int.toString_eq_repr, Int.repr_eq_if]
    split
    · exact Nat.repr_ne_empty
    · simp
  | number x => exact x.toText_ne_empty _
  | text s => simp [literal, Text.quote]
  | array items => simp [literal]
  | object fields => simp [literal]

theorem display_ne_empty {value : Json} (h : value.isTruthy = true) : value.display ≠ "" := by
  cases value with
  | text s => simpa [isTruthy, display] using h
  | null => exact literal_ne_empty _
  | bool b => exact literal_ne_empty _
  | integer n => exact literal_ne_empty _
  | number x => exact literal_ne_empty _
  | array items => exact literal_ne_empty _
  | object fields => exact literal_ne_empty _

end Json

/-! ## Options -/

namespace LegacyOption

/-- A converted option as it is read. -/
def choice (option : LegacyOption) : Choice where
  id := option.id
  text := option.text
  imageUrl :=
    match option.image with
    | some (.text url) => some url
    | _ => none

/-- The image, if there is one, can be read. -/
def HasReadableImage (option : LegacyOption) : Prop :=
  ∀ image, option.image = some image → IsTextOrNull image

variable {option : LegacyOption}

/-- The fields of a converted option. -/
def fields (option : LegacyOption) : Fields :=
  [("id", .text option.id), ("text", .text option.text)]
    ++ option.image.toList.map fun image => ("image_url", image)

theorem id_eq_accepted {id : String} : required option.fields "id" nonemptyText = .accepted id
    ↔ option.id ≠ "" ∧ option.id = id := by
  rw [required_eq_accepted]
  constructor
  · rintro ⟨value, hget, hvalue⟩
    cases hget
    obtain ⟨heq, hne⟩ := nonemptyText_eq_accepted.mp hvalue
    cases heq
    exact ⟨hne, rfl⟩
  · rintro ⟨hne, rfl⟩
    exact ⟨_, rfl, nonemptyText_eq_accepted.mpr ⟨rfl, hne⟩⟩

theorem image_eq_accepted {url : Option String} :
    optionalNullable option.fields "image_url" anyText = .accepted url
      ↔ option.HasReadableImage ∧ option.choice.imageUrl = url := by
  have hget : Fields.get? option.fields "image_url" = option.image := by
    unfold fields
    cases option.image <;> rfl
  unfold optionalNullable Schema.optional HasReadableImage choice
  rw [hget]
  cases option.image with
  | none => simp
  | some image => cases image <;> simp [nullable, anyText, Checked.reject, IsTextOrNull]

/-- A converted option is read if it has a name and if its image can be read. -/
theorem schema_toJson {choice : Choice} : Choice.schema option.toJson = .accepted choice
    ↔ (option.id ≠ "" ∧ option.HasReadableImage) ∧ option.choice = choice := by
  have htext {text : String} : required option.fields "text" anyText = .accepted text
      ↔ option.text = text := by
    show Checked.accepted option.text = .accepted text ↔ _
    rw [Checked.accepted.injEq]
  constructor
  · intro h
    obtain ⟨read, hfields, hid, htexts, himage⟩ := Choice.schema_eq_accepted.mp h
    obtain rfl : option.fields = read := Json.object.inj hfields
    obtain ⟨hne, hid⟩ := id_eq_accepted.mp hid
    obtain ⟨hreadable, himage⟩ := image_eq_accepted.mp himage
    refine ⟨⟨hne, hreadable⟩, ?_⟩
    cases choice
    exact Choice.mk.injEq .. ▸ ⟨hid, htext.mp htexts, himage⟩
  · rintro ⟨⟨hne, hreadable⟩, rfl⟩
    exact Choice.schema_eq_accepted.mpr ⟨_, rfl, id_eq_accepted.mpr ⟨hne, rfl⟩, htext.mpr rfl,
      image_eq_accepted.mpr ⟨hreadable, rfl⟩⟩

end LegacyOption

namespace Legacy

variable {fields : Fields} {index : Nat} {options : List Json} {converted : List LegacyOption}
  {correctId : String}

theorem indexId_ne_empty (index : Nat) : indexId index ≠ "" := by
  simp [indexId]

theorem id_ne_empty_of_convertOption {value : Json} {option : LegacyOption}
    (h : convertOption index value = .ok option) : option.id ≠ "" := by
  cases value with
  | text s =>
    cases h
    exact indexId_ne_empty index
  | object details =>
    cases h
    show ((Json.firstTruthy? [Fields.get? details "id"]).map Json.display).getD _ ≠ ""
    cases hid : Json.firstTruthy? [Fields.get? details "id"] with
    | none => exact indexId_ne_empty index
    | some value => exact Json.display_ne_empty (List.find?_some hid)
  | null => cases h
  | bool b => cases h
  | integer n => cases h
  | number x => cases h
  | array items => cases h

/-- Every option has an id. -/
theorem id_ne_empty (h : convertOptions index options = .ok converted) :
    ∀ option ∈ converted, option.id ≠ "" := by
  induction options generalizing index converted with
  | nil =>
    cases h
    nofun
  | cons value rest ih =>
    obtain ⟨option, hoption, hothers⟩ := except_bind_eq_ok.mp h
    obtain ⟨others, hrest, hcons⟩ := except_bind_eq_ok.mp hothers
    cases hcons
    exact List.forall_mem_cons.mpr ⟨id_ne_empty_of_convertOption hoption, ih hrest⟩

/-- An option that is found is one of the options. -/
theorem mem_of_correctOption? {option : LegacyOption}
    (h : correctOption? fields converted = some option) : option ∈ converted := by
  unfold correctOption? at h
  split at h
  · -- by an answer
    exact List.mem_of_find?_eq_some h
  · split at h
    · -- by an index, which has to lie within the options
      unfold optionAt? at h
      split at h
      · cases h
      · exact List.mem_of_getElem? h
    · -- by a flag
      exact List.mem_of_find?_eq_some h

/-- Only an id that is given may be one that no option has. -/
theorem correctId_mem (hgiven : Json.firstTruthy? [Fields.get? fields "correct_option_id"] = none)
    (h : correctId? fields converted = some correctId) :
    correctId ∈ converted.map LegacyOption.id := by
  rw [correctId?, hgiven] at h
  obtain ⟨option, hoption, rfl⟩ := Option.map_eq_some_iff.mp h
  exact List.mem_map_of_mem (mem_of_correctOption? hoption)

/-! ## Documents -/

/-- What the schema requires beyond the conversion: that the fields which are handed on can be read,
that there are at least two options with different ids, and that one of them is the correct one. -/
structure Usable (fields : Fields) (converted : List LegacyOption) (correctId : String) :
    Prop where
  id_readable : IsTextOrNull (fieldOrNull fields "id")
  prompt_text : ∃ s, MultipleChoiceDocument.flattenPrompt (prompt fields) = .text s
  explanation_text : ∀ value, Json.firstTruthy?
    [Fields.get? fields "explanation", Fields.get? fields "solution"] = some value →
    ∃ s, value = .text s
  two_le_length : 2 ≤ converted.length
  images_readable : ∀ option ∈ converted, option.HasReadableImage
  ids_nodup : (converted.map LegacyOption.id).Nodup
  correctId_mem : correctId ∈ converted.map LegacyOption.id

/-- The options are read if there are two of them, all with names and with images that can be
read. -/
theorem options_eq_accepted {choices : List Choice} :
    listOfAtLeast 2 Choice.schema (.array (converted.map LegacyOption.toJson)) = .accepted choices
      ↔ 2 ≤ converted.length ∧ (∀ option ∈ converted, option.id ≠ "" ∧ option.HasReadableImage)
        ∧ converted.map LegacyOption.choice = choices := by
  have hitems : List.Forall₂ (fun value choice => Choice.schema value = .accepted choice)
      (converted.map LegacyOption.toJson) choices
      ↔ (∀ option ∈ converted, option.id ≠ "" ∧ option.HasReadableImage)
        ∧ converted.map LegacyOption.choice = choices := by
    have heq : List.Forall₂ (fun option choice => LegacyOption.choice option = choice) converted
        choices ↔ converted.map LegacyOption.choice = choices := by
      rw [← List.forall₂_map_left_iff (R := (· = ·)), List.forall₂_eq_eq_eq]
    rw [List.forall₂_map_left_iff]
    -- what is required of an option does not depend on the choice that it is read as
    simp only [LegacyOption.schema_toJson]
    rw [List.forall₂_and_left, heq]
  simp only [listOfAtLeast_eq_accepted, Json.array.injEq, exists_eq_left', hitems]
  constructor
  · rintro ⟨hlength, hread, rfl⟩
    exact ⟨by simpa using hlength, hread, rfl⟩
  · rintro ⟨hlength, hread, rfl⟩
    exact ⟨by simpa using hlength, hread, rfl⟩

/-- The explanation is never null, so it has to be a text. -/
theorem explanation_eq_accepted : (∃ text, nullable anyText ((Json.firstTruthy?
      [Fields.get? fields "explanation", Fields.get? fields "solution"]).getD (.text ""))
        = .accepted text)
    ↔ ∀ value, Json.firstTruthy?
      [Fields.get? fields "explanation", Fields.get? fields "solution"] = some value →
      ∃ s, value = .text s := by
  rw [exists_nullable_anyText]
  cases hfirst : Json.firstTruthy?
    [Fields.get? fields "explanation", Fields.get? fields "solution"] with
  | none => exact iff_of_true (Or.inr ⟨"", rfl⟩) nofun
  | some value =>
    have hne : value ≠ .null := by
      -- null does not count as given
      rintro rfl
      cases List.find?_some hfirst
    simp [IsTextOrNull, hne]

/-- A converted document is accepted by the schema that it is meant for exactly if it is usable. -/
theorem exists_schema_document (hids : ∀ option ∈ converted, option.id ≠ "") :
    (∃ read, MultipleChoiceDocument.schema (document fields converted correctId) = .accepted read)
      ↔ Usable fields converted correctId := by
  have hchoiceIds : (converted.map LegacyOption.choice).map Choice.id
      = converted.map LegacyOption.id := List.map_map ..
  constructor
  · rintro ⟨read, hread⟩
    obtain ⟨_, hfields, hid, -, hprompt, hoptions, hcorrect, hexplanation, -, hnodup, hmem⟩ :=
      MultipleChoiceDocument.schema_eq_accepted.mp hread
    cases hfields
    obtain ⟨hlength, hoption, hchoices⟩ :=
      options_eq_accepted.mp (Checked.within_eq_accepted.mp hoptions)
    have hcorrectId : correctId = read.correctId := Checked.accepted.inj hcorrect
    -- the ids that are compared are those of the converted options
    rw [← hchoices, hchoiceIds] at hnodup hmem
    rw [← hcorrectId] at hmem
    exact {
      id_readable := exists_nullable_anyText.mp ⟨_, Checked.within_eq_accepted.mp hid⟩
      prompt_text := ⟨_, anyText_eq_accepted.mp (Checked.within_eq_accepted.mp hprompt)⟩
      explanation_text :=
        explanation_eq_accepted.mp ⟨_, Checked.within_eq_accepted.mp hexplanation⟩
      two_le_length := hlength
      images_readable := fun option hmem => (hoption option hmem).2
      ids_nodup := hnodup
      correctId_mem := hmem }
  · intro h
    -- the document that is read is put together from what each field is read as
    obtain ⟨id, hid⟩ := exists_nullable_anyText.mpr h.id_readable
    obtain ⟨text, htext⟩ := h.prompt_text
    obtain ⟨explanation, hexplanation⟩ := explanation_eq_accepted.mpr h.explanation_text
    have hoptions := options_eq_accepted.mpr
      ⟨h.two_le_length, fun option hmem => ⟨hids option hmem, h.images_readable option hmem⟩, rfl⟩
    refine ⟨⟨id, some .small, text, converted.map LegacyOption.choice, correctId, explanation, _⟩,
      MultipleChoiceDocument.schema_eq_accepted.mpr ⟨_, rfl, Checked.within_eq_accepted.mpr hid, rfl,
        Checked.within_eq_accepted.mpr (anyText_eq_accepted.mpr htext),
        Checked.within_eq_accepted.mpr hoptions, rfl, Checked.within_eq_accepted.mpr hexplanation,
        rfl, ?_, ?_⟩⟩
    · rw [hchoiceIds]
      exact h.ids_nodup
    · rw [hchoiceIds]
      exact h.correctId_mem

/-- A conversion that succeeds has converted the options and found an id of the correct one. -/
theorem migrate_eq_ok {raw data : Json} : migrate raw = .ok data
    ↔ ∃ fields options converted correctId, raw = .object fields
      ∧ Fields.get? fields "options" = some (.array options)
      ∧ convertOptions 0 options = .ok converted ∧ correctId? fields converted = some correctId
      ∧ data = document fields converted correctId := by
  constructor
  · intro h
    unfold migrate at h
    split at h
    · next fields =>
      split at h
      · next options hoptions =>
        obtain ⟨converted, hconverted, hrest⟩ := except_bind_eq_ok.mp h
        cases hcorrect : correctId? fields converted with
        | none =>
          simp only [hcorrect] at hrest
          cases hrest
        | some correctId =>
          simp only [hcorrect] at hrest
          cases hrest
          exact ⟨fields, options, converted, correctId, rfl, hoptions, hconverted, hcorrect, rfl⟩
      · cases h
    · cases h
  · rintro ⟨fields, options, converted, correctId, rfl, hoptions, hconverted, hcorrect, rfl⟩
    simp only [migrate, hoptions]
    exact except_bind_eq_ok.mpr ⟨converted, hconverted, by simp only [hcorrect]⟩

/-- Whatever is converted, the options have names, and the correct option is one of them unless its
id was given. The document can be used exactly if, beyond that, all that was handed on can be read,
there are two options or more with different ids, and an id that was given is one of theirs. -/
theorem usable_iff {raw data : Json} (h : migrate raw = .ok data) :
    ∃ fields options converted correctId, raw = .object fields
      ∧ Fields.get? fields "options" = some (.array options)
      ∧ convertOptions 0 options = .ok converted ∧ correctId? fields converted = some correctId
      ∧ data = document fields converted correctId
      ∧ (∀ option ∈ converted, option.id ≠ "")
      ∧ (Json.firstTruthy? [Fields.get? fields "correct_option_id"] = none →
        correctId ∈ converted.map LegacyOption.id)
      ∧ ((MultipleChoiceDocument.review data).document.isSome = true
        ↔ Usable fields converted correctId) := by
  obtain ⟨fields, options, converted, correctId, hraw, hoptions, hconverted, hcorrect, rfl⟩ :=
    migrate_eq_ok.mp h
  refine ⟨fields, options, converted, correctId, hraw, hoptions, hconverted, hcorrect, rfl,
    id_ne_empty hconverted, fun hgiven => correctId_mem hgiven hcorrect, ?_⟩
  rw [Option.isSome_iff_exists, ← exists_schema_document (id_ne_empty hconverted)]
  simp only [MultipleChoiceDocument.review_document_eq_some]

/-- A legacy question with an id. -/
def rawSum (id : Json) : Json :=
  .object [("id", id), ("question", .text "2 + 2 = ?"),
    ("options", .array [.text "3", .text "4"]), ("answer", .text "4")]

/-- The question with a text for an id can be used. -/
theorem sum_usable : ∃ data, migrate (rawSum (.text "sum")) = .ok data
    ∧ (MultipleChoiceDocument.review data).document.isSome = true := by
  have hmigrate : migrate (rawSum (.text "sum")) = .ok (document _ _ "opt_1") := rfl
  obtain ⟨fields, options, converted, correctId, hraw, hoptions, hconverted, hcorrect, -, -, hfound,
    husable⟩ := usable_iff hmigrate
  cases hraw
  cases hoptions
  cases hconverted
  refine ⟨_, hmigrate, husable.mpr ?_⟩
  exact {
    id_readable := Or.inr ⟨"sum", rfl⟩
    prompt_text := ⟨"2 + 2 = ?", rfl⟩
    explanation_text := nofun
    two_le_length := Nat.le_refl 2
    images_readable := by simp [LegacyOption.HasReadableImage]
    ids_nodup := by decide
    correctId_mem := hfound rfl }

/-- The question with a number for an id is converted, and the document cannot be used. -/
theorem numbered_refused : ¬ ∀ raw data, migrate raw = .ok data →
    (MultipleChoiceDocument.review data).document.isSome = true := by
  intro hall
  have hverdict : (migrate (rawSum (.integer 17))).toOption.bind (fun data =>
      some (MultipleChoiceDocument.review data).document.isSome) = some false := by decide +kernel
  obtain ⟨data, hmigrate, hrefused⟩ := except_toOption_bind_eq_some.mp hverdict
  rw [hall _ data hmigrate] at hrefused
  cases hrefused

end Legacy

end AdaptiveQuiz
