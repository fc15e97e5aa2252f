import AdaptiveQuiz.Document.MultipleChoice
import AdaptiveQuiz.Proofs.Schema.Acceptance

/-!
# Well-formed single choice questions

What the schema of single choice questions promises about the choices: there are at least two of
them, they have names of their own, and one of them is the correct one.

## Main definitions

* `MultipleChoiceDocument.WellFormed`

## Main statements

* `MultipleChoiceDocument.schema_eq_accepted`: which objects are accepted
* `MultipleChoiceDocument.wellFormed_of_schema`
-/

namespace AdaptiveQuiz

open Schema

theorem Choice.schema_eq_accepted {v : Json} {choice : Choice} :
    Choice.schema v = .accepted choice ↔ ∃ fields, v = .object fields
      ∧ required fields "id" nonemptyText = .accepted choice.id
      ∧ required fields "text" anyText = .accepted choice.text
      ∧ optionalNullable fields "image_url" anyText = .accepted choice.imageUrl := by
  cases choice
  simp [schema, record_eq_accepted]

namespace MultipleChoiceDocument

variable {document : MultipleChoiceDocument}

theorem idFault?_eq_none : document.idFault? = none
    ↔ (document.choices.map Choice.id).Nodup
      ∧ document.correctId ∈ document.choices.map Choice.id := by
  rw [← firstRepeated?_nil_eq_none, ← List.contains_iff_mem]
  simp only [idFault?]
  split
  · next hrepeated =>
    obtain ⟨id, hid⟩ := Option.isSome_iff_exists.mp hrepeated
    simp [hid]
  · next hdiffer =>
    rw [Option.isSome_iff_ne_none, not_not] at hdiffer
    split
    · next hcorrect => exact iff_of_true rfl ⟨hdiffer, hcorrect⟩
    · next hmissing => exact iff_of_false nofun fun hboth => hmissing hboth.2

theorem schema_eq_accepted {v : Json} : schema v = .accepted document
    ↔ ∃ fields, v = .object fields
      ∧ optionalNullable fields "id" anyText = .accepted document.id
      ∧ optionalNullable fields "type" (oneOf TypeSpelling.all TypeSpelling.word)
        = .accepted document.type
      ∧ required fields "prompt" (fun v => anyText (flattenPrompt v)) = .accepted document.prompt
      ∧ required fields "options" (listOfAtLeast 2 Choice.schema) = .accepted document.choices
      ∧ required fields "correct_option_id" anyText = .accepted document.correctId
      ∧ optionalNullable fields "explanation" anyText = .accepted document.explanation
      ∧ optional fields "metadata" dictionary [] = .accepted document.metadata
      ∧ (document.choices.map Choice.id).Nodup
      ∧ document.correctId ∈ document.choices.map Choice.id := by
  simp only [schema, record_eq_accepted, Checked.ensure_eq_accepted, idFault?_eq_none]
  cases document
  simp [and_assoc]

/-- At least two choices with names of their own, one of which is the correct one. -/
structure WellFormed (document : MultipleChoiceDocument) : Prop where
  two_le_length : 2 ≤ document.choices.length
  id_ne_empty : ∀ choice ∈ document.choices, choice.id ≠ ""
  ids_nodup : (document.choices.map Choice.id).Nodup
  correctId_mem : document.correctId ∈ document.choices.map Choice.id

/-- The choices of an accepted single choice question are well-formed. -/
theorem wellFormed_of_schema {raw : Json} (h : schema raw = .accepted document) :
    document.WellFormed := by
  obtain ⟨fields, -, -, -, -, hchoices, -, -, -, hnodup, hcorrect⟩ := schema_eq_accepted.mp h
  obtain ⟨w, -, hw⟩ := required_eq_accepted.mp hchoices
  obtain ⟨hlength, items, -, hitems⟩ := listOfAtLeast_eq_accepted.mp hw
  refine ⟨hlength, ?_, hnodup, hcorrect⟩
  intro choice hchoice
  obtain ⟨item, -, hitem⟩ := exists_item_of_forall₂ hitems hchoice
  obtain ⟨_, -, hid, -⟩ := Choice.schema_eq_accepted.mp hitem
  obtain ⟨idField, -, hidField⟩ := required_eq_accepted.mp hid
  exact (nonemptyText_eq_accepted.mp hidField).2

/-! ## Looking choices up -/

theorem mem_and_id_of_choice? {id : String} {choice : Choice} (h : document.choice? id = some choice) :
    choice ∈ document.choices ∧ choice.id = id := by
  refine ⟨List.mem_of_find?_eq_some h, ?_⟩
  simpa using List.find?_some h

/-- The correct choice is there. -/
theorem WellFormed.exists_correct (h : document.WellFormed) :
    ∃ choice, document.choice? document.correctId = some choice := by
  obtain ⟨choice, hchoice, hid⟩ := List.mem_map.mp h.correctId_mem
  refine Option.isSome_iff_exists.mp (List.find?_isSome.mpr ⟨choice, hchoice, ?_⟩)
  simpa using hid

end MultipleChoiceDocument

end AdaptiveQuiz
