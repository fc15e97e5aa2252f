import AdaptiveQuiz.Document.Review
import AdaptiveQuiz.Proofs.Document.Acceptance
import AdaptiveQuiz.Proofs.Document.SingleChoice
import AdaptiveQuiz.Proofs.Schema.Dump
import AdaptiveQuiz.Proofs.Schema.Shape

/-!
# Raw questions that are accepted

For each kind of question, and for each part of one, the shape of the raw values that are accepted:
the kinds of the fields, the words that are allowed, and what has to hold between the fields. Stages
have two forms. In the authoring format the type of an interaction may be left out, and a diagnostic
may be an object that names a misconception.

## Main definitions

* `Form`: the common form of stages and the authoring format
* `StageOption.Fits`, `ChoiceSet.Fits`, `Stage.Fits`, `UnlockRule.Fits`: shapes of stages
* `DeclarativeDocument.Fits`, `BranchingDocument.Fits`, `MultipleChoiceDocument.Fits`

## Main statements

* `Stage.isAccepted_ofFields`, `DeclarativeStage.isAccepted_schema`
* `Document.isAccepted_schema`: a question is accepted exactly if it has the shape of its kind
-/

namespace AdaptiveQuiz

open Schema

/-! ## Shapes of options and stages -/

/-- How stages are written down. -/
inductive Form where
  | common
  | authored
deriving DecidableEq, Repr

/-- A diagnostic is a text. In the authoring format it may be an object, which names it or not. -/
def Form.Diagnostic : Form → Json → Prop
  | .common => OrNull IsText
  | .authored => fun v =>
    OrNull IsText v ∨ IsObject (fun fields => May fields "misconception_id" (OrNull IsText)) v

/-- The type of an interaction may be left out in the authoring format. -/
def Form.Kind : Form → Fields → Prop
  | .common, fields => Has fields "type" (IsWord ["mcq_concept", "mcq_procedural"])
  | .authored, fields => May fields "type" (IsWord ["mcq_concept", "mcq_procedural"])

/-- The fields of a prompt. -/
@[mk_iff]
structure Prompt.Fits (fields : Fields) : Prop where
  text : Has fields "text" IsText
  latex : May fields "latex" (OrNull IsText)
  mediaRef : May fields "media_ref" (OrNull IsText)

/-- The fields of an action, by its tag. -/
inductive Action.Fits (fields : Fields) : Prop where
  | goto (htag : Fields.get? fields "type" = some (.text "goto_stage"))
      (htarget : Has fields "target" IsText) : Action.Fits fields
  | branch (htag : Fields.get? fields "type" = some (.text "branch"))
      (htarget : Has fields "target" IsText) : Action.Fits fields
  | loop (htag : Fields.get? fields "type" = some (.text "loop")) : Action.Fits fields
  | exit (htag : Fields.get? fields "type" = some (.text "exit"))
      (houtcome : May fields "outcome" (OrNull (IsWord ["pass", "fail"]))) : Action.Fits fields

/-- The fields of an option. -/
@[mk_iff]
structure StageOption.Fits (form : Form) (fields : Fields) : Prop where
  id : Has fields "id" IsName
  text : Has fields "text" IsText
  latex : May fields "latex" (OrNull IsText)
  isCorrect : May fields "is_correct" (OrNull IsBoolean)
  feedback : May fields "feedback" (OrNull IsText)
  diagnostic : May fields "diagnostic" form.Diagnostic
  next : May fields "next" (OrNull (IsObject Action.Fits))
  nextSource : May fields "next_source"
    (OrNull (IsWord ["explicit", "after_correct", "attempts_exceeded", "default"]))

/-- The fields of the configuration of an interaction. There is an option, and ids differ. -/
@[mk_iff]
structure ChoiceSet.Fits (form : Form) (fields : Fields) : Prop where
  options : Has fields "options" (IsKeyed 1 "id" (IsObject (StageOption.Fits form)))
  shuffle : May fields "shuffle" IsBoolean
  singleSelect : May fields "single_select" IsBoolean

/-- The fields of an interaction. -/
@[mk_iff]
structure Interaction.Fits (form : Form) (fields : Fields) : Prop where
  kind : form.Kind fields
  choices : Has fields "config" (IsObject (ChoiceSet.Fits form))

/-- The fields of an answer key. -/
@[mk_iff]
structure AnswerKey.Fits (fields : Fields) : Prop where
  correctOptionId : May fields "correct_option_id" (OrNull IsText)
  keyPoints : May fields "key_points" (IsArray IsText)

/-- The fields of a stage. -/
@[mk_iff]
structure Stage.Fits (form : Form) (fields : Fields) : Prop where
  id : Has fields "stage_id" IsName
  intent : May fields "intent" (OrNull (IsWord ["INITIAL", "REPAIR_CONCEPT", "REPAIR_VISUAL",
    "REPAIR_PROCEDURE", "SCAFFOLDED_PRACTICE", "TRANSFER"]))
  prompt : Has fields "prompt" (IsObject Prompt.Fits)
  instruction : May fields "instruction" (OrNull IsText)
  interaction : Has fields "interaction" (IsObject (Interaction.Fits form))
  answerKey : May fields "answer_key" (IsObject AnswerKey.Fits)

/-- The fields of an unlock rule. One that waits for something names a stage. -/
@[mk_iff]
structure UnlockRule.Fits (fields : Fields) : Prop where
  condition : Has fields "show_when"
    (IsWord ["always", "after_stage_correct", "after_stage_attempts_exceeded"])
  parent : May fields "depends_on_stage_id" (OrNull IsText)
  parent_named : Fields.get? fields "show_when" = some (.text "always")
    ∨ Has fields "depends_on_stage_id" IsName

/-- The fields of a stage with an unlock rule. -/
@[mk_iff]
structure DeclarativeStage.Fits (fields : Fields) : Prop where
  stage : Stage.Fits .authored fields
  unlock : May fields "unlock_logic" (OrNull (IsObject UnlockRule.Fits))

/-! ## Shapes of documents -/

/-- The fields of a question with unlock rules. There is a stage, and ids differ. -/
@[mk_iff]
structure DeclarativeDocument.Fits (fields : Fields) : Prop where
  itemId : May fields "item_id" (OrNull IsText)
  atomId : May fields "atom_id" (OrNull IsText)
  difficulty : May fields "difficulty" (OrNull IsInteger)
  contextTags : May fields "context_tags" (IsArray IsText)
  stages : Has fields "stages" (IsKeyed 1 "stage_id" (IsObject DeclarativeStage.Fits))

/-- The fields of the settings of a flow. -/
@[mk_iff]
structure FlowSettings.Fits (fields : Fields) : Prop where
  mode : May fields "mode" (IsWord ["branching"])
  entry : Has fields "entry_stage_id" IsText
  returnBehavior : May fields "return_behavior"
    (OrNull (IsWord ["reload_with_new_vars", "static"]))

/-- The fields of a question with explicit actions. There is a stage, and ids differ. -/
@[mk_iff]
structure BranchingDocument.Fits (fields : Fields) : Prop where
  itemId : May fields "item_id" (OrNull IsText)
  atomId : May fields "atom_id" (OrNull IsText)
  flow : Has fields "flow" (IsObject FlowSettings.Fits)
  stages : Has fields "stages" (IsKeyed 1 "stage_id" (IsObject (Stage.Fits .common)))

/-- The fields of a choice. -/
@[mk_iff]
structure Choice.Fits (fields : Fields) : Prop where
  id : Has fields "id" IsName
  text : Has fields "text" IsText
  imageUrl : May fields "image_url" (OrNull IsText)

/-- The fields of a single choice question. The prompt may be an object with a text. There are two
choices, ids differ, and the correct one is among them. -/
@[mk_iff]
structure MultipleChoiceDocument.Fits (fields : Fields) : Prop where
  id : May fields "id" (OrNull IsText)
  type : May fields "type" (OrNull (IsWord ["multiple_choice", "MULTIPLE_CHOICE"]))
  prompt : Has fields "prompt" fun v => IsText v ∨ IsObject (fun details => Has details "text" IsText) v
  options : Has fields "options" (IsKeyed 2 "id" (IsObject Choice.Fits))
  correctId : Has fields "correct_option_id" IsText
  correctId_mem : ∀ correct options, Fields.get? fields "correct_option_id" = some correct →
    Fields.get? fields "options" = some (.array options) →
    ∃ option ∈ options, option.field? "id" = some correct
  explanation : May fields "explanation" (OrNull IsText)
  metadata : May fields "metadata" (IsObject fun _ => True)

/-! ## Parts of a stage -/

theorem Prompt.isAccepted_schema {v : Json} :
    (Prompt.schema v).IsAccepted ↔ IsObject Prompt.Fits v := by
  rw [schema, isAccepted_record]
  exact isObject_congr (fun fields => by simp [fits_iff, and_assoc]) v

theorem Action.isAccepted_ofFields {fields : Fields} {tag : Json}
    (h : Fields.get? fields "type" = some tag) :
    (ofFields tag fields).IsAccepted ↔ Action.Fits fields := by
  constructor
  · unfold ofFields
    split_ifs with hgoto hbranch hloop hexit
    · intro haccepted
      exact .goto (hgoto ▸ h) (by simpa using haccepted)
    · intro haccepted
      exact .branch (hbranch ▸ h) (by simpa using haccepted)
    · exact fun _ => .loop (hloop ▸ h)
    · intro haccepted
      exact .exit (hexit ▸ h) (by simpa [Outcome.all, Outcome.word] using haccepted)
    · simp
  · intro hfits
    cases hfits with
    | goto htag htarget =>
      cases h.symm.trans htag
      simpa [ofFields] using htarget
    | branch htag htarget =>
      cases h.symm.trans htag
      simpa [ofFields] using htarget
    | loop htag =>
      cases h.symm.trans htag
      simp [ofFields]
    | exit htag houtcome =>
      cases h.symm.trans htag
      simpa [ofFields, Outcome.all, Outcome.word] using houtcome

theorem Action.fits_tag {fields : Fields} (h : Action.Fits fields) :
    ∃ tag, Fields.get? fields "type" = some tag := by
  cases h with
  | goto htag => exact ⟨_, htag⟩
  | branch htag => exact ⟨_, htag⟩
  | loop htag => exact ⟨_, htag⟩
  | exit htag => exact ⟨_, htag⟩

theorem Action.isAccepted_schema {v : Json} :
    (Action.schema v).IsAccepted ↔ IsObject Action.Fits v := by
  cases v with
  | object fields =>
    rw [isObject_object]
    cases htag : Fields.get? fields "type" with
    | none =>
      simp only [schema, htag, Checked.not_isAccepted_reject, false_iff]
      intro hfits
      obtain ⟨tag, hsome⟩ := fits_tag hfits
      rw [htag] at hsome
      cases hsome
    | some tag => simp only [schema, htag, isAccepted_ofFields htag]
  | _ => simp [schema, IsObject]

theorem StageOption.isAccepted_schema {v : Json} :
    (StageOption.schema v).IsAccepted ↔ IsObject (StageOption.Fits .common) v := by
  rw [schema, isAccepted_record]
  refine isObject_congr (fun fields => ?_) v
  simp [fits_iff, and_assoc, Form.Diagnostic, Action.isAccepted_schema, EdgeSource.all,
    EdgeSource.word]

theorem StageOption.names : Names StageOption.schema "id" StageOption.id := by
  intro v option h
  obtain ⟨fields, rfl, hid, -⟩ := StageOption.schema_eq_accepted.mp h
  exact get?_of_nonemptyText hid

theorem ChoiceSet.isAccepted_schema {v : Json} :
    (ChoiceSet.schema v).IsAccepted ↔ IsObject (ChoiceSet.Fits .common) v := by
  have hoptions {fields : Fields} :
      (∃ options, required fields "options" (listOfAtLeast 1 StageOption.schema) = .accepted options
        ∧ (options.map StageOption.id).Nodup)
      ↔ Has fields "options" (IsKeyed 1 "id" (IsObject (StageOption.Fits .common))) := by
    simpa only [StageOption.isAccepted_schema] using StageOption.names.exists_required_keyed
  constructor
  · rintro ⟨choices, h⟩
    obtain ⟨fields, rfl, hlist, hshuffle, hsingle, hnodup⟩ := ChoiceSet.schema_eq_accepted.mp h
    refine ⟨fields, rfl, hoptions.mp ⟨_, hlist, hnodup⟩, ?_, ?_⟩
    · simpa using isAccepted_optional.mp ⟨_, hshuffle⟩
    · simpa using isAccepted_optional.mp ⟨_, hsingle⟩
  · rintro ⟨fields, rfl, h⟩
    obtain ⟨options, hlist, hnodup⟩ := hoptions.mpr h.options
    obtain ⟨shuffle, hshuffle⟩ : (Schema.optional fields "shuffle" boolean false).IsAccepted := by
      simpa using h.shuffle
    obtain ⟨single, hsingle⟩ :
        (Schema.optional fields "single_select" boolean true).IsAccepted := by
      simpa using h.singleSelect
    exact ⟨⟨options, shuffle, single⟩, ChoiceSet.schema_eq_accepted.mpr
      ⟨fields, rfl, hlist, hshuffle, hsingle, hnodup⟩⟩

theorem Interaction.isAccepted_schema {v : Json} :
    (Interaction.schema v).IsAccepted ↔ IsObject (Interaction.Fits .common) v := by
  rw [schema, isAccepted_record]
  refine isObject_congr (fun fields => ?_) v
  simp [fits_iff, Form.Kind, ChoiceSet.isAccepted_schema, InteractionKind.all,
    InteractionKind.word]

theorem AnswerKey.isAccepted_schema {v : Json} :
    (AnswerKey.schema v).IsAccepted ↔ IsObject AnswerKey.Fits v := by
  rw [schema, isAccepted_record]
  exact isObject_congr (fun fields => by simp [fits_iff]) v

/-! ## Stages -/

theorem Stage.isAccepted_ofFields {fields : Fields} :
    (Stage.ofFields fields).IsAccepted ↔ Stage.Fits .common fields := by
  simp [ofFields, fits_iff, and_assoc, Prompt.isAccepted_schema, Interaction.isAccepted_schema,
    AnswerKey.isAccepted_schema, Intent.all, Intent.word]

theorem Stage.isAccepted_schema {v : Json} :
    (Stage.schema v).IsAccepted ↔ IsObject (Stage.Fits .common) v := by
  rw [schema, isAccepted_record]
  exact isObject_congr (fun _ => isAccepted_ofFields) v

theorem Stage.names : Names Stage.schema "stage_id" Stage.id := by
  intro v stage h
  obtain ⟨fields, rfl, hfields⟩ := Stage.schema_eq_accepted.mp h
  exact get?_of_nonemptyText (Stage.ofFields_eq_accepted.mp hfields).1

/-! ## The authoring format

A step of the normalization changes one field, so a shape in the common form after the step is the
shape in the authoring format before it, field by field. -/

namespace DeclarativeStage

theorem get?_mapField {name key : String} {f : Json → Json} {fields : Fields} :
    Fields.get? (mapField name f fields) key
      = if key = name then (Fields.get? fields key).map f else Fields.get? fields key := by
  induction fields with
  | nil => simp [mapField, Fields.get?]
  | cons field rest ih =>
    obtain ⟨found, v⟩ := field
    have hcons : mapField name f ((found, v) :: rest)
        = (found, if found = name then f v else v) :: mapField name f rest := by
      unfold mapField
      split_ifs with hname <;> simp [hname]
    by_cases hfound : key = found
    · subst hfound
      rw [hcons]
      split_ifs with hname <;> simp [Fields.get?]
    · rw [hcons, Dump.get?_cons_of_ne hfound, Dump.get?_cons_of_ne hfound, ih]

variable {name key : String} {f : Json → Json} {fields : Fields} {fits : Json → Prop}

theorem has_mapField_self : Has (mapField name f fields) name fits
    ↔ Has fields name fun v => fits (f v) := by
  simp [Has, get?_mapField]

theorem may_mapField_self : May (mapField name f fields) name fits
    ↔ May fields name fun v => fits (f v) := by
  simp [May, get?_mapField]

theorem has_mapField_of_ne (h : key ≠ name) :
    Has (mapField name f fields) key fits ↔ Has fields key fits := by
  simp [Has, get?_mapField, h]

theorem may_mapField_of_ne (h : key ≠ name) :
    May (mapField name f fields) key fits ↔ May fields key fits := by
  simp [May, get?_mapField, h]

theorem diagnostic_normalizeDiagnostic {v : Json} :
    Form.common.Diagnostic (normalizeDiagnostic v) ↔ Form.authored.Diagnostic v := by
  cases v with
  | object fields =>
    simp only [Form.Diagnostic, normalizeDiagnostic, isObject_object, May]
    cases Fields.get? fields "misconception_id" <;> simp [OrNull, IsText]
  | _ => simp [Form.Diagnostic, normalizeDiagnostic, OrNull, IsText, IsObject]

theorem isObject_normalizeOption {v : Json} :
    IsObject (StageOption.Fits .common) (normalizeOption v)
      ↔ IsObject (StageOption.Fits .authored) v := by
  cases v with
  | object fields =>
    simp [normalizeOption, StageOption.fits_iff, has_mapField_of_ne, may_mapField_of_ne,
      may_mapField_self, diagnostic_normalizeDiagnostic]
  | _ => simp [normalizeOption, IsObject]

theorem field?_normalizeOption {v : Json} :
    (normalizeOption v).field? "id" = v.field? "id" := by
  cases v with
  | object fields => simp [normalizeOption, Json.field?, get?_mapField]
  | _ => rfl

theorem isKeyed_normalizeOptions {v : Json} :
    IsKeyed 1 "id" (IsObject (StageOption.Fits .common)) (normalizeOptions v)
      ↔ IsKeyed 1 "id" (IsObject (StageOption.Fits .authored)) v := by
  cases v with
  | array options =>
    simp [normalizeOptions, IsKeyed, isObject_normalizeOption, Function.comp_def,
      field?_normalizeOption]
  | _ => simp [normalizeOptions, IsKeyed]

theorem isObject_normalizeConfig {v : Json} :
    IsObject (ChoiceSet.Fits .common) (normalizeConfig v)
      ↔ IsObject (ChoiceSet.Fits .authored) v := by
  cases v with
  | object fields =>
    simp [normalizeConfig, ChoiceSet.fits_iff, has_mapField_self, may_mapField_of_ne,
      isKeyed_normalizeOptions]
  | _ => simp [normalizeConfig, IsObject]

theorem isObject_normalizeInteraction {v : Json} :
    IsObject (Interaction.Fits .common) (normalizeInteraction v)
      ↔ IsObject (Interaction.Fits .authored) v := by
  cases v with
  | object fields =>
    have htype : Fields.get? (mapField "config" normalizeConfig fields) "type"
        = Fields.get? fields "type" := by
      rw [get?_mapField, if_neg (by decide)]
    simp only [normalizeInteraction, htype, isObject_object, Interaction.fits_iff, Form.Kind]
    split_ifs with hsome
    · -- a type that is there is kept, and has to be a word in either form
      obtain ⟨v, hv⟩ := Option.isSome_iff_exists.mp hsome
      simp [Has, May, htype, hv, get?_mapField, isObject_normalizeConfig]
    · -- a type that is not there becomes one of the words
      have hnone : Fields.get? fields "type" = none := by simpa using hsome
      have hword : Fields.get? (("type", .text InteractionKind.concept.word)
          :: mapField "config" normalizeConfig fields) "type" = some (.text "mcq_concept") := rfl
      have hconfig : Fields.get? (("type", .text InteractionKind.concept.word)
          :: mapField "config" normalizeConfig fields) "config"
          = (Fields.get? fields "config").map normalizeConfig := by
        rw [Dump.get?_cons_of_ne (by decide), get?_mapField, if_pos rfl]
      simp [Has, May, hnone, hword, hconfig, isObject_normalizeConfig, IsWord]
  | _ => simp [normalizeInteraction, IsObject]

theorem stage_fits_mapField {fields : Fields} :
    Stage.Fits .common (mapField "interaction" normalizeInteraction fields)
      ↔ Stage.Fits .authored fields := by
  simp [Stage.fits_iff, has_mapField_self, has_mapField_of_ne, may_mapField_of_ne,
    isObject_normalizeInteraction]

theorem isObject_normalize {check fits : Fields → Prop}
    (h : ∀ fields, check (mapField "interaction" normalizeInteraction fields) ↔ fits fields)
    {v : Json} : IsObject check (normalize v) ↔ IsObject fits v := by
  cases v with
  | object fields => simp [normalize, h]
  | _ => simp [normalize, IsObject]

end DeclarativeStage

/-! ## Stages with unlock rules -/

theorem UnlockRule.isAccepted_schema {v : Json} :
    (UnlockRule.schema v).IsAccepted ↔ IsObject UnlockRule.Fits v := by
  constructor
  · rintro ⟨rule, h⟩
    obtain ⟨fields, rfl, htrigger, hparent, hrule⟩ := UnlockRule.schema_eq_accepted.mp h
    refine ⟨fields, rfl, ?_, ?_, ?_⟩
    · simpa [conditions, conditionWord] using isAccepted_required.mp ⟨_, htrigger⟩
    · simpa using isAccepted_optionalNullable.mp ⟨_, hparent⟩
    · cases rule with
      | always parent =>
        obtain ⟨w, hget, hw⟩ := required_eq_accepted.mp htrigger
        exact Or.inl (hget.trans (congrArg some (oneOf_eq_accepted hw).2))
      | after trigger parent =>
        rcases optional_eq_accepted.mp hparent with ⟨-, hnone⟩ | ⟨w, hget, hw⟩
        · cases hnone
        · exact Or.inr ⟨w, hget, parent, hrule, anyText_eq_accepted.mp (nullable_eq_some hw)⟩
  · rintro ⟨fields, rfl, h⟩
    obtain ⟨trigger?, htrigger⟩ :
        (required fields "show_when" (oneOf conditions conditionWord)).IsAccepted := by
      simpa [conditions, conditionWord] using h.condition
    obtain ⟨parent?, hparent⟩ :
        (optionalNullable fields "depends_on_stage_id" anyText).IsAccepted := by
      simpa using h.parent
    cases trigger? with
    | none =>
      exact ⟨.always parent?, UnlockRule.schema_eq_accepted.mpr
        ⟨fields, rfl, htrigger, hparent, trivial⟩⟩
    | some trigger =>
      rcases h.parent_named with halways | ⟨w, hget, parent, hne, rfl⟩
      · -- the word is that of the trigger
        obtain ⟨w, hget, hw⟩ := required_eq_accepted.mp htrigger
        rw [halways, (oneOf_eq_accepted hw).2] at hget
        cases trigger <;> simp [conditionWord] at hget
      · have hnamed : optionalNullable fields "depends_on_stage_id" anyText
            = .accepted (some parent) :=
          optional_eq_accepted.mpr (Or.inr ⟨_, hget, rfl⟩)
        exact ⟨.after trigger parent, UnlockRule.schema_eq_accepted.mpr
          ⟨fields, rfl, htrigger, hnamed, hne⟩⟩

namespace DeclarativeStage

theorem isAccepted_schema {v : Json} :
    (DeclarativeStage.schema v).IsAccepted ↔ IsObject DeclarativeStage.Fits v := by
  rw [schema, normalizedSchema, isAccepted_record]
  refine isObject_normalize fun fields => ?_
  simp [fits_iff, Stage.isAccepted_ofFields, stage_fits_mapField, may_mapField_of_ne,
    UnlockRule.isAccepted_schema]

theorem field?_normalize {v : Json} (h : key ≠ "interaction") :
    (normalize v).field? key = v.field? key := by
  cases v with
  | object fields => simp [normalize, Json.field?, get?_mapField, h]
  | _ => rfl

theorem names : Names DeclarativeStage.schema "stage_id" fun stage => stage.id := by
  intro v stage h
  obtain ⟨fields, hfields, hstage, -⟩ := DeclarativeStage.schema_eq_accepted.mp h
  rw [← field?_normalize (by decide), hfields]
  exact get?_of_nonemptyText (Stage.ofFields_eq_accepted.mp hstage).1

end DeclarativeStage

/-! ## Questions -/

theorem FlowSettings.isAccepted_schema {v : Json} :
    (FlowSettings.schema v).IsAccepted ↔ IsObject FlowSettings.Fits v := by
  rw [schema, isAccepted_record]
  refine isObject_congr (fun fields => ?_) v
  simp [fits_iff, and_assoc, ReturnBehavior.all, ReturnBehavior.word]

theorem DeclarativeDocument.isAccepted_schema {v : Json} :
    (DeclarativeDocument.schema v).IsAccepted ↔ IsObject DeclarativeDocument.Fits v := by
  rw [schema, isAccepted_record]
  refine isObject_congr (fun fields => ?_) v
  rw [Checked.isAccepted_ensure_seq (fun stages => (stages.map fun stage => stage.id).Nodup),
    DeclarativeStage.names.exists_required_keyed]
  · simp [fits_iff, and_assoc, DeclarativeStage.isAccepted_schema]
  · intro g stages hg
    -- whatever the other fields are, the stages are those of the list
    simp only [Checked.seq_eq_accepted, Checked.map_eq_accepted] at hg
    obtain ⟨_, _, ⟨_, _, ⟨_, _, ⟨_, _, rfl⟩, _, rfl⟩, _, rfl⟩, _, rfl⟩ := hg
    exact repeatedStage?_eq_none

theorem BranchingDocument.isAccepted_schema {v : Json} :
    (BranchingDocument.schema v).IsAccepted ↔ IsObject BranchingDocument.Fits v := by
  rw [schema, isAccepted_record]
  refine isObject_congr (fun fields => ?_) v
  rw [Checked.isAccepted_ensure_seq (fun stages => (stages.map Stage.id).Nodup),
    Stage.names.exists_required_keyed]
  · simp [fits_iff, and_assoc, Stage.isAccepted_schema, FlowSettings.isAccepted_schema]
  · intro g stages hg
    simp only [Checked.seq_eq_accepted, Checked.map_eq_accepted] at hg
    obtain ⟨_, _, ⟨_, _, ⟨_, _, rfl⟩, _, rfl⟩, _, rfl⟩ := hg
    exact repeatedStage?_eq_none

theorem Choice.isAccepted_schema {v : Json} :
    (Choice.schema v).IsAccepted ↔ IsObject Choice.Fits v := by
  rw [schema, isAccepted_record]
  exact isObject_congr (fun fields => by simp [fits_iff, and_assoc]) v

theorem Choice.names : Names Choice.schema "id" Choice.id := by
  intro v choice h
  obtain ⟨fields, rfl, hid, -⟩ := Choice.schema_eq_accepted.mp h
  exact get?_of_nonemptyText hid

namespace MultipleChoiceDocument

/-- A prompt is a text, or an object with one. -/
theorem isAccepted_prompt {v : Json} : (anyText (flattenPrompt v)).IsAccepted
    ↔ IsText v ∨ IsObject (fun details => Has details "text" IsText) v := by
  cases v with
  | object details =>
    simp only [isAccepted_anyText, flattenPrompt, isObject_object, Has]
    cases Fields.get? details "text" <;> simp [IsText]
  | _ => simp [flattenPrompt, IsText, IsObject]

theorem isAccepted_schema {v : Json} :
    (MultipleChoiceDocument.schema v).IsAccepted ↔ IsObject MultipleChoiceDocument.Fits v := by
  have hkeyed {fields : Fields} :
      (∃ choices, required fields "options" (listOfAtLeast 2 Choice.schema) = .accepted choices
        ∧ (choices.map Choice.id).Nodup)
      ↔ Has fields "options" (IsKeyed 2 "id" (IsObject Choice.Fits)) := by
    simpa only [Choice.isAccepted_schema] using Choice.names.exists_required_keyed
  constructor
  · rintro ⟨document, h⟩
    obtain ⟨fields, rfl, hid, htype, hprompt, hoptions, hcorrect, hexplanation, hmetadata, hnodup,
      hmem⟩ := schema_eq_accepted.mp h
    refine ⟨fields, rfl, ?_, ?_, ?_, hkeyed.mp ⟨_, hoptions, hnodup⟩, ?_, ?_, ?_, ?_⟩
    · simpa using isAccepted_optionalNullable.mp ⟨_, hid⟩
    · simpa [TypeSpelling.all, TypeSpelling.word] using isAccepted_optionalNullable.mp ⟨_, htype⟩
    · simpa only [isAccepted_prompt] using isAccepted_required.mp ⟨_, hprompt⟩
    · simpa using isAccepted_required.mp ⟨_, hcorrect⟩
    · -- the items of the array have the ids of the choices
      intro correct options hgetCorrect hgetOptions
      obtain ⟨w, hw, hwc⟩ := required_eq_accepted.mp hcorrect
      obtain ⟨vs, hvs, hitems⟩ := exists_items_of_required hoptions
      cases hw.symm.trans hgetCorrect
      cases hvs.symm.trans hgetOptions
      rw [anyText_eq_accepted.mp hwc]
      exact (Choice.names.mem_iff hitems).mpr hmem
    · simpa using isAccepted_optionalNullable.mp ⟨_, hexplanation⟩
    · simpa using isAccepted_optional.mp ⟨_, hmetadata⟩
  · rintro ⟨fields, rfl, h⟩
    obtain ⟨choices, hoptions, hnodup⟩ := hkeyed.mpr h.options
    obtain ⟨id, hid⟩ : (optionalNullable fields "id" anyText).IsAccepted := by
      simpa using h.id
    obtain ⟨spelling, htype⟩ :
        (optionalNullable fields "type" (oneOf TypeSpelling.all TypeSpelling.word)).IsAccepted := by
      simpa [TypeSpelling.all, TypeSpelling.word] using h.type
    obtain ⟨prompt, hprompt⟩ :
        (required fields "prompt" fun v => anyText (flattenPrompt v)).IsAccepted := by
      simpa only [isAccepted_required, isAccepted_prompt] using h.prompt
    obtain ⟨explanation, hexplanation⟩ :
        (optionalNullable fields "explanation" anyText).IsAccepted := by
      simpa using h.explanation
    obtain ⟨metadata, hmetadata⟩ :
        (Schema.optional fields "metadata" dictionary []).IsAccepted := by
      simpa using h.metadata
    obtain ⟨_, hgetCorrect, correct, rfl⟩ := h.correctId
    have hcorrect : required fields "correct_option_id" anyText = .accepted correct :=
      required_eq_accepted.mpr ⟨_, hgetCorrect, rfl⟩
    have hmem : correct ∈ choices.map Choice.id := by
      obtain ⟨vs, hvs, hitems⟩ := exists_items_of_required hoptions
      exact (Choice.names.mem_iff hitems).mp (h.correctId_mem _ _ hgetCorrect hvs)
    exact ⟨⟨id, spelling, prompt, choices, correct, explanation, metadata⟩,
      schema_eq_accepted.mpr ⟨fields, rfl, hid, htype, hprompt, hoptions, hcorrect, hexplanation,
        hmetadata, hnodup, hmem⟩⟩

end MultipleChoiceDocument

/-- The shape of the raw questions of a kind. -/
def DocumentKind.Fits : DocumentKind → Fields → Prop
  | .multipleChoice => MultipleChoiceDocument.Fits
  | .branching => BranchingDocument.Fits
  | .declarative => DeclarativeDocument.Fits

/-- A question is accepted exactly if it has the shape of its kind. -/
theorem Document.isAccepted_schema {kind : DocumentKind} {v : Json} :
    (Document.schema kind v).IsAccepted ↔ IsObject kind.Fits v := by
  cases kind with
  | multipleChoice =>
    rw [Document.schema, Checked.isAccepted_map]
    exact MultipleChoiceDocument.isAccepted_schema
  | branching =>
    rw [Document.schema, Checked.isAccepted_map]
    exact BranchingDocument.isAccepted_schema
  | declarative =>
    rw [Document.schema, Checked.isAccepted_map]
    exact DeclarativeDocument.isAccepted_schema

end AdaptiveQuiz
