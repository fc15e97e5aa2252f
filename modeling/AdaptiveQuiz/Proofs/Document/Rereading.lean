import AdaptiveQuiz.Flow.Basic
import AdaptiveQuiz.Proofs.Document.RoundTrip
import AdaptiveQuiz.Proofs.Document.SingleChoice
import AdaptiveQuiz.Proofs.Flow.EdgeResolution

/-!
# Reading what was accepted once more

A schema is lax: it takes numerals for integers and words for booleans, and spellings of the
authoring format are brought to the common form first. What it accepts is written down in one way
only, and from there the same value is read. So a second reading changes nothing, and a stage that
is written without its rule loses nothing but the rule.

## Main definitions

* `Rereads`: a schema reads what is written of an accepted value as the same value
* `DeclarativeStage.strip`: a stage written without its rule and read again

## Main statements

* `DeclarativeStage.normalize_dump`: what is written of a stage is in the common form
* `DeclarativeStage.recovers`, `DeclarativeDocument.recovers`, `Flow.recovers`
* `MultipleChoiceDocument.schema_toJson`: single choice questions, with all their fields
* `rereads_accepted`: all schemas of documents, stages and flows
-/

namespace AdaptiveQuiz

open Schema

namespace DeclarativeStage

/-! ## The common form

Each step of the normalization looks at one field of an object. It leaves the object as it is if it
leaves this field as it is. -/

theorem mapField_eq_self {name : String} {f : Json → Json} {fields : Fields}
    (h : ∀ v, (name, v) ∈ fields → f v = v) : mapField name f fields = fields := by
  have hfield : ∀ field ∈ fields,
      (if field.1 = name then (field.1, f field.2) else (field.1, field.2)) = field := by
    rintro ⟨key, v⟩ hmem
    split
    · next hkey =>
      subst hkey
      rw [h v hmem]
    · rfl
  exact (List.map_congr_left hfield).trans (List.map_id fields)

theorem mapField_dump {name : String} {f : Json → Json} {fields : Fields} (dump : Dump)
    (h : ∀ v, (name, v) ∈ fields → f (dump.value v) = dump.value v) :
    mapField name f (dump.fields fields) = dump.fields fields := by
  apply mapField_eq_self
  intro w hw
  obtain ⟨v, hv, rfl⟩ := dump.exists_of_mem_fields hw
  exact h v hv

variable (dump : Dump)

theorem normalizeDiagnostic_dump (diagnostic : Option String) :
    normalizeDiagnostic (dump.value (.ofText? diagnostic)) = dump.value (.ofText? diagnostic) := by
  cases diagnostic with
  | none => cases dump <;> rfl
  | some name =>
    rw [Json.ofText?, Dump.value_text]
    rfl

theorem normalizeOption_dump (option : StageOption) :
    normalizeOption (dump.value option.toJson) = dump.value option.toJson := by
  rw [StageOption.toJson, Dump.value_object, normalizeOption, mapField_dump]
  intro v hv
  have hdiagnostic : v = .ofText? option.diagnostic := by simpa using hv
  rw [hdiagnostic, normalizeDiagnostic_dump]

theorem normalizeOptions_dump (options : List StageOption) :
    normalizeOptions (dump.value (.array (options.map StageOption.toJson)))
      = dump.value (.array (options.map StageOption.toJson)) := by
  simp [normalizeOptions, normalizeOption_dump]

theorem normalizeConfig_dump (choices : ChoiceSet) :
    normalizeConfig (dump.value choices.toJson) = dump.value choices.toJson := by
  rw [ChoiceSet.toJson, Dump.value_object, normalizeConfig, mapField_dump]
  intro v hv
  have hoptions : v = .array (choices.options.map StageOption.toJson) := by simpa using hv
  rw [hoptions, normalizeOptions_dump]

/-- The type of an interaction is always written, so no default takes its place. -/
theorem normalizeInteraction_dump (interaction : Interaction) :
    normalizeInteraction (dump.value interaction.toJson) = dump.value interaction.toJson := by
  have hconfig : mapField "config" normalizeConfig
      (dump.fields [("type", .text interaction.kind.word), ("config", interaction.choices.toJson)])
      = dump.fields
        [("type", .text interaction.kind.word), ("config", interaction.choices.toJson)] := by
    apply mapField_dump
    intro v hv
    have hchoices : v = interaction.choices.toJson := by simpa using hv
    rw [hchoices, normalizeConfig_dump]
  have htype : Fields.get? (dump.fields
      [("type", .text interaction.kind.word), ("config", interaction.choices.toJson)]) "type"
      = some (.text interaction.kind.word) := by
    rw [dump.get?_fields rfl (by simp), Dump.value_text]
  simp only [Interaction.toJson, Dump.value_object, normalizeInteraction, hconfig, htype,
    Option.isSome_some, if_true]

/-- What is written of a stage is in the common form already. -/
theorem normalize_dump (stage : DeclarativeStage) :
    normalize (dump.value stage.toJson) = dump.value stage.toJson := by
  rw [toJson, Dump.value_object, normalize, mapField_dump]
  intro v hv
  have hinteraction : v = stage.interaction.toJson := by simpa [Stage.toFields] using hv
  rw [hinteraction, normalizeInteraction_dump]

end DeclarativeStage

/-! ## Stages with unlock rules -/

theorem Trigger.recovers (trigger? : Option Trigger) :
    Recovers (oneOf UnlockRule.conditions UnlockRule.conditionWord)
      (.text (UnlockRule.conditionWord trigger?)) trigger? :=
  recovers_oneOf (by rcases trigger? with _ | _ | _ <;> decide)
    (by rcases trigger? with _ | _ | _ <;> decide)

/-- A rule is written by what it waits for and the parent that it names. -/
theorem UnlockRule.toJson_eq (rule : UnlockRule) :
    rule.toJson = .object [("show_when", .text (conditionWord rule.trigger?)),
      ("depends_on_stage_id", .ofText? rule.parent?)] := by
  cases rule <;> rfl

theorem UnlockRule.recovers {rule : UnlockRule} (hrule : rule.WellFormed) :
    Recovers UnlockRule.schema rule.toJson rule := by
  rw [toJson_eq]
  exact recovers_object (by simp) fun _ _ h => UnlockRule.schema_eq_accepted.mpr ⟨_, rfl,
    h.required_eq rfl (Trigger.recovers rule.trigger?),
    h.optionalText_eq rfl,
    hrule⟩

theorem DeclarativeStage.recovers {stage : DeclarativeStage} (hstage : stage.toStage.WellFormed)
    (hrule : ∀ rule ∈ stage.unlock, rule.WellFormed) :
    Recovers DeclarativeStage.schema stage.toJson stage where
  ne_null := by simp [toJson]
  accepted dump := by
    have hkeys : ((stage.toStage.toFields ++ [("unlock_logic",
        Json.ofOption UnlockRule.toJson stage.unlock)]).map Prod.fst).Nodup := by
      simp [Stage.toFields]
    have hdumped := dumped_fields dump hkeys
    apply DeclarativeStage.schema_eq_accepted.mpr
    rw [normalize_dump, toJson, Dump.value_object]
    exact ⟨_, rfl, Stage.ofFields_dumped hstage hdumped,
      hdumped.optionalNullable_eq_of_mem rfl fun rule hmem => UnlockRule.recovers (hrule rule hmem)⟩

theorem DeclarativeStage.recovers_of_schema {raw : Json} {stage : DeclarativeStage}
    (h : DeclarativeStage.schema raw = .accepted stage) :
    Recovers DeclarativeStage.schema stage.toJson stage :=
  DeclarativeStage.recovers (wellFormed_of_schema h) fun _ => rule_wellFormed_of_schema h

/-! ## Documents and flows -/

theorem DeclarativeDocument.recovers {document : DeclarativeDocument}
    (hstages : WellFormedStages (document.stages.map fun stage => stage.toStage))
    (hrules : ∀ stage ∈ document.stages, ∀ rule ∈ stage.unlock, rule.WellFormed) :
    Recovers DeclarativeDocument.schema document.toJson document := by
  have hne : 0 < document.stages.length := by
    simpa using List.length_pos_iff.mpr hstages.ne_nil
  have hstage : ∀ stage ∈ document.stages,
      Recovers DeclarativeStage.schema stage.toJson stage := by
    intro stage hmem
    exact DeclarativeStage.recovers
      (hstages.wellFormed _ (List.mem_map_of_mem hmem)) (hrules stage hmem)
  have hids : (document.stages.map fun stage => stage.id).Nodup := by
    simpa [Function.comp_def] using hstages.ids_nodup
  exact recovers_object (by simp) fun _ _ h => DeclarativeDocument.schema_eq_accepted.mpr ⟨_, rfl,
    h.optionalText_eq rfl,
    h.optionalText_eq rfl,
    h.optionalNullable_eq rfl recovers_integer,
    h.optional_eq rfl (recovers_listOf fun tag _ => recovers_anyText tag),
    h.required_eq rfl (recovers_listOfAtLeast hne hstage),
    hids⟩

theorem Flow.schema_eq_accepted {v : Json} {flow : Flow} :
    Flow.schema v = .accepted flow ↔ ∃ fields, v = .object fields
      ∧ optionalNullable fields "item_id" anyText = .accepted flow.itemId
      ∧ optionalNullable fields "atom_id" anyText = .accepted flow.atomId
      ∧ required fields "entry_stage_id" anyText = .accepted flow.entry
      ∧ required fields "stages" (arrayOf "Input should be a valid tuple" Stage.schema)
        = .accepted flow.stages := by
  cases flow
  simp [schema, record_eq_accepted, and_assoc]

theorem Flow.wellFormed_of_schema {raw : Json} {flow : Flow}
    (h : Flow.schema raw = .accepted flow) : ∀ stage ∈ flow.stages, stage.WellFormed := by
  obtain ⟨fields, -, -, -, -, hstages⟩ := Flow.schema_eq_accepted.mp h
  obtain ⟨w, -, hw⟩ := required_eq_accepted.mp hstages
  obtain ⟨items, -, hitems⟩ := arrayOf_eq_accepted.mp hw
  intro stage hstage
  obtain ⟨item, -, hitem⟩ := exists_item_of_forall₂ hitems hstage
  exact Stage.wellFormed_of_schema hitem

/-- A flow is read back if its stages are, whether they hang together or not. -/
theorem Flow.recovers {flow : Flow} (hstages : ∀ stage ∈ flow.stages, stage.WellFormed) :
    Recovers Flow.schema flow.toJson flow :=
  recovers_object (by simp) fun _ _ h => Flow.schema_eq_accepted.mpr ⟨_, rfl,
    h.optionalText_eq rfl,
    h.optionalText_eq rfl,
    h.required_eq rfl (recovers_anyText flow.entry),
    h.required_eq rfl (recovers_arrayOf fun stage hmem => Stage.recovers (hstages stage hmem))⟩

/-! ## Single choice questions

The metadata of a single choice question are kept as they are, nulls included. They are read back
only where all fields are written. -/

theorem TypeSpelling.recovers (spelling : TypeSpelling) :
    Recovers (oneOf TypeSpelling.all TypeSpelling.word) (.text spelling.word) spelling :=
  recovers_oneOf (by cases spelling <;> decide) (by cases spelling <;> decide)

theorem Choice.recovers {choice : Choice} (hid : choice.id ≠ "") :
    Recovers Choice.schema choice.toJson choice :=
  recovers_object (by simp) fun _ _ h => Choice.schema_eq_accepted.mpr ⟨_, rfl,
    h.required_eq rfl (recovers_nonemptyText hid),
    h.required_eq rfl (recovers_anyText choice.text),
    h.optionalText_eq rfl⟩

/-- A prompt that is a text is not flattened any further. -/
theorem recovers_flatPrompt (s : String) :
    Recovers (fun v => anyText (MultipleChoiceDocument.flattenPrompt v)) (.text s) s where
  ne_null := by simp
  accepted dump := by
    rw [Dump.value_text]
    rfl

theorem MultipleChoiceDocument.schema_toJson {document : MultipleChoiceDocument}
    (h : document.WellFormed) :
    MultipleChoiceDocument.schema document.toJson = .accepted document := by
  have hchoices : Recovers (listOfAtLeast 2 Choice.schema)
      (.array (document.choices.map Choice.toJson)) document.choices :=
    recovers_listOfAtLeast h.two_le_length fun choice hmem =>
      Choice.recovers (h.id_ne_empty choice hmem)
  exact MultipleChoiceDocument.schema_eq_accepted.mpr ⟨_, rfl,
    (dumped_self _).optionalText_eq rfl,
    (dumped_self _).optionalWord_eq rfl TypeSpelling.recovers,
    (dumped_self _).required_eq rfl (recovers_flatPrompt document.prompt),
    (dumped_self _).required_eq rfl hchoices,
    (dumped_self _).required_eq rfl (recovers_anyText document.correctId),
    (dumped_self _).optionalText_eq rfl,
    optional_eq_accepted.mpr (Or.inr ⟨_, rfl, rfl⟩),
    h.ids_nodup,
    h.correctId_mem⟩

/-! ## The rule is all that a stage loses -/

/-- A value without the fields of a name. -/
def Json.without (name : String) : Json → Json
  | .object fields => .object (fields.filter fun field => field.1 != name)
  | v => v

/-- A stage written without its rule, and read as a stage of the common form. -/
def DeclarativeStage.strip (stage : DeclarativeStage) : Checked Stage :=
  Stage.schema (stage.toJson.without "unlock_logic")

theorem DeclarativeStage.without_toJson (stage : DeclarativeStage) :
    stage.toJson.without "unlock_logic" = stage.toStage.toJson := by
  simp [toJson, Stage.toJson, Stage.toFields, Json.without]

/-! ## Reading once more -/

/-- A schema reads what is written of an accepted value as the same value. -/
def Rereads {α : Type} (schema : Schema α) (write : α → Json) : Prop :=
  ∀ raw a, schema raw = .accepted a → schema (write a) = .accepted a

theorem rereads_of_recovers {α : Type} {schema : Schema α} {write : α → Json}
    (h : ∀ raw a, schema raw = .accepted a → Recovers schema (write a) a) (dump : Dump) :
    Rereads schema fun a => dump.value (write a) :=
  fun raw a haccepted => (h raw a haccepted).accepted dump

/-- Whatever raw value a stage, a document or a flow was read from, it is read again from what is
written of it, with or without null fields. A stage with a rule is moreover read as a stage of the
common form when it is written without the rule, and is then the same up to the rule. -/
theorem rereads_accepted :
    (∀ dump : Dump,
      Rereads Stage.schema (fun stage => dump.value stage.toJson)
      ∧ Rereads DeclarativeStage.schema (fun stage => dump.value stage.toJson)
      ∧ Rereads DeclarativeDocument.schema (fun document => dump.value document.toJson)
      ∧ Rereads BranchingDocument.schema (fun document => dump.value document.toJson)
      ∧ Rereads Flow.schema (fun flow => dump.value flow.toJson))
    ∧ Rereads MultipleChoiceDocument.schema MultipleChoiceDocument.toJson
    ∧ ∀ raw stage, DeclarativeStage.schema raw = .accepted stage →
        stage.strip = .accepted stage.toStage := by
  refine ⟨fun dump => ⟨?_, ?_, ?_, ?_, ?_⟩, ?_, ?_⟩
  · exact rereads_of_recovers (fun _ _ h => Stage.recovers (Stage.wellFormed_of_schema h)) dump
  · exact rereads_of_recovers (fun _ _ h => DeclarativeStage.recovers_of_schema h) dump
  · exact rereads_of_recovers (fun _ _ h => DeclarativeDocument.recovers
      (DeclarativeDocument.wellFormed_of_schema h)
      (DeclarativeDocument.rules_wellFormed_of_schema h)) dump
  · exact rereads_of_recovers (fun _ _ h => BranchingDocument.recovers
      (BranchingDocument.wellFormed_of_schema h)) dump
  · exact rereads_of_recovers (fun _ _ h => Flow.recovers (Flow.wellFormed_of_schema h)) dump
  · exact fun _ _ h => MultipleChoiceDocument.schema_toJson
      (MultipleChoiceDocument.wellFormed_of_schema h)
  · intro raw stage h
    rw [DeclarativeStage.strip, DeclarativeStage.without_toJson]
    exact (Stage.recovers (DeclarativeStage.wellFormed_of_schema h)).accepted .full

namespace Detour

/-- A stage in the spellings of the authoring format: a word for a boolean, zero for another one, an
object for a diagnostic, and no type of the interaction. -/
def rawLax : Json :=
  .object ([("stage_id", .text "TRY"), ("prompt", .object [("text", .text "TRY")]),
    ("interaction", .object [("config", .object [("options", .array [
      rawOption "a" [("is_correct", .text "Yes"),
        ("diagnostic", .object [("misconception_id", .text "sign")])],
      rawOption "b" [("diagnostic", .object [])]]), ("shuffle", .integer 0)])])]
    ++ rawRule "after_stage_correct")

/-- The stage as it is read. -/
def lax : DeclarativeStage where
  toStage := stage "TRY" [{ plain "a" with isCorrect := some true, diagnostic := some "sign" },
    plain "b"] none
  unlock := some (.after .correct "ASK")

/-- The stage is written in another way, which is read as the same stage. -/
theorem lax_reread : DeclarativeStage.schema rawLax = .accepted lax ∧ lax.toJson ≠ rawLax
    ∧ (∀ dump : Dump, DeclarativeStage.schema (dump.value lax.toJson) = .accepted lax)
    ∧ lax.strip = .accepted lax.toStage := by
  have haccepted : DeclarativeStage.schema rawLax = .accepted lax := by decide +kernel
  obtain ⟨hrereads, -, hstrip⟩ := rereads_accepted
  refine ⟨haccepted, by decide, fun dump => ?_, hstrip rawLax lax haccepted⟩
  exact (hrereads dump).2.1 rawLax lax haccepted

end Detour

end AdaptiveQuiz
