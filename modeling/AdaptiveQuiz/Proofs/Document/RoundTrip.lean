import AdaptiveQuiz.Proofs.Document.WellFormed
import AdaptiveQuiz.Proofs.Schema.Dump

/-!
# Stages and documents are read back

What is written down of a well-formed stage is read back as the same stage, whether its null fields
are written or not, and so are documents with such stages. The parts of a stage come first.

## Main statements

* `Action.recovers`, `StageOption.recovers`: what an option leads to, and options
* `Stage.recovers`, `WellFormedStages.recovers`: stages
* `FlowSettings.recovers`, `BranchingDocument.recovers`: documents with explicit actions
-/

namespace AdaptiveQuiz

open Schema

/-! ## Words -/

theorem Outcome.recovers (outcome : Outcome) :
    Recovers (oneOf Outcome.all Outcome.word) (.text outcome.word) outcome :=
  recovers_oneOf (by cases outcome <;> decide) (by cases outcome <;> decide)

theorem EdgeSource.recovers (source : EdgeSource) :
    Recovers (oneOf EdgeSource.all EdgeSource.word) (.text source.word) source :=
  recovers_oneOf (by cases source <;> decide) (by cases source <;> decide)

theorem Intent.recovers (intent : Intent) :
    Recovers (oneOf Intent.all Intent.word) (.text intent.word) intent :=
  recovers_oneOf (by cases intent <;> decide) (by cases intent <;> decide)

theorem InteractionKind.recovers (kind : InteractionKind) :
    Recovers (oneOf InteractionKind.all InteractionKind.word) (.text kind.word) kind :=
  recovers_oneOf (by cases kind <;> decide) (by cases kind <;> decide)

theorem ReturnBehavior.recovers (behavior : ReturnBehavior) :
    Recovers (oneOf ReturnBehavior.all ReturnBehavior.word) (.text behavior.word) behavior :=
  recovers_oneOf (by cases behavior <;> decide) (by cases behavior <;> decide)

/-! ## Prompts, actions and options -/

theorem Prompt.recovers (prompt : Prompt) : Recovers Prompt.schema prompt.toJson prompt :=
  recovers_object (by simp) fun _ _ h => Prompt.schema_eq_accepted.mpr ⟨_, rfl,
    h.required_eq rfl (recovers_anyText prompt.text),
    h.optionalText_eq rfl,
    h.optionalText_eq rfl⟩

theorem Action.recovers_of_tag {fields : Fields} {tag : String} {action : Action}
    (hkeys : (fields.map Prod.fst).Nodup) (htag : Fields.get? fields "type" = some (.text tag))
    (h : ∀ dump dumped, Dumped dump fields dumped →
      ofFields (.text tag) dumped = .accepted action) :
    Recovers Action.schema (.object fields) action := by
  refine recovers_object hkeys fun dump dumped hdumped => ?_
  have hkept : Fields.get? dumped "type" = some (.text tag) := by
    rw [hdumped.get?_of_ne_null _ _ htag (by simp), Dump.value_text]
  rw [schema, hkept]
  exact h dump dumped hdumped

theorem Action.recovers (action : Action) : Recovers Action.schema action.toJson action := by
  cases action with
  | goto target =>
    refine recovers_of_tag (by simp) rfl fun dump dumped h => ?_
    rw [ofFields, if_pos rfl, Checked.within_eq_accepted, Checked.map_eq_accepted]
    exact ⟨target, h.required_eq rfl (recovers_anyText target), rfl⟩
  | branch target =>
    refine recovers_of_tag (by simp) rfl fun dump dumped h => ?_
    rw [ofFields, if_neg (by decide), if_pos rfl, Checked.within_eq_accepted,
      Checked.map_eq_accepted]
    exact ⟨target, h.required_eq rfl (recovers_anyText target), rfl⟩
  | loop =>
    refine recovers_of_tag (by simp) rfl fun dump dumped h => ?_
    rw [ofFields, if_neg (by decide), if_neg (by decide), if_pos rfl]
  | exit outcome =>
    refine recovers_of_tag (by simp) rfl fun dump dumped h => ?_
    rw [ofFields, if_neg (by decide), if_neg (by decide), if_neg (by decide), if_pos rfl,
      Checked.within_eq_accepted, Checked.map_eq_accepted]
    -- without outcome the field may be gone, which is read in the same way
    exact ⟨outcome, h.optionalWord_eq rfl Outcome.recovers, rfl⟩

theorem StageOption.recovers {option : StageOption} (hid : option.id ≠ "") :
    Recovers StageOption.schema option.toJson option :=
  recovers_object (by simp) fun _ _ h => StageOption.schema_eq_accepted.mpr ⟨_, rfl,
    h.required_eq rfl (recovers_nonemptyText hid),
    h.required_eq rfl (recovers_anyText option.text),
    h.optionalText_eq rfl,
    h.optionalNullable_eq rfl recovers_boolean,
    h.optionalText_eq rfl,
    h.optionalText_eq rfl,
    h.optionalNullable_eq rfl Action.recovers,
    h.optionalWord_eq rfl EdgeSource.recovers⟩

/-! ## Interactions and answer keys -/

theorem ChoiceSet.recovers {choices : ChoiceSet} (hne : choices.options ≠ [])
    (hids : ∀ option ∈ choices.options, option.id ≠ "")
    (hnodup : (choices.options.map StageOption.id).Nodup) :
    Recovers ChoiceSet.schema choices.toJson choices := by
  have hlength : 1 ≤ choices.options.length := List.length_pos_iff.mpr hne
  have hoptions : Recovers (listOfAtLeast 1 StageOption.schema)
      (.array (choices.options.map StageOption.toJson)) choices.options :=
    recovers_listOfAtLeast hlength fun option hmem => StageOption.recovers (hids option hmem)
  exact recovers_object (by simp) fun _ _ h => ChoiceSet.schema_eq_accepted.mpr ⟨_, rfl,
    h.required_eq rfl hoptions,
    h.optional_eq rfl (recovers_boolean choices.shuffle),
    h.optional_eq rfl (recovers_boolean choices.singleSelect),
    hnodup⟩

theorem AnswerKey.recovers (key : AnswerKey) : Recovers AnswerKey.schema key.toJson key :=
  recovers_object (by simp) fun _ _ h => AnswerKey.schema_eq_accepted.mpr ⟨_, rfl,
    h.optionalText_eq rfl,
    h.optional_eq rfl (recovers_listOf fun point _ => recovers_anyText point)⟩

/-! ## Stages -/

theorem Stage.interaction_recovers {stage : Stage} (hstage : stage.WellFormed) :
    Recovers Interaction.schema stage.interaction.toJson stage.interaction := by
  have hchoices : Recovers ChoiceSet.schema stage.interaction.choices.toJson
      stage.interaction.choices :=
    ChoiceSet.recovers hstage.options_ne_nil hstage.optionId_ne_empty hstage.optionIds_nodup
  exact recovers_object (by simp) fun _ _ h => Interaction.schema_eq_accepted.mpr ⟨_, rfl,
    h.required_eq rfl (InteractionKind.recovers _),
    h.required_eq rfl hchoices⟩

/-- The fields of a stage are read back from among others, which stand behind them. -/
theorem Stage.ofFields_dumped {stage : Stage} {more dumped : Fields} {dump : Dump}
    (hstage : stage.WellFormed) (h : Dumped dump (stage.toFields ++ more) dumped) :
    Stage.ofFields dumped = .accepted stage :=
  Stage.ofFields_eq_accepted.mpr ⟨h.required_eq rfl (recovers_nonemptyText hstage.id_ne_empty),
    h.optionalWord_eq rfl Intent.recovers,
    h.required_eq rfl (Prompt.recovers stage.prompt),
    h.optionalText_eq rfl,
    h.required_eq rfl (Stage.interaction_recovers hstage),
    h.optional_eq rfl (AnswerKey.recovers stage.answerKey)⟩

theorem Stage.recovers {stage : Stage} (hstage : stage.WellFormed) :
    Recovers Stage.schema stage.toJson stage := by
  refine recovers_object (by simp [Stage.toFields]) fun dump dumped h => ?_
  rw [← List.append_nil stage.toFields] at h
  exact Stage.schema_eq_accepted.mpr ⟨_, rfl, Stage.ofFields_dumped hstage h⟩

theorem WellFormedStages.recovers {stages : List Stage} (h : WellFormedStages stages) :
    Recovers (listOfAtLeast 1 Stage.schema) (.array (stages.map Stage.toJson)) stages :=
  recovers_listOfAtLeast (List.length_pos_iff.mpr h.ne_nil) fun stage hmem =>
    Stage.recovers (h.wellFormed stage hmem)

/-! ## Documents with explicit actions -/

theorem FlowSettings.recovers (settings : FlowSettings) :
    Recovers FlowSettings.schema settings.toJson settings := by
  have hmode : Recovers (oneOf [()] fun () => "branching") (.text "branching") () :=
    recovers_oneOf (by simp) (by simp)
  exact recovers_object (by simp) fun _ _ h => FlowSettings.schema_eq_accepted.mpr ⟨_, rfl,
    h.optional_eq rfl hmode,
    h.required_eq rfl (recovers_anyText settings.entry),
    h.optionalWord_eq rfl ReturnBehavior.recovers⟩

/-- A document with well-formed stages is read back from what is written down of it. -/
theorem BranchingDocument.recovers {document : BranchingDocument}
    (h : WellFormedStages document.stages) :
    Recovers BranchingDocument.schema document.toJson document :=
  recovers_object (by simp) fun _ _ hdumped => BranchingDocument.schema_eq_accepted.mpr ⟨_, rfl,
    hdumped.optionalText_eq rfl,
    hdumped.optionalText_eq rfl,
    hdumped.required_eq rfl (FlowSettings.recovers _),
    hdumped.required_eq rfl h.recovers,
    h.ids_nodup⟩

end AdaptiveQuiz
