import AdaptiveQuiz.Proofs.Document.Acceptance

/-!
# Well-formed stages

What the schemas of multi-stage documents promise about the stages that they accept: names are not
empty, a stage has options, and neither option ids within a stage nor stage ids within a document
are repeated. A rule that waits for something names the stage that it is about.

## Main definitions

* `Stage.WellFormed`, `WellFormedStages`

## Main statements

* `DeclarativeDocument.wellFormed_of_schema`, `BranchingDocument.wellFormed_of_schema`
-/

namespace AdaptiveQuiz

open Schema

/-- A stage with a name and with options, which have names of their own. -/
structure Stage.WellFormed (stage : Stage) : Prop where
  id_ne_empty : stage.id ≠ ""
  options_ne_nil : stage.options ≠ []
  optionId_ne_empty : ∀ option ∈ stage.options, option.id ≠ ""
  optionIds_nodup : (stage.options.map StageOption.id).Nodup

/-- At least one stage, all well-formed and with different ids. -/
structure WellFormedStages (stages : List Stage) : Prop where
  ne_nil : stages ≠ []
  ids_nodup : (stages.map Stage.id).Nodup
  wellFormed : ∀ stage ∈ stages, stage.WellFormed

/-- A change of the options that keeps their ids keeps a stage well-formed. -/
theorem Stage.WellFormed.mapOptions {stage : Stage} (h : stage.WellFormed)
    {f : StageOption → StageOption} (hf : ∀ option, (f option).id = option.id) :
    (stage.mapOptions f).WellFormed where
  id_ne_empty := h.id_ne_empty
  options_ne_nil := by simpa using h.options_ne_nil
  optionId_ne_empty := by
    intro option hoption
    obtain ⟨original, horiginal, rfl⟩ := List.mem_map.mp hoption
    rw [hf]
    exact h.optionId_ne_empty original horiginal
  optionIds_nodup := by
    have hids : StageOption.id ∘ f = StageOption.id := funext hf
    rw [Stage.options_mapOptions, List.map_map, hids]
    exact h.optionIds_nodup

/-! ## Options -/

theorem StageOption.id_ne_empty_of_schema {v : Json} {option : StageOption}
    (h : StageOption.schema v = .accepted option) : option.id ≠ "" := by
  obtain ⟨fields, -, hid, -⟩ := StageOption.schema_eq_accepted.mp h
  obtain ⟨w, -, hw⟩ := required_eq_accepted.mp hid
  exact (nonemptyText_eq_accepted.mp hw).2

/-- The options that a schema accepts have names, all different, and there is at least one. -/
theorem ChoiceSet.wellFormed_of_schema {v : Json} {choices : ChoiceSet}
    (h : ChoiceSet.schema v = .accepted choices) :
    choices.options ≠ [] ∧ (∀ option ∈ choices.options, option.id ≠ "")
      ∧ (choices.options.map StageOption.id).Nodup := by
  obtain ⟨fields, -, hoptions, -, -, hnodup⟩ := ChoiceSet.schema_eq_accepted.mp h
  obtain ⟨w, -, hw⟩ := required_eq_accepted.mp hoptions
  obtain ⟨hlength, items, -, hitems⟩ := listOfAtLeast_eq_accepted.mp hw
  refine ⟨List.ne_nil_of_length_pos hlength, ?_, hnodup⟩
  intro option hoption
  obtain ⟨item, -, hitem⟩ := exists_item_of_forall₂ hitems hoption
  exact StageOption.id_ne_empty_of_schema hitem

/-! ## Stages -/

theorem Stage.wellFormed_of_ofFields {fields : Fields} {stage : Stage}
    (h : Stage.ofFields fields = .accepted stage) : stage.WellFormed := by
  obtain ⟨hid, -, -, -, hinteraction, -⟩ := Stage.ofFields_eq_accepted.mp h
  -- the id, and the options two objects deeper
  obtain ⟨idField, -, hidField⟩ := required_eq_accepted.mp hid
  obtain ⟨v, -, hv⟩ := required_eq_accepted.mp hinteraction
  obtain ⟨interactionFields, -, -, hconfig⟩ := Interaction.schema_eq_accepted.mp hv
  obtain ⟨w, -, hchoices⟩ := required_eq_accepted.mp hconfig
  obtain ⟨hne, hids, hnodup⟩ := ChoiceSet.wellFormed_of_schema hchoices
  exact ⟨(nonemptyText_eq_accepted.mp hidField).2, hne, hids, hnodup⟩

theorem Stage.wellFormed_of_schema {v : Json} {stage : Stage}
    (h : Stage.schema v = .accepted stage) : stage.WellFormed := by
  obtain ⟨fields, -, hfields⟩ := Stage.schema_eq_accepted.mp h
  exact Stage.wellFormed_of_ofFields hfields

theorem DeclarativeStage.wellFormed_of_schema {v : Json} {stage : DeclarativeStage}
    (h : DeclarativeStage.schema v = .accepted stage) : stage.toStage.WellFormed := by
  obtain ⟨fields, -, hfields, -⟩ := DeclarativeStage.schema_eq_accepted.mp h
  exact Stage.wellFormed_of_ofFields hfields

/-- A rule that is accepted with its stage is well-formed. -/
theorem DeclarativeStage.rule_wellFormed_of_schema {v : Json} {stage : DeclarativeStage}
    (h : DeclarativeStage.schema v = .accepted stage) {rule : UnlockRule}
    (hrule : rule ∈ stage.unlock) : rule.WellFormed := by
  obtain ⟨fields, -, -, hunlock⟩ := DeclarativeStage.schema_eq_accepted.mp h
  rw [Option.mem_def.mp hrule] at hunlock
  rcases optional_eq_accepted.mp hunlock with ⟨-, hnone⟩ | ⟨w, -, hw⟩
  · cases hnone
  · obtain ⟨_, -, -, -, hwell⟩ := UnlockRule.schema_eq_accepted.mp (nullable_eq_some hw)
    exact hwell

/-! ## Documents -/

/-- The stages of an accepted document with unlock rules are well-formed. -/
theorem DeclarativeDocument.wellFormed_of_schema {raw : Json} {document : DeclarativeDocument}
    (h : DeclarativeDocument.schema raw = .accepted document) :
    WellFormedStages (document.stages.map fun stage => stage.toStage) := by
  obtain ⟨fields, -, -, -, -, -, hstages, hnodup⟩ := DeclarativeDocument.schema_eq_accepted.mp h
  obtain ⟨w, -, hw⟩ := required_eq_accepted.mp hstages
  obtain ⟨hlength, items, -, hitems⟩ := listOfAtLeast_eq_accepted.mp hw
  refine ⟨by simpa using List.ne_nil_of_length_pos hlength, ?_, ?_⟩
  · rw [List.map_map]
    exact hnodup
  · intro stage hstage
    obtain ⟨declared, hdeclared, rfl⟩ := List.mem_map.mp hstage
    obtain ⟨item, -, hitem⟩ := exists_item_of_forall₂ hitems hdeclared
    exact DeclarativeStage.wellFormed_of_schema hitem

/-- So are the rules of its stages. -/
theorem DeclarativeDocument.rules_wellFormed_of_schema {raw : Json} {document : DeclarativeDocument}
    (h : DeclarativeDocument.schema raw = .accepted document) :
    ∀ stage ∈ document.stages, ∀ rule ∈ stage.unlock, rule.WellFormed := by
  obtain ⟨fields, -, -, -, -, -, hstages, -⟩ := DeclarativeDocument.schema_eq_accepted.mp h
  obtain ⟨w, -, hw⟩ := required_eq_accepted.mp hstages
  obtain ⟨-, items, -, hitems⟩ := listOfAtLeast_eq_accepted.mp hw
  intro stage hstage rule hrule
  obtain ⟨item, -, hitem⟩ := exists_item_of_forall₂ hitems hstage
  exact DeclarativeStage.rule_wellFormed_of_schema hitem hrule

/-- The stages of an accepted document with explicit actions are well-formed. -/
theorem BranchingDocument.wellFormed_of_schema {raw : Json} {document : BranchingDocument}
    (h : BranchingDocument.schema raw = .accepted document) :
    WellFormedStages document.stages := by
  obtain ⟨fields, -, -, -, -, hstages, hnodup⟩ := BranchingDocument.schema_eq_accepted.mp h
  obtain ⟨w, -, hw⟩ := required_eq_accepted.mp hstages
  obtain ⟨hlength, items, -, hitems⟩ := listOfAtLeast_eq_accepted.mp hw
  refine ⟨List.ne_nil_of_length_pos hlength, hnodup, ?_⟩
  intro stage hstage
  obtain ⟨item, -, hitem⟩ := exists_item_of_forall₂ hitems hstage
  exact Stage.wellFormed_of_schema hitem

end AdaptiveQuiz
