import AdaptiveQuiz.Proofs.Document.RoundTrip
import AdaptiveQuiz.Proofs.Session.StartFailure

/-!
# Single choice questions as flows of one stage

The flow of a single choice question is compiled from a branching document that is made for it, with
one stage that every choice leaves. What is promised about the choices of an accepted question is all
that the schema of branching documents asks of this stage, and nothing is found when the document is
compiled. The atom is the exception: metadata are free, and an atom of another kind than a text has
no place in the branching document.

## Main definitions

* `MultipleChoiceDocument.wrapped`: the branching document with a given atom
* `MultipleChoiceDocument.Presents`: a flow of one stage with the choices of a question

## Main statements

* `MultipleChoiceDocument.compile_wrapped`
* `MultipleChoiceDocument.executable_unless_misfits`
* `Detour.numbered_unwrapped`: a question that is accepted and does not become a flow
-/

namespace AdaptiveQuiz

open Schema

namespace MultipleChoiceDocument

variable {document : MultipleChoiceDocument}

/-! ## The stage -/

/-- The stage of a well-formed question is well-formed. -/
theorem WellFormed.stage (h : document.WellFormed) : document.stage.WellFormed where
  id_ne_empty := by
    show stageId ≠ ""
    decide
  options_ne_nil := by
    have hpos : 0 < document.choices.length := Nat.lt_of_lt_of_le Nat.zero_lt_two h.two_le_length
    exact List.ne_nil_of_length_pos (by simpa [MultipleChoiceDocument.stage, Stage.options])
  optionId_ne_empty := by
    intro option hoption
    obtain ⟨choice, hchoice, rfl⟩ := List.mem_map.mp hoption
    exact h.id_ne_empty choice hchoice
  optionIds_nodup := by
    show ((document.choices.map document.stageOption).map StageOption.id).Nodup
    rw [List.map_map]
    exact h.ids_nodup

/-- Every choice leaves the stage for good. -/
theorem next_of_mem_resolved {option : StageOption}
    (h : option ∈ (document.stage.resolved []).options) :
    option.next = some (.exit (some (if option.id = document.correctId then .pass else .fail))) := by
  obtain ⟨original, horiginal, rfl⟩ := List.mem_map.mp h
  obtain ⟨choice, -, rfl⟩ := List.mem_map.mp horiginal
  exact Session.next_single document choice

theorem targets_resolved : (document.stage.resolved []).targets = [] := by
  refine List.filterMap_eq_nil_iff.mpr fun option hoption => ?_
  rw [next_of_mem_resolved hoption]
  rfl

/-! ## The branching document -/

/-- The branching document of a question, with an atom. -/
def wrapped (document : MultipleChoiceDocument) (atomId : Option String) : BranchingDocument :=
  ⟨document.id, atomId, ⟨stageId, none⟩, [document.stage]⟩

theorem WellFormed.wrapped (h : document.WellFormed) (atomId : Option String) :
    WellFormedStages (document.wrapped atomId).stages where
  ne_nil := List.cons_ne_nil _ _
  ids_nodup := List.nodup_singleton _
  wellFormed _ hstage := List.mem_singleton.mp hstage ▸ h.stage

/-- The branching document compiles without a finding, whatever the choices are. -/
theorem compile_wrapped (document : MultipleChoiceDocument) (atomId : Option String) :
    (document.wrapped atomId).compile
      = ⟨some ⟨document.id, atomId, stageId, [document.stage.resolved []]⟩, []⟩ := by
  have hsettled : (document.wrapped atomId).settled = [document.stage.resolved []] :=
    BranchingDocument.settled_eq_resolved
  have hentry : (document.wrapped atomId).entryOf = .ok stageId := rfl
  have htargets : unknownTargets [document.stage.resolved []] = [] := by
    refine unknownTargets_eq_nil.mpr fun stage hstage target htarget => ?_
    rw [List.mem_singleton.mp hstage, targets_resolved] at htarget
    cases htarget
  have hreached : unreachable stageId [document.stage.resolved []] [] = [] := by
    -- the only stage is where the search starts
    refine unreachable_eq_nil.mpr fun stage hstage => ?_
    rw [List.mem_singleton.mp hstage]
    exact Relation.ReflTransGen.refl
  rw [BranchingDocument.compile_eq_finish, hsettled, hentry]
  simp only [finish, htargets, hreached, List.append_nil, List.any_nil, Bool.false_eq_true,
    if_false]
  rfl

/-! ## The atom -/

/-- An atom that fits is handed on. -/
theorem exists_toBranching (h : ¬ document.AtomMisfits) :
    ∃ atomId, document.toBranching = .accepted (document.wrapped atomId) := by
  obtain ⟨compilation, hcompilation⟩ := exists_compile_iff.mpr h
  unfold compile toBranching at hcompilation
  unfold toBranching
  cases hatom : document.atomId with
  | accepted atomId => exact ⟨atomId, rfl⟩
  | rejected first others =>
    rw [hatom] at hcompilation
    cases hcompilation

/-- An atom that misfits is the only thing that is wrong with the branching document. -/
theorem AtomMisfits.toBranching_eq (h : document.AtomMisfits) :
    document.toBranching
      = .rejected ⟨[.field "atom_id"], "Input should be a valid string"⟩ [] := by
  obtain ⟨value, hget, hvalue⟩ := h
  have hatom : document.atomId
      = .rejected ⟨[.field "atom_id"], "Input should be a valid string"⟩ [] := by
    simp only [atomId, optionalNullable, Schema.optional, hget]
    cases value with
    | null => exact absurd (Or.inl rfl) hvalue
    | text s => exact absurd (Or.inr ⟨s, rfl⟩) hvalue
    | bool b => rfl
    | integer n => rfl
    | number x => rfl
    | array vs => rfl
    | object fields => rfl
  rw [toBranching, hatom]
  rfl

/-! ## The flow -/

/-- The flow of a question: its one stage offers the choices in their order, and each of them exits,
the correct one with a pass and any other one with a fail. -/
structure Presents (flow : Flow) (document : MultipleChoiceDocument) : Prop where
  itemId_eq : flow.itemId = document.id
  entry_eq : flow.entry = stageId
  stages_eq : ∃ stage, flow.stages = [stage] ∧ stage.id = stageId
    ∧ stage.options.map (fun option => (option.id, option.text))
      = document.choices.map (fun choice => (choice.id, choice.text))
    ∧ ∀ option ∈ stage.options, option.next
      = some (.exit (some (if option.id = document.correctId then .pass else .fail)))

theorem presents_resolved (document : MultipleChoiceDocument) (atomId : Option String) :
    Presents ⟨document.id, atomId, stageId, [document.stage.resolved []]⟩ document where
  itemId_eq := rfl
  entry_eq := rfl
  stages_eq := by
    refine ⟨_, rfl, rfl, ?_, fun option => next_of_mem_resolved⟩
    show ((document.choices.map document.stageOption).map
      (StageOption.resolved [] document.stage)).map _ = _
    rw [List.map_map, List.map_map]
    rfl

/-- Every accepted single choice question has a flow, provided that its atom is a text if there is
one: the branching document that is made for it passes the schema of such documents, and compiles
without a finding into a flow of one stage that presents the question. Any other atom is rejected
where the branching document is made, with one issue. -/
theorem executable_unless_misfits {raw : Json} (h : schema raw = .accepted document) :
    (¬ document.AtomMisfits → ∃ branching flow, document.toBranching = .accepted branching
      ∧ BranchingDocument.schema branching.toJson = .accepted branching
      ∧ document.compile = .accepted ⟨some flow, []⟩ ∧ Presents flow document)
    ∧ (document.AtomMisfits → document.compile
      = .rejected ⟨[.field "atom_id"], "Input should be a valid string"⟩ []) := by
  have hwell : document.WellFormed := wellFormed_of_schema h
  constructor
  · intro hfits
    obtain ⟨atomId, hbranching⟩ := exists_toBranching hfits
    refine ⟨document.wrapped atomId, _, hbranching, ?_, ?_, document.presents_resolved atomId⟩
    · exact (BranchingDocument.recovers (hwell.wrapped atomId)).accepted .full
    · rw [compile, hbranching, ← compile_wrapped]
      rfl
  · intro hmisfits
    rw [compile, hmisfits.toBranching_eq]
    rfl

end MultipleChoiceDocument

namespace Detour

/-- The plain single choice question has a flow that starts on its only stage. -/
theorem choice_executable : ∃ flow, choice.compile = .accepted ⟨some flow, []⟩
    ∧ flow.stageIds = ["main"] := by
  have hread : MultipleChoiceDocument.schema rawChoice = .accepted choice := by decide
  have hfits : ¬ choice.AtomMisfits := by
    rintro ⟨value, hget, -⟩
    cases hget
  obtain ⟨_, flow, -, -, hcompile, hpresents⟩ :=
    (MultipleChoiceDocument.executable_unless_misfits hread).1 hfits
  obtain ⟨stage, hstages, hid, -⟩ := hpresents.stages_eq
  refine ⟨flow, hcompile, ?_⟩
  rw [Flow.stageIds, hstages, List.map_singleton, hid]
  rfl

/-- With a number for an atom, a question is accepted and does not become a flow. -/
theorem numbered_unwrapped : ¬ ∀ raw document, MultipleChoiceDocument.schema raw = .accepted document →
    ∃ compilation, document.compile = .accepted compilation := by
  intro hall
  have hread : MultipleChoiceDocument.schema (.object rawNumbered)
      = .accepted { choice with metadata := [("atom_id", .integer 7)] } := by decide
  obtain ⟨compilation, hcompile⟩ := hall _ _ hread
  cases hcompile

end Detour

end AdaptiveQuiz
