import AdaptiveQuiz.Migration.Unrolled
import AdaptiveQuiz.Proofs.Document.Review
import AdaptiveQuiz.Proofs.Document.RoundTrip
import AdaptiveQuiz.Proofs.Flow.Soundness

/-!
# Recompilation

A compiled flow can be written down as a branching document. The document is accepted, and compiling
it gives the same flow, with nothing to report: a sound flow leaves no pass of the compiler anything
to do. Hence a document with unlock rules can be migrated exactly if it compiles, and the migration
keeps its flow.

## Main definitions

* `Flow.toDocument`: a flow as the branching document that is read back from its JSON value

## Main statements

* `Flow.Sound.compile_toDocument`: a sound flow is compiled to itself
* `Flow.schema_toBranchingJson`: what is written down of a flow is read back
* `DeclarativeDocument.unroll_eq_ok`: when a document is migrated
-/

namespace AdaptiveQuiz

open Schema

/-- A flow as a branching document. -/
def Flow.toDocument (flow : Flow) (returnBehavior : Option ReturnBehavior) : BranchingDocument :=
  ⟨flow.itemId, flow.atomId, ⟨flow.entry, returnBehavior⟩, flow.stages⟩

/-! ## Nothing left to do -/

theorem StageOption.Settled.resolved_eq_self {option : StageOption} (h : option.Settled)
    (declared : List DeclarativeStage) (stage : Stage) :
    option.resolved declared stage = option := by
  obtain ⟨⟨action, hnext, hne⟩, hsource⟩ := h
  obtain ⟨source, hsource⟩ := Option.isSome_iff_exists.mp hsource
  -- the action is complete, and its source is noted
  have hcompleted : action.completed (stage.isCorrect option) = action := by
    unfold Action.completed
    split
    · exact absurd rfl hne
    · rfl
  rw [resolved, resolution_of_next hnext, hcompleted, hsource, Option.getD_some, ← hnext, ← hsource]

theorem finish_of_clean {itemId atomId : Option String} {entry : String} {stages : List Stage}
    (htargets : unknownTargets stages = []) (hunreachable : unreachable entry stages [] = []) :
    finish itemId atomId (.ok entry) stages [] [] = ⟨some ⟨itemId, atomId, entry, stages⟩, []⟩ := by
  simp [finish, htargets, hunreachable]

namespace Flow.Sound

variable {flow : Flow}

/-- The passes over the options change none of them. -/
theorem settled_toDocument (h : flow.Sound) (returnBehavior : Option ReturnBehavior) :
    (flow.toDocument returnBehavior).settled = flow.stages := by
  -- without rules the passes only mark, complete and fill in what is missing
  rw [BranchingDocument.settled_eq_resolved]
  refine (List.map_congr_left fun stage hstage => ?_).trans (List.map_id _)
  exact Stage.mapOptions_eq_self fun option hoption =>
    (h.settled stage hstage option hoption).resolved_eq_self [] stage

theorem entryOf_toDocument (h : flow.Sound) (returnBehavior : Option ReturnBehavior) :
    (flow.toDocument returnBehavior).entryOf = .ok flow.entry := by
  have hsome : (AdaptiveQuiz.stage? flow.stages flow.entry).isSome = true := by
    rw [Option.isSome_iff_ne_none, Ne, stage?_eq_none, not_not]
    exact h.entry_mem
  exact if_pos hsome

/-- Compiling a sound flow gives the flow back and reports nothing. -/
theorem compile_toDocument (h : flow.Sound) (returnBehavior : Option ReturnBehavior) :
    (flow.toDocument returnBehavior).compile = ⟨some flow, []⟩ := by
  have htargets : unknownTargets flow.stages = [] := unknownTargets_eq_nil.mpr h.targets_mem
  have hunreachable : unreachable flow.entry flow.stages [] = [] := unreachable_eq_nil.mpr h.leads
  rw [BranchingDocument.compile_eq_finish, h.entryOf_toDocument, h.settled_toDocument]
  exact finish_of_clean htargets hunreachable

end Flow.Sound

/-! ## Compiled stages are well-formed -/

theorem WellFormedStages.resolved {stages : List Stage} (h : WellFormedStages stages)
    (declared : List DeclarativeStage) :
    WellFormedStages (stages.map (Stage.resolved declared)) where
  ne_nil := by simpa using h.ne_nil
  ids_nodup := by
    rw [List.map_map]
    exact h.ids_nodup
  wellFormed := by
    intro stage hstage
    obtain ⟨original, horiginal, rfl⟩ := List.mem_map.mp hstage
    -- resolving an option keeps its id
    exact (h.wellFormed original horiginal).mapOptions fun _ => rfl

theorem DeclarativeDocument.wellFormed_of_compile {document : DeclarativeDocument} {flow : Flow}
    (h : WellFormedStages document.authored) (hflow : document.compile.flow = some flow) :
    WellFormedStages flow.stages := by
  obtain ⟨-, hflow⟩ := flow_eq_of_compile hflow
  have hstages : flow.stages = document.authored.map (Stage.resolved document.stages) := by
    rw [hflow, authored, List.map_map]
    exact settled_eq_resolved h
  rw [hstages]
  exact h.resolved document.stages

theorem BranchingDocument.wellFormed_of_compile {document : BranchingDocument} {flow : Flow}
    (h : WellFormedStages document.stages) (hflow : document.compile.flow = some flow) :
    WellFormedStages flow.stages := by
  obtain ⟨-, hflow⟩ := flow_eq_of_compile hflow
  have hstages : flow.stages = document.stages.map (Stage.resolved []) := by
    rw [hflow]
    exact settled_eq_resolved
  rw [hstages]
  exact h.resolved []

/-! ## Writing down and reading back -/

/-- What is written down of a flow with well-formed stages is accepted and read back. -/
theorem Flow.schema_toBranchingJson {flow : Flow} (h : WellFormedStages flow.stages)
    (returnBehavior : Option ReturnBehavior) :
    BranchingDocument.schema (flow.toBranchingJson returnBehavior)
      = .accepted (flow.toDocument returnBehavior) := by
  have hstages := h.recovers.accepted .compact
  rw [Dump.value_array, List.map_map] at hstages
  -- the document itself keeps its null fields; only the stages lose theirs
  exact BranchingDocument.schema_eq_accepted.mpr ⟨_, rfl,
    (dumped_self _).optionalText_eq rfl,
    (dumped_self _).optionalText_eq rfl,
    (dumped_self _).required_eq rfl (FlowSettings.recovers _),
    required_eq_accepted.mpr ⟨_, rfl, hstages⟩,
    h.ids_nodup⟩

/-- A sound flow with well-formed stages survives being written down, reviewed and compiled. -/
theorem Flow.Sound.recompile {flow : Flow} (h : flow.Sound) (hstages : WellFormedStages flow.stages)
    (returnBehavior : Option ReturnBehavior) :
    ∃ document, (BranchingDocument.review (flow.toBranchingJson returnBehavior)).document
        = some document ∧ document.compile = ⟨some flow, []⟩ :=
  ⟨flow.toDocument returnBehavior,
    BranchingDocument.review_document_eq_some.mpr
      (flow.schema_toBranchingJson hstages returnBehavior),
    h.compile_toDocument returnBehavior⟩

/-! ## Migration -/

/-- A document is migrated exactly if it is accepted and compiles, and then its flow is written
down. -/
theorem DeclarativeDocument.unroll_eq_ok {raw data : Json} {notices : List Notice} :
    DeclarativeDocument.unroll raw = .ok (data, notices)
      ↔ ∃ document flow, DeclarativeDocument.schema raw = .accepted document
        ∧ document.compile.flow = some flow
        ∧ data = flow.toBranchingJson (some .reloadWithNewVars)
        ∧ notices = [.converted flow.itemId] := by
  simp only [← review_document_eq_some, ← Verdict.unwrap_eq_ok, ← Compilation.unwrap_eq_ok]
  unfold unroll
  cases (DeclarativeDocument.review raw).unwrap with
  | error remarks => simp
  | ok document =>
    cases hcompile : document.compile.unwrap with
    | error findings => simp [hcompile]
    | ok flow => simp [hcompile, eq_comm]

/-- Migration and recompilation keep the flow. A raw document is migrated exactly if it is accepted
and compiles; the document that it is migrated to is accepted and compiles to the same flow. The
same holds of whatever is compiled from explicit actions and written down again. -/
theorem migration_preserves_flow :
    (∀ raw, (∃ data notices, DeclarativeDocument.unroll raw = .ok (data, notices))
      ↔ ∃ document flow, DeclarativeDocument.schema raw = .accepted document
        ∧ document.compile.flow = some flow)
    ∧ (∀ raw data notices, DeclarativeDocument.unroll raw = .ok (data, notices) →
      ∃ document flow migrated, DeclarativeDocument.schema raw = .accepted document
        ∧ document.compile.flow = some flow
        ∧ (BranchingDocument.review data).document = some migrated
        ∧ migrated.compile = ⟨some flow, []⟩)
    ∧ ∀ raw document flow returnBehavior, BranchingDocument.schema raw = .accepted document →
      document.compile.flow = some flow →
      ∃ emitted, (BranchingDocument.review (flow.toBranchingJson returnBehavior)).document
          = some emitted
        ∧ emitted.compile = ⟨some flow, []⟩ := by
  refine ⟨fun raw => ⟨?_, ?_⟩, ?_, ?_⟩
  · rintro ⟨data, notices, hunroll⟩
    obtain ⟨document, flow, haccepted, hflow, -⟩ := DeclarativeDocument.unroll_eq_ok.mp hunroll
    exact ⟨document, flow, haccepted, hflow⟩
  · rintro ⟨document, flow, haccepted, hflow⟩
    exact ⟨_, _, DeclarativeDocument.unroll_eq_ok.mpr ⟨document, flow, haccepted, hflow, rfl, rfl⟩⟩
  · intro raw data notices hunroll
    obtain ⟨document, flow, haccepted, hflow, rfl, -⟩ := DeclarativeDocument.unroll_eq_ok.mp hunroll
    have hstages := DeclarativeDocument.wellFormed_of_schema haccepted
    have hsound : flow.Sound := DeclarativeDocument.sound_of_compile hstages hflow
    obtain ⟨migrated, hreview, hcompile⟩ := hsound.recompile
      (DeclarativeDocument.wellFormed_of_compile hstages hflow) (some .reloadWithNewVars)
    exact ⟨document, flow, migrated, haccepted, hflow, hreview, hcompile⟩
  · intro raw document flow returnBehavior haccepted hflow
    have hstages := BranchingDocument.wellFormed_of_schema haccepted
    have hsound : flow.Sound := BranchingDocument.sound_of_compile hstages hflow
    exact hsound.recompile (BranchingDocument.wellFormed_of_compile hstages hflow) returnBehavior

namespace Detour

/-- The question with a detour is migrated and the question with a cycle is written down again, each
with the flow that it had. -/
theorem flow_preserved :
    (∃ data notices migrated, DeclarativeDocument.unroll raw = .ok (data, notices)
      ∧ (BranchingDocument.review data).document = some migrated
      ∧ migrated.compile = ⟨document.compile.flow, []⟩)
    ∧ ∃ flow emitted, cycle.compile.flow = some flow
      ∧ (BranchingDocument.review (flow.toBranchingJson none)).document = some emitted
      ∧ emitted.compile = ⟨some flow, []⟩ := by
  constructor
  · have hsome : document.compile.flow.isSome = true := by decide
    obtain ⟨flow, hflow⟩ := Option.isSome_iff_exists.mp hsome
    obtain ⟨data, notices, hunroll⟩ :=
      (migration_preserves_flow.1 raw).mpr ⟨document, flow, schema_raw, hflow⟩
    obtain ⟨document', flow', migrated, haccepted, hflow', hreview, hcompile⟩ :=
      migration_preserves_flow.2.1 raw data notices hunroll
    rw [schema_raw] at haccepted
    cases haccepted
    exact ⟨data, notices, migrated, hunroll, hreview, hflow' ▸ hcompile⟩
  · have hsome : cycle.compile.flow.isSome = true := by decide
    obtain ⟨flow, hflow⟩ := Option.isSome_iff_exists.mp hsome
    obtain ⟨emitted, hreview, hcompile⟩ :=
      migration_preserves_flow.2.2 rawCycle cycle flow none schema_rawCycle hflow
    exact ⟨flow, emitted, hflow, hreview, hcompile⟩

end Detour

end AdaptiveQuiz
