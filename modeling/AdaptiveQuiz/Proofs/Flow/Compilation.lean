import AdaptiveQuiz.Flow.Compiler
import AdaptiveQuiz.Proofs.Document.WellFormed
import AdaptiveQuiz.Proofs.Flow.Wiring

/-!
# What a compilation yields

Both kinds of documents end in the same checks on settled stages. Here those checks are turned into
conditions: a flow comes out exactly if nothing among the findings is an error, and then it consists
of the settled stages.

## Main definitions

* `DeclarativeDocument.authored`, `DeclarativeDocument.wiring`, `DeclarativeDocument.settled`: the
  stages of a document with unlock rules on their way to a flow
* `BranchingDocument.settled`: those of a document with explicit actions

## Main statements

* `finish_flow_eq_some`, `finish_flow_eq_none`: when there is a flow
-/

namespace AdaptiveQuiz

theorem Compilation.unwrap_eq_ok {compilation : Compilation} {flow : Flow} :
    compilation.unwrap = .ok flow ↔ compilation.flow = some flow := by
  unfold unwrap
  cases compilation.flow with
  | none => simp
  | some flow => simp

/-! ## The last checks -/

/-- There is a flow if the entry is known and no finding is an error; it has the settled stages. -/
theorem finish_flow_eq_some {itemId atomId : Option String} {entry : Except Finding String}
    {stages : List Stage} {findings : List Finding} {reported : List String} {flow : Flow} :
    (finish itemId atomId entry stages findings reported).flow = some flow
      ↔ entry = .ok flow.entry ∧ flow = ⟨itemId, atomId, flow.entry, stages⟩
        ∧ ∀ finding ∈ findings ++ unknownTargets stages ++ unreachable flow.entry stages reported,
            finding.isError = false := by
  cases entry with
  | error finding => simp [finish]
  | ok id =>
    simp only [finish, Except.ok.injEq]
    split
    · next herror =>
      -- an error among the findings rules both sides out
      obtain ⟨finding, hmem, hfinding⟩ := List.any_eq_true.mp herror
      refine ⟨nofun, ?_⟩
      rintro ⟨rfl, -, hclean⟩
      rw [hclean finding hmem] at hfinding
      cases hfinding
    · next hclean =>
      have hclean' : ∀ finding ∈ findings ++ unknownTargets stages
          ++ unreachable id stages reported, finding.isError = false := by
        intro finding hmem
        exact Bool.eq_false_iff.mpr fun herror => hclean (List.any_eq_true.mpr ⟨_, hmem, herror⟩)
      constructor
      · intro hflow
        cases hflow
        exact ⟨rfl, rfl, hclean'⟩
      · rintro ⟨rfl, hflow, -⟩
        rw [← hflow]

/-- There is no flow exactly if an error is among the findings. -/
theorem finish_flow_eq_none {itemId atomId : Option String} {entry : Except Finding String}
    {stages : List Stage} {findings : List Finding} {reported : List String}
    (hentry : ∀ finding, entry = .error finding → finding.isError = true) :
    (finish itemId atomId entry stages findings reported).flow = none
      ↔ ∃ finding ∈ (finish itemId atomId entry stages findings reported).findings,
          finding.isError = true := by
  cases entry with
  | error finding => simpa [finish] using Or.inl (hentry finding rfl)
  | ok id =>
    simp only [finish]
    split
    · next herror => simpa using List.any_eq_true.mp herror
    · next hclean =>
      refine ⟨nofun, ?_⟩
      rintro ⟨finding, hmem, herror⟩
      exact absurd (List.any_eq_true.mpr ⟨finding, hmem, herror⟩) hclean

/-- Without an entry nothing can be said about reachability. -/
theorem finish_findings_error (itemId atomId : Option String) (finding : Finding)
    (stages : List Stage) (findings : List Finding) (reported : List String) :
    (finish itemId atomId (.error finding) stages findings reported).findings
      = finding :: findings ++ unknownTargets stages := rfl

theorem finish_findings_ok (itemId atomId : Option String) (entry : String)
    (stages : List Stage) (findings : List Finding) (reported : List String) :
    (finish itemId atomId (.ok entry) stages findings reported).findings
      = findings ++ unknownTargets stages ++ unreachable entry stages reported := by
  simp only [finish]
  split <;> rfl

/-! ## Checks that find nothing -/

/-- No target is unknown if and only if every target is a stage. -/
theorem unknownTargets_eq_nil {stages : List Stage} :
    unknownTargets stages = []
      ↔ ∀ stage ∈ stages, ∀ target ∈ stage.targets, target ∈ stages.map Stage.id := by
  have htarget : ∀ target, (stage? stages target).isNone = true ↔ target ∉ stages.map Stage.id :=
    fun target => Option.isNone_iff_eq_none.trans stage?_eq_none
  simp only [unknownTargets, List.flatMap_eq_nil_iff, List.map_eq_nil_iff,
    List.filter_eq_nil_iff, htarget, not_not]

theorem isError_of_mem_unknownTargets {stages : List Stage} {finding : Finding}
    (h : finding ∈ unknownTargets stages) : finding.isError = true := by
  obtain ⟨stage, _, hfinding⟩ := List.mem_flatMap.mp h
  obtain ⟨target, _, rfl⟩ := List.mem_map.mp hfinding
  rfl

theorem isError_of_mem_unreachable {entry : String} {stages : List Stage} {reported : List String}
    {finding : Finding} (h : finding ∈ unreachable entry stages reported) :
    finding.isError = true := by
  obtain ⟨stage, _, rfl⟩ := List.mem_map.mp h
  rfl

/-- Findings that are errors by their kind are all absent if no finding is an error. -/
theorem eq_nil_of_isError {findings : List Finding}
    (herror : ∀ finding ∈ findings, finding.isError = true)
    (hclean : ∀ finding ∈ findings, finding.isError = false) : findings = [] := by
  refine List.eq_nil_iff_forall_not_mem.mpr fun finding hmem => ?_
  have hfalse := hclean finding hmem
  rw [herror finding hmem] at hfalse
  cases hfalse

/-! ## Documents with unlock rules -/

/-- The entry of a document is one of its stages. -/
theorem mem_of_entryOf_eq_ok {declared : List DeclarativeStage} {entry : String}
    (h : entryOf declared = .ok entry) : entry ∈ declared.map fun stage => stage.id := by
  unfold entryOf at h
  split at h
  · cases h
  · next hcandidates =>
    cases h
    have hmem : entry ∈ (declared.filter DeclarativeStage.isUnconditional).map
        fun stage => stage.id := by simp [hcandidates]
    obtain ⟨stage, hstage, hid⟩ := List.mem_map.mp hmem
    exact List.mem_map.mpr ⟨stage, (List.mem_filter.mp hstage).1, hid⟩
  · cases h

theorem isError_of_entryOf_eq_error {declared : List DeclarativeStage} {finding : Finding}
    (h : entryOf declared = .error finding) : finding.isError = true := by
  unfold entryOf at h
  split at h <;> cases h <;> rfl

namespace DeclarativeDocument

variable (document : DeclarativeDocument)

/-- The stages as authored, without their unlock rules. -/
def authored : List Stage := document.stages.map fun stage => stage.toStage

/-- The stages with all rules attached, and what was found meanwhile. -/
def wiring : Wiring :=
  Wiring.ofDeclared document.stages (document.authored.map Stage.markExplicit)

/-- The stages with an action on every option. -/
def settled : List Stage := document.wiring.stages.map Stage.settle

theorem compile_eq_finish :
    document.compile = finish document.itemId document.atomId (entryOf document.stages)
      document.settled document.wiring.findings document.wiring.dangling := by
  simp [compile, settled, wiring, authored, Function.comp_def]

theorem ids_authored :
    document.authored.map Stage.id = document.stages.map fun stage => stage.id := by
  rw [authored, List.map_map]
  rfl

theorem ids_marked : (document.authored.map Stage.markExplicit).map Stage.id
    = document.authored.map Stage.id := by
  rw [List.map_map]
  rfl

variable {document}

/-- A flow has the entry of its document and consists of the settled stages. -/
theorem flow_eq_of_compile {flow : Flow} (h : document.compile.flow = some flow) :
    entryOf document.stages = .ok flow.entry
      ∧ flow = ⟨document.itemId, document.atomId, flow.entry, document.settled⟩ := by
  rw [compile_eq_finish] at h
  obtain ⟨hentry, hflow, -⟩ := finish_flow_eq_some.mp h
  exact ⟨hentry, hflow⟩

theorem ids_nodup (h : WellFormedStages document.authored) :
    (document.stages.map fun stage => stage.id).Nodup := by
  rw [← ids_authored]
  exact h.ids_nodup

/-- As ids differ, a stage is known by its id. -/
theorem stage_eq_of_id_eq (h : WellFormedStages document.authored) {stage other : DeclarativeStage}
    (hstage : stage ∈ document.stages) (hother : other ∈ document.stages)
    (hid : stage.id = other.id) : stage = other :=
  List.inj_on_of_nodup_map (ids_nodup h) hstage hother hid

theorem nodup_ids_marked (h : WellFormedStages document.authored) :
    ((document.authored.map Stage.markExplicit).map Stage.id).Nodup := by
  rw [ids_marked]
  exact h.ids_nodup

theorem wiring_stages (h : WellFormedStages document.authored) :
    document.wiring.stages
      = document.authored.map fun stage => stage.markExplicit.claimed document.stages := by
  rw [wiring, Wiring.ofDeclared, Wiring.stages_foldl_attach _ _ (nodup_ids_marked h), List.map_map]
  rfl

theorem wiring_dangling (h : WellFormedStages document.authored) :
    document.wiring.dangling = (document.stages.filter
      (DeclarativeStage.isDangling (document.stages.map fun stage => stage.id))).map
        fun stage => stage.id := by
  rw [wiring, Wiring.ofDeclared, Wiring.dangling_foldl_attach _ _ (nodup_ids_marked h)]
  simp only [ids_marked, ids_authored, List.nil_append]

theorem ids_settled (h : WellFormedStages document.authored) :
    document.settled.map Stage.id = document.stages.map fun stage => stage.id := by
  rw [settled, wiring_stages h, List.map_map, List.map_map, ← ids_authored]
  rfl

/-- A flow has the stages of its document, in their order. -/
theorem stageIds_of_compile {flow : Flow} (h : WellFormedStages document.authored)
    (hflow : document.compile.flow = some flow) :
    flow.stageIds = document.stages.map fun stage => stage.id := by
  rw [(flow_eq_of_compile hflow).2]
  exact ids_settled h

end DeclarativeDocument

/-! ## Documents with explicit actions -/

namespace BranchingDocument

variable (document : BranchingDocument)

/-- The entry that a document names, if it is a stage. -/
def entryOf : Except Finding String :=
  if (stage? document.stages document.settings.entry).isSome then .ok document.settings.entry
  else .error (.unknownEntryStage document.settings.entry)

/-- The stages with an action on every option. -/
def settled : List Stage := document.stages.map fun stage => stage.markExplicit.settle

theorem compile_eq_finish :
    document.compile
      = finish document.itemId document.atomId document.entryOf document.settled [] [] := rfl

theorem ids_settled : document.settled.map Stage.id = document.stages.map Stage.id := by
  rw [settled, List.map_map]
  rfl

variable {document}

/-- A flow has the entry of its document and consists of the settled stages. -/
theorem flow_eq_of_compile {flow : Flow} (h : document.compile.flow = some flow) :
    document.entryOf = .ok flow.entry
      ∧ flow = ⟨document.itemId, document.atomId, flow.entry, document.settled⟩ := by
  rw [compile_eq_finish] at h
  obtain ⟨hentry, hflow, -⟩ := finish_flow_eq_some.mp h
  exact ⟨hentry, hflow⟩

/-- The entry of a document is one of its stages. -/
theorem mem_of_entryOf_eq_ok {entry : String} (h : document.entryOf = .ok entry) :
    entry ∈ document.stages.map Stage.id := by
  unfold entryOf at h
  split at h
  · next hsome =>
    cases h
    exact stage?_isSome.mp hsome
  · cases h

theorem isError_of_entryOf_eq_error {finding : Finding} (h : document.entryOf = .error finding) :
    finding.isError = true := by
  unfold entryOf at h
  split at h
  · cases h
  · cases h
    rfl

end BranchingDocument

end AdaptiveQuiz
