import AdaptiveQuiz.Proofs.Catalog.Lookup
import AdaptiveQuiz.Proofs.Flow.Coherence
import Mathlib.Data.List.Find

/-!
# The order of stages

Rules are attached in the order of the document, and stages are looked up by going through them, but
as long as no two rules compete the order makes no difference. A stage is found wherever it stands,
as ids differ, and so is the one rule that claims an option. So every option has the same resolution,
and the edges are the same. What is said about the entry, the rules, the targets and reachability is
then said about the same stages in another order; only the message about an ambiguous entry also
lists its candidates in the order of the document.

## Main definitions

* `Finding.sorted`: a finding without the order of what it lists

## Main statements

* `Stage.resolved_of_perm`: the same resolution
* `ruleFinding?_of_perm`, `leads_of_perm`: the same to say about every rule, the same reachability
* `DeclarativeDocument.order_immaterial`
-/

namespace AdaptiveQuiz

/-! ## Look-ups -/

/-- Where ids differ, a stage is found in any order. -/
theorem stage?_of_perm {stages stages' : List Stage} (hperm : stages'.Perm stages)
    (hnodup : (stages'.map Stage.id).Nodup) (id : String) : stage? stages' id = stage? stages id := by
  apply List.find?_eq_find?_of_perm hperm
  rintro stage ⟨hstage, hid⟩ other ⟨hother, hid'⟩
  apply eq_of_id_eq hnodup hstage hother
  rw [beq_iff_eq.mp hid, beq_iff_eq.mp hid']

section

variable {declared declared' : List DeclarativeStage}

theorem RulesDiffer.of_perm (h : RulesDiffer declared) (hperm : declared'.Perm declared) :
    RulesDiffer declared' := by
  intro stage hstage other hother
  exact h stage (hperm.subset hstage) other (hperm.subset hother)

/-- Where no rules compete, the one that claims an option is found in any order. -/
theorem claimant?_of_perm (hperm : declared'.Perm declared) (hrules : RulesDiffer declared)
    (trigger : Trigger) (parent : String) :
    claimant? declared' trigger parent = claimant? declared trigger parent := by
  unfold claimant?
  rw [List.find?_eq_find?_of_perm hperm]
  rintro rule ⟨hrule, hunlock⟩ other ⟨hother, hunlock'⟩
  apply hrules.eq_of_unlock (hperm.subset hother) (hperm.subset hrule)
  · exact beq_iff_eq.mp hunlock'
  · exact beq_iff_eq.mp hunlock

/-! ## Resolved stages -/

/-- Where no rules compete, an option has the same resolution in any order. -/
theorem resolution_of_perm (hperm : declared'.Perm declared) (hrules : RulesDiffer declared)
    (parent : Stage) (option : StageOption) :
    resolution declared' parent option = resolution declared parent option := by
  simp only [resolution, claimant?_of_perm hperm hrules]

theorem Stage.resolved_of_perm (hperm : declared'.Perm declared) (hrules : RulesDiffer declared)
    (stage : Stage) : stage.resolved declared' = stage.resolved declared := by
  apply mapOptions_congr
  intro option _
  simp only [StageOption.resolved, resolution_of_perm hperm hrules]

/-! ## The entry -/

/-- The finding, with what it lists in alphabetical order. -/
def Finding.sorted : Finding → Finding
  | .ambiguousEntryStage candidates => .ambiguousEntryStage (Registry.sortTexts candidates)
  | finding => finding

theorem Finding.isError_sorted (finding : Finding) : finding.sorted.isError = finding.isError := by
  cases finding <;> rfl

theorem unconditionalIds_perm (hperm : declared'.Perm declared) :
    (unconditionalIds declared').Perm (unconditionalIds declared) :=
  (hperm.filter _).map _

/-- The same is wrong with the choice of the entry, up to the order of the candidates. -/
theorem entryFindings_of_perm (hperm : declared'.Perm declared) :
    (entryFindings declared').map Finding.sorted = (entryFindings declared).map Finding.sorted := by
  have hids := unconditionalIds_perm hperm
  have hnil : unconditionalIds declared' = [] ↔ unconditionalIds declared = [] := by
    rw [← List.length_eq_zero_iff, ← List.length_eq_zero_iff, hids.length_eq]
  unfold entryFindings
  simp only [hnil, hids.length_eq]
  split
  · rfl
  · split
    · rfl
    · simp only [List.map_singleton, Finding.sorted, Registry.sortTexts_eq_of_perm hids]

/-! ## Rules -/

/-- Where no rules compete, there is the same to say about a rule in any order. -/
theorem ruleFinding?_of_perm (hperm : declared'.Perm declared) (hrules : RulesDiffer declared)
    (hnodup : (declared.map fun stage => stage.id).Nodup) {target : DeclarativeStage}
    (htarget : target ∈ declared) :
    ruleFinding? declared' target = ruleFinding? declared target := by
  have hparent : ∀ id, stage? (declared'.map fun stage => stage.toStage) id
      = stage? (declared.map fun stage => stage.toStage) id := by
    apply stage?_of_perm (hperm.map _)
    rw [List.map_map]
    exact (hperm.map _).nodup_iff.mpr hnodup
  cases hunlock : target.unlock with
  | none => simp only [ruleFinding?, hunlock]
  | some rule =>
    cases rule with
    | always parent => simp only [ruleFinding?, hunlock]
    | after trigger parentId =>
      -- no stage before the target has its condition, in either order
      have hbefore := hrules.not_before htarget hunlock
      have hbefore' := (hrules.of_perm hperm).not_before (hperm.symm.subset htarget) hunlock
      simp only [ruleFinding?, hunlock, hparent, hbefore, hbefore']

theorem ruleFindings_perm (hperm : declared'.Perm declared) (hrules : RulesDiffer declared)
    (hnodup : (declared.map fun stage => stage.id).Nodup) :
    (declared'.filterMap (ruleFinding? declared')).Perm
      (declared.filterMap (ruleFinding? declared)) := by
  have hsame : declared'.filterMap (ruleFinding? declared')
      = declared'.filterMap (ruleFinding? declared) := by
    apply List.filterMap_congr
    intro target htarget
    exact ruleFinding?_of_perm hperm hrules hnodup (hperm.subset htarget)
  rw [hsame]
  exact hperm.filterMap _

/-! ## Targets and reachability -/

theorem targetFindings_perm {stages stages' : List Stage} (hperm : stages'.Perm stages) :
    (targetFindings stages').Perm (targetFindings stages) := by
  have hids : ∀ id, id ∈ stages'.map Stage.id ↔ id ∈ stages.map Stage.id :=
    fun id => (hperm.map _).mem_iff
  unfold targetFindings targetFinding?
  simp only [hids]
  exact hperm.flatMap_right _

/-- Where ids differ, the same stages are reached in any order. -/
theorem leads_of_perm {stages stages' : List Stage} (hperm : stages'.Perm stages)
    (hnodup : (stages'.map Stage.id).Nodup) (entry id : String) :
    (StageMap.ofStages stages').Leads entry id ↔ (StageMap.ofStages stages).Leads entry id := by
  have hedge : (StageMap.ofStages stages').Edge = (StageMap.ofStages stages).Edge := by
    funext source target
    rw [eq_iff_iff, StageMap.edge_ofStages, StageMap.edge_ofStages]
    simp only [stage?_of_perm hperm hnodup, (hperm.map _).mem_iff]
  rw [StageMap.Leads, StageMap.Leads, hedge]

theorem unreachableFindings_perm (hperm : declared'.Perm declared) (hrules : RulesDiffer declared)
    (hnodup : (declared.map fun stage => stage.id).Nodup) (entry : String) :
    (unreachableFindings declared' entry).Perm (unreachableFindings declared entry) := by
  have hresolved : ∀ stage : Stage, stage.resolved declared' = stage.resolved declared :=
    Stage.resolved_of_perm hperm hrules
  have hleads : ∀ id, (StageMap.ofStages (declared'.map fun stage =>
        stage.toStage.resolved declared)).Leads entry id
      ↔ (StageMap.ofStages (declared.map fun stage =>
        stage.toStage.resolved declared)).Leads entry id := by
    intro id
    apply leads_of_perm (hperm.map _)
    rw [List.map_map]
    exact (hperm.map _).nodup_iff.mpr hnodup
  have hdangling : ∀ stage : DeclarativeStage,
      stage.isDangling (declared'.map fun stage => stage.id)
        = stage.isDangling (declared.map fun stage => stage.id) := by
    intro stage
    unfold DeclarativeStage.isDangling
    split
    · rw [(hperm.map _).contains_eq]
    · rfl
  simp only [unreachableFindings, hresolved, hleads, hdangling]
  exact (hperm.filter _).map _

end

/-! ## Documents -/

namespace DeclarativeDocument

variable {document : DeclarativeDocument} {stages : List DeclarativeStage}

/-- The document with other stages. -/
def withStages (document : DeclarativeDocument) (stages : List DeclarativeStage) :
    DeclarativeDocument :=
  { document with stages := stages }

/-- The same is found about the stages in any order. -/
theorem findings_perm {raw raw' : Json}
    (h : DeclarativeDocument.schema raw = .accepted document)
    (h' : DeclarativeDocument.schema raw' = .accepted (document.withStages stages))
    (hperm : stages.Perm document.stages) (hrules : RulesDiffer document.stages) :
    ((document.withStages stages).compile.findings.map Finding.sorted).Perm
      (document.compile.findings.map Finding.sorted) := by
  have hnodup := ids_nodup (wellFormed_of_schema h)
  have hids := unconditionalIds_perm hperm
  rw [compile_findings h, compile_findings h']
  simp only [withStages, List.map_append, entryFindings_of_perm hperm]
  refine ((List.Perm.append_left _ ?_).append ?_).append ?_
  · exact (ruleFindings_perm hperm hrules hnodup).map _
  · exact (targetFindings_perm (hperm.map _)).map _
  · -- there is one entry in both orders, or in none
    cases hentries : unconditionalIds document.stages with
    | nil =>
      rw [hentries] at hids
      rw [hids.eq_nil]
    | cons entry rest =>
      rw [hentries] at hids
      cases rest with
      | nil =>
        rw [List.perm_singleton.mp hids]
        exact (unreachableFindings_perm hperm hrules hnodup entry).map _
      | cons second rest =>
        have hlength := hids.length_eq
        split
        · next hentries' => simp [hentries'] at hlength
        · rfl

/-- Sorting what they list leaves errors errors. -/
theorem errors_perm {findings findings' : List Finding}
    (h : (findings'.map Finding.sorted).Perm (findings.map Finding.sorted)) :
    ((Finding.errors findings').map Finding.sorted).Perm
      ((Finding.errors findings).map Finding.sorted) := by
  have herrors : ∀ findings : List Finding, (Finding.errors findings).map Finding.sorted
      = (findings.map Finding.sorted).filter Finding.isError := by
    intro findings
    rw [Finding.errors, List.filter_map]
    simp only [Function.comp_def, Finding.isError_sorted]
  rw [herrors, herrors]
  exact h.filter _

/-- Whether there is a flow is a matter of errors. -/
theorem isSome_iff_errors :
    document.compile.flow.isSome = true ↔ Finding.errors document.compile.findings = [] := by
  rw [Option.isSome_iff_ne_none, Ne, compile_flow_eq_none, Finding.errors, List.filter_eq_nil_iff]
  push Not
  rfl

/-- As long as no rules compete, the order of the stages makes no difference. A document compiles if
and only if it does so with its stages in another order. The flows have the same entry and the same
names, and the stages of either are those of its document, in their order, with the same resolution.
Everything is found as often, errors and warnings alike, apart from the order of the candidates for
the entry. -/
theorem order_immaterial {raw raw' : Json} (h : DeclarativeDocument.schema raw = .accepted document)
    (h' : DeclarativeDocument.schema raw' = .accepted (document.withStages stages))
    (hperm : stages.Perm document.stages) (hrules : RulesDiffer document.stages) :
    ((document.withStages stages).compile.flow.isSome = true
        ↔ document.compile.flow.isSome = true)
    ∧ (∀ flow flow', document.compile.flow = some flow →
        (document.withStages stages).compile.flow = some flow' →
        flow'.entry = flow.entry ∧ flow'.itemId = flow.itemId ∧ flow'.atomId = flow.atomId
          ∧ flow.stages = document.stages.map (fun stage => stage.toStage.resolved document.stages)
          ∧ flow'.stages = stages.map (fun stage => stage.toStage.resolved document.stages))
    ∧ ((document.withStages stages).compile.findings.map Finding.sorted).Perm
        (document.compile.findings.map Finding.sorted)
    ∧ ((Finding.errors (document.withStages stages).compile.findings).map Finding.sorted).Perm
        ((Finding.errors document.compile.findings).map Finding.sorted) := by
  have hstages := wellFormed_of_schema h
  have hstages' := wellFormed_of_schema h'
  have hfindings := findings_perm h h' hperm hrules
  have herrors := errors_perm hfindings
  refine ⟨?_, ?_, hfindings, herrors⟩
  · have hlength := herrors.length_eq
    rw [List.length_map, List.length_map] at hlength
    rw [isSome_iff_errors, isSome_iff_errors, ← List.length_eq_zero_iff, ← List.length_eq_zero_iff,
      hlength]
  · intro flow flow' hflow hflow'
    obtain ⟨hentry, hparts⟩ := flow_eq_of_compile hflow
    obtain ⟨hentry', hparts'⟩ := flow_eq_of_compile hflow'
    have hsame : flow'.entry = flow.entry := by
      have hids : (unconditionalIds stages).Perm (unconditionalIds document.stages) :=
        unconditionalIds_perm hperm
      rw [entryOf_eq_ok.mp hentry, show unconditionalIds stages = [flow'.entry] from
        entryOf_eq_ok.mp hentry', List.perm_singleton] at hids
      exact List.singleton_injective hids
    rw [settled_eq_resolved hstages] at hparts
    rw [settled_eq_resolved hstages'] at hparts'
    have hresolved : ∀ stage : Stage, stage.resolved stages = stage.resolved document.stages :=
      Stage.resolved_of_perm hperm hrules
    rw [hparts, hparts']
    simp only [withStages, hresolved, hsame, and_self]

end DeclarativeDocument

namespace Detour

/-- With the stages in reverse order, the question with two stages that wait has its flow in reverse
order. -/
theorem twins_reversed : ∃ flow flow', (twins .attemptsExceeded).compile.flow = some flow
    ∧ ((twins .attemptsExceeded).withStages (twins .attemptsExceeded).stages.reverse).compile.flow
      = some flow'
    ∧ flow'.entry = flow.entry ∧ flow'.stages = flow.stages.reverse := by
  have hreversed : DeclarativeDocument.schema
      (rawStages (rawTwinStages "after_stage_attempts_exceeded").reverse) = .accepted
        ((twins .attemptsExceeded).withStages (twins .attemptsExceeded).stages.reverse) := by decide
  obtain ⟨hcompiles, hflows, -⟩ := DeclarativeDocument.order_immaterial schema_rawTwins hreversed
    (List.reverse_perm _) (by decide)
  have hsome : (twins .attemptsExceeded).compile.flow.isSome = true := by decide
  obtain ⟨flow, hflow⟩ := Option.isSome_iff_exists.mp hsome
  obtain ⟨flow', hflow'⟩ := Option.isSome_iff_exists.mp (hcompiles.mpr hsome)
  obtain ⟨hentry, -, -, hstages, hstages'⟩ := hflows flow flow' hflow hflow'
  refine ⟨flow, flow', hflow, hflow', hentry, ?_⟩
  rw [hstages, hstages', List.map_reverse]

end Detour

end AdaptiveQuiz
