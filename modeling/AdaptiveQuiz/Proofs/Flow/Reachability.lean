import AdaptiveQuiz.Flow.Reachability
import Mathlib.Logic.Relation

/-!
# Exactness of the search

The search is tied to a relation that knows of no queue and no number of steps: an id is found if
and only if a chain of edges leads to it. The invariant splits what was found into the ids whose
edges were followed and the ids that still wait. As no id is found twice, the first part cannot
outgrow the map, and so the queue is empty in the end.

## Main definitions

* `StageMap.Edge`, `StageMap.Leads`: edges between the stages of a map, and chains of them
* `Search.Explored`: the invariant of the search

## Main statements

* `Search.exists_step`: all that a step does
* `Search.Explored.step`, `Search.Explored.run`: the invariant is kept
* `mem_reachableFrom`: the search finds exactly what chains of edges lead to
-/

namespace AdaptiveQuiz

theorem Action.target?_eq_some {action : Action} {target : String} :
    action.target? = some target ↔ action = .goto target ∨ action = .branch target := by
  cases action with
  | goto other => simp [target?]
  | branch other => simp [target?]
  | loop => simp [target?]
  | exit outcome => simp [target?]

theorem Stage.mem_targets {stage : Stage} {target : String} :
    target ∈ stage.targets ↔ ∃ option ∈ stage.options,
      option.next = some (.goto target) ∨ option.next = some (.branch target) := by
  simp only [targets, List.mem_filterMap, Option.bind_eq_some_iff, Action.target?_eq_some]
  constructor
  · rintro ⟨option, hoption, action, hnext, rfl | rfl⟩
    · exact ⟨option, hoption, Or.inl hnext⟩
    · exact ⟨option, hoption, Or.inr hnext⟩
  · rintro ⟨option, hoption, hnext | hnext⟩
    · exact ⟨option, hoption, .goto target, hnext, Or.inl rfl⟩
    · exact ⟨option, hoption, .branch target, hnext, Or.inr rfl⟩

namespace StageMap

/-- An option of the stage under the first id moves to the second id, under which there is a stage
as well. -/
def Edge (map : StageMap) (source target : String) : Prop :=
  ∃ stage, map.get? source = some stage ∧ target ∈ stage.targets ∧ map.has target = true

/-- A chain of edges leads from one id to another. -/
def Leads (map : StageMap) : String → String → Prop := Relation.ReflTransGen map.Edge

theorem mem_keys_of_has {map : StageMap} {id : String} (h : map.has id = true) :
    id ∈ map.map Prod.fst := by
  induction map with
  | nil => simp [has, get?] at h
  | cons entry rest ih =>
    by_cases heq : id = entry.1
    · simp [heq]
    · have hrest : StageMap.has rest id = true := by
        simpa [has, get?, List.lookup_cons, heq] using h
      simpa using Or.inr (by simpa using ih hrest)

/-- The stage under an id is the first one that has it. -/
theorem get?_ofStages (stages : List Stage) (id : String) :
    (ofStages stages).get? id = stage? stages id := by
  induction stages with
  | nil => rfl
  | cons first rest ih =>
    rw [ofStages, List.map_cons, get?, List.lookup_cons, stage?, List.find?_cons, BEq.comm]
    cases first.id == id with
    | true => rfl
    | false => exact ih

end StageMap

namespace Search

variable {map : StageMap} {entry : String} {done : List String} {search : Search}

/-! ## Following the edges of one stage -/

/-- Recording targets appends the same new ids to what was found and to the queue: each of them is
a target and a stage, none was found before, and no stage among the targets is missed. -/
theorem foldl_discover (map : StageMap) (targets : List String) (search : Search)
    (hnodup : search.found.Nodup) :
    ∃ new, targets.foldl (discover map) search = ⟨search.found ++ new, search.queue ++ new⟩
      ∧ (search.found ++ new).Nodup
      ∧ (∀ id ∈ new, id ∈ targets ∧ map.has id = true)
      ∧ ∀ id ∈ targets, map.has id = true → id ∈ search.found ++ new := by
  induction targets generalizing search with
  | nil => exact ⟨[], by simp, by simpa using hnodup, by simp, by simp⟩
  | cons target rest ih =>
    by_cases hfresh : map.has target = true ∧ target ∉ search.found
    · -- a new stage: it goes to both ends, and the rest goes on from there
      have hstep : discover map search target
          = ⟨search.found ++ [target], search.queue ++ [target]⟩ := by
        simp [discover, hfresh.1, hfresh.2]
      have hnodup' : (search.found ++ [target]).Nodup :=
        List.nodup_append.mpr ⟨hnodup, by simp, by
          rintro a ha b hb rfl
          exact hfresh.2 (List.mem_singleton.mp hb ▸ ha)⟩
      obtain ⟨new, hfold, hnew, hsub, hall⟩ :=
        ih ⟨search.found ++ [target], search.queue ++ [target]⟩ hnodup'
      refine ⟨target :: new, ?_, by simpa using hnew, ?_, ?_⟩
      · rw [List.foldl_cons, hstep, hfold]
        simp
      · intro id hid
        rcases List.mem_cons.mp hid with rfl | hid
        · exact ⟨List.mem_cons_self .., hfresh.1⟩
        · exact ⟨List.mem_cons_of_mem _ (hsub id hid).1, (hsub id hid).2⟩
      · intro id hid hhas
        rcases List.mem_cons.mp hid with rfl | hid
        · simp
        · simpa using hall id hid hhas
    · -- nothing to record: the target is no stage, or it was found before
      have hstep : discover map search target = search := by
        unfold discover
        rw [if_neg]
        simpa using hfresh
      obtain ⟨new, hfold, hnew, hsub, hall⟩ := ih search hnodup
      refine ⟨new, by rw [List.foldl_cons, hstep, hfold], hnew, ?_, ?_⟩
      · intro id hid
        exact ⟨List.mem_cons_of_mem _ (hsub id hid).1, (hsub id hid).2⟩
      · intro id hid hhas
        rcases List.mem_cons.mp hid with rfl | hid
        · have hfound : id ∈ search.found :=
            Decidable.byContradiction fun hnot => hfresh ⟨hhas, hnot⟩
          exact List.mem_append_left _ hfound
        · exact hall id hid hhas

/-- A step takes the first id from the queue and appends the same new ids to what was found and to
the queue. Each of them is at the end of an edge, none was found before, and no edge is missed. -/
theorem exists_step (map : StageMap) {id : String} {rest : List String}
    (hnodup : search.found.Nodup) (hqueue : search.queue = id :: rest) :
    ∃ new, search.step map = ⟨search.found ++ new, rest ++ new⟩
      ∧ (search.found ++ new).Nodup
      ∧ (∀ target ∈ new, map.Edge id target)
      ∧ ∀ target, map.Edge id target → target ∈ search.found ++ new := by
  cases hget : map.get? id with
  | none =>
    -- an entry that is no stage has no edges
    have hnone : ∀ target, ¬ map.Edge id target := by
      rintro target ⟨stage, hstage, -⟩
      rw [hget] at hstage
      cases hstage
    refine ⟨[], by simp [step, hqueue, hget], by simpa using hnodup, by simp, ?_⟩
    intro target hedge
    exact absurd hedge (hnone target)
  | some stage =>
    obtain ⟨new, hfold, hnew, hsub, hall⟩ :=
      foldl_discover map stage.targets ⟨search.found, rest⟩ hnodup
    refine ⟨new, by simp [step, hqueue, hget, hfold], hnew, ?_, ?_⟩
    · intro target htarget
      exact ⟨stage, hget, hsub target htarget⟩
    · rintro target ⟨stage', hstage', hmem, hhas⟩
      rw [hget] at hstage'
      cases hstage'
      exact hall target hmem hhas

/-! ## The invariant -/

/-- What holds while the search is under way: what was found is what is done followed by the queue,
without repetition; all of it is connected to the entry; and the edges of what is done lead to
nothing that is not found. -/
structure Explored (map : StageMap) (entry : String) (done : List String) (search : Search) :
    Prop where
  found_eq : search.found = done ++ search.queue
  nodup : search.found.Nodup
  entry_mem : entry ∈ search.found
  leads : ∀ id ∈ search.found, map.Leads entry id
  known : ∀ id ∈ search.found, id = entry ∨ map.has id = true
  closed : ∀ id ∈ done, ∀ target, map.Edge id target → target ∈ search.found

theorem Explored.start (map : StageMap) (entry : String) :
    Explored map entry [] (Search.start entry) where
  found_eq := rfl
  nodup := by simp [Search.start]
  entry_mem := by simp [Search.start]
  leads := by
    intro id hid
    rw [List.mem_singleton.mp hid]
    exact Relation.ReflTransGen.refl
  known := fun id hid => Or.inl (List.mem_singleton.mp hid)
  closed := fun id hid => absurd hid (List.not_mem_nil)

/-- A step moves the first id of the queue to what is done. -/
theorem Explored.step {id : String} {rest : List String} (h : Explored map entry done search)
    (hqueue : search.queue = id :: rest) :
    Explored map entry (done ++ [id]) (search.step map) := by
  have hfound : search.found = done ++ [id] ++ rest := by
    rw [h.found_eq, hqueue]
    simp
  have hid : id ∈ search.found := by
    rw [hfound]
    simp
  obtain ⟨new, hstep, hnew, hedges, hall⟩ := exists_step map h.nodup hqueue
  rw [hstep]
  refine ⟨by simp [hfound], hnew, List.mem_append_left _ h.entry_mem, ?_, ?_, ?_⟩
  · intro target htarget
    rcases List.mem_append.mp htarget with htarget | htarget
    · exact h.leads target htarget
    · exact (h.leads id hid).tail (hedges target htarget)
  · intro target htarget
    rcases List.mem_append.mp htarget with htarget | htarget
    · exact h.known target htarget
    · obtain ⟨_, _, _, hhas⟩ := hedges target htarget
      exact Or.inr hhas
  · intro source hsource target hedge
    rcases List.mem_append.mp hsource with hsource | hsource
    · exact List.mem_append_left _ (h.closed source hsource target hedge)
    · rw [List.mem_singleton.mp hsource] at hedge
      exact hall target hedge

/-- Every id but the entry is a key of the map, and none is found twice. -/
theorem Explored.length_found_le (h : Explored map entry done search) :
    search.found.length ≤ map.length + 1 := by
  have hsub : search.found ⊆ entry :: map.map Prod.fst := by
    intro id hid
    rcases h.known id hid with rfl | hhas
    · exact List.mem_cons_self ..
    · exact List.mem_cons_of_mem _ (StageMap.mem_keys_of_has hhas)
  simpa using List.Nodup.length_le_of_subset h.nodup hsub

theorem run_of_queue_eq_nil (map : StageMap) (steps : Nat) (search : Search)
    (h : search.queue = []) : search.run map steps = search := by
  induction steps with
  | zero => rfl
  | succ steps ih =>
    have hstep : search.step map = search := by simp [Search.step, h]
    rw [run, hstep, ih]

/-- A number of steps either empties the queue or deals with as many ids. -/
theorem Explored.run (h : Explored map entry done search) (steps : Nat) :
    ∃ done', Explored map entry done' (search.run map steps)
      ∧ ((search.run map steps).queue = [] ∨ done'.length = done.length + steps) := by
  induction steps generalizing done search with
  | zero => exact ⟨done, h, Or.inr rfl⟩
  | succ steps ih =>
    cases hqueue : search.queue with
    | nil =>
      rw [run_of_queue_eq_nil map _ search hqueue]
      exact ⟨done, h, Or.inl hqueue⟩
    | cons id rest =>
      obtain ⟨done', hdone', hend⟩ := ih (h.step hqueue)
      refine ⟨done', hdone', hend.imp_right ?_⟩
      intro hlength
      rw [hlength, List.length_append, List.length_singleton]
      omega

/-- One step for every stage, and one more, is enough. -/
theorem Explored.of_reachableFrom (map : StageMap) (entry : String) :
    Explored map entry (reachableFrom map entry)
      ((Search.start entry).run map (map.length + 1)) := by
  obtain ⟨done, hdone, hend⟩ := (Explored.start map entry).run (map.length + 1)
  have hempty : ((Search.start entry).run map (map.length + 1)).queue = [] := by
    rcases hend with hempty | hlength
    · exact hempty
    · -- all that can be found is done, so nothing is left for the queue
      have hle := hdone.length_found_le
      rw [hdone.found_eq, List.length_append, hlength, List.length_nil] at hle
      apply List.eq_nil_of_length_eq_zero
      omega
  have hfound : reachableFrom map entry = done := by
    rw [reachableFrom, hdone.found_eq, hempty, List.append_nil]
  rw [hfound]
  exact hdone

end Search

/-- The search finds exactly the ids that a chain of edges leads to. -/
theorem mem_reachableFrom {map : StageMap} {entry id : String} :
    id ∈ reachableFrom map entry ↔ map.Leads entry id := by
  have hexplored := Search.Explored.of_reachableFrom map entry
  constructor
  · exact hexplored.leads id
  · intro hleads
    induction hleads with
    | refl => exact hexplored.entry_mem
    | tail _ hedge ih => exact hexplored.closed _ ih _ hedge

instance (map : StageMap) (entry id : String) : Decidable (map.Leads entry id) :=
  decidable_of_iff _ mem_reachableFrom

theorem contains_reachableFrom (map : StageMap) (entry id : String) :
    (reachableFrom map entry).contains id = decide (map.Leads entry id) := by
  rw [Bool.eq_iff_iff, List.contains_iff_mem, mem_reachableFrom, decide_eq_true_iff]

end AdaptiveQuiz
