import AdaptiveQuiz.Proofs.Flow.EdgeResolution
import AdaptiveQuiz.Proofs.Flow.Reachability
import Mathlib.Data.List.Chain

/-!
# The search comes to an end

`reachableFrom` makes a number of steps that is fixed beforehand. Here the search goes on for as
long as its queue holds something, and a record is kept of the ids that were taken from the queue
and of those that entered it. What entered is what was found, and nothing is found twice, so this
cannot go on for longer than the fixed number of steps. The search ends by itself, with the same
result, and the number of steps only serves to write it down.

Nothing is asked of the map: stages may move to themselves, in circles, several times to the same
stage or to nowhere, and the entry may be no stage. The result is said in terms of the options
alone: chains of ids each of which has an option that goes or branches to the next.

## Main definitions

* `StageMap.Moves`, `StageMap.Connects`: chains of moves between stages
* `Search.Course`: a search under way, with its record

## Main statements

* `StageMap.leads_iff_connects`
* `Search.Course.explored`, `Search.Course.entered_eq`: the invariant along a course
* `Search.Course.run`, `Search.Course.exists_run_eq`: courses and numbers of steps
* `search_exact`
* `Detour.maze_searched`: a search through stages with moves of all these kinds
-/

namespace AdaptiveQuiz

/-! ## Chains of moves -/

namespace StageMap

variable {map : StageMap} {entry middle source target id : String}

/-- An option of the stage under the first id goes or branches to the second id. -/
def Moves (map : StageMap) (source target : String) : Prop :=
  ∃ stage, map.get? source = some stage ∧ ∃ option ∈ stage.options,
    option.next = some (.goto target) ∨ option.next = some (.branch target)

/-- A finite chain of moves from one id to another, through stages of the map. -/
def Connects (map : StageMap) (entry id : String) : Prop :=
  ∃ between : List String, (∀ via ∈ between, map.has via = true)
    ∧ (entry :: (between ++ [id])).IsChain map.Moves

theorem edge_iff : map.Edge source target ↔ map.Moves source target ∧ map.has target = true := by
  simp only [Edge, Moves, Stage.mem_targets]
  constructor
  · rintro ⟨stage, hget, hmoves, hhas⟩
    exact ⟨⟨stage, hget, hmoves⟩, hhas⟩
  · rintro ⟨⟨stage, hget, hmoves⟩, hhas⟩
    exact ⟨stage, hget, hmoves, hhas⟩

theorem Connects.single (h : map.Moves entry id) : map.Connects entry id :=
  ⟨[], by simp, by simpa using h⟩

theorem Connects.tail (h : map.Connects entry middle) (hmiddle : map.has middle = true)
    (hmoves : map.Moves middle id) : map.Connects entry id := by
  obtain ⟨between, hbetween, hchain⟩ := h
  refine ⟨between ++ [middle], ?_, ?_⟩
  · intro via hvia
    rcases List.mem_append.mp hvia with hvia | hvia
    · exact hbetween via hvia
    · rw [List.mem_singleton.mp hvia]
      exact hmiddle
  · have hlast : [middle, id].IsChain map.Moves := List.isChain_pair.mpr hmoves
    have hlonger : ((entry :: between) ++ middle :: [id]).IsChain map.Moves :=
      List.isChain_split.mpr ⟨hchain, hlast⟩
    simpa using hlonger

/-- On a chain that stays within the map every move is an edge. -/
theorem Connects.leads (h : map.Connects entry id) (hid : map.has id = true) :
    map.Leads entry id := by
  obtain ⟨between, hbetween, hchain⟩ := h
  induction between generalizing entry with
  | nil =>
    have hmoves : map.Moves entry id := by simpa using hchain
    exact Relation.ReflTransGen.single (edge_iff.mpr ⟨hmoves, hid⟩)
  | cons via rest ih =>
    rw [List.cons_append, List.isChain_cons_cons] at hchain
    have hedge : map.Edge entry via :=
      edge_iff.mpr ⟨hchain.1, hbetween via (List.mem_cons_self ..)⟩
    have hrest : map.Leads via id :=
      ih (fun other hother => hbetween other (List.mem_cons_of_mem _ hother)) hchain.2
    exact hrest.head hedge

/-- Edges lead to where the search starts and to the stages that chains of moves connect to it. -/
theorem leads_iff_connects :
    map.Leads entry id ↔ id = entry ∨ (map.has id = true ∧ map.Connects entry id) := by
  constructor
  · intro hleads
    induction hleads with
    | refl => exact Or.inl rfl
    | tail _ hedge ih =>
      obtain ⟨hmoves, hhas⟩ := edge_iff.mp hedge
      refine Or.inr ⟨hhas, ?_⟩
      rcases ih with rfl | ⟨hmiddle, hconnects⟩
      · exact Connects.single hmoves
      · exact hconnects.tail hmiddle hmoves
  · rintro (rfl | ⟨hhas, hconnects⟩)
    · exact Relation.ReflTransGen.refl
    · exact hconnects.leads hhas

end StageMap

namespace Search

variable {map : StageMap} {entry : String} {taken entered : List String} {search : Search}

/-! ## Courses -/

/-- A search that has come some way from an entry, with the ids that were taken from the queue on
the way and those that entered it, both in order. It goes on as long as there is something in the
queue. -/
inductive Course (map : StageMap) (entry : String) :
    List String → List String → Search → Prop where
  /-- The entry enters first. -/
  | start : Course map entry [] [entry] (Search.start entry)
  /-- The first id in the queue is taken, and new ones enter behind the others. -/
  | step {taken entered rest new : List String} {id : String} {search : Search} :
      Course map entry taken entered search →
      search.queue = id :: rest →
      (search.step map).queue = rest ++ new →
      Course map entry (taken ++ [id]) (entered ++ new) (search.step map)

/-- What is taken is dealt with. -/
theorem Course.explored (h : Course map entry taken entered search) :
    Explored map entry taken search := by
  induction h with
  | start => exact Explored.start map entry
  | step _ hqueue _ ih => exact ih.step hqueue

/-- What enters is what is found. -/
theorem Course.entered_eq (h : Course map entry taken entered search) :
    entered = search.found := by
  induction h with
  | start => rfl
  | @step taken entered rest new id search hearlier hqueue hnew ih =>
    -- what was found is what was taken followed by the queue, before the step and after it
    have hbefore := hearlier.explored
    calc entered ++ new
        = taken ++ search.queue ++ new := by rw [ih, hbefore.found_eq]
      _ = taken ++ [id] ++ (search.step map).queue := by simp [hqueue, hnew]
      _ = (search.step map).found := (hbefore.step hqueue).found_eq.symm

theorem Course.entered_nodup (h : Course map entry taken entered search) : entered.Nodup := by
  rw [h.entered_eq]
  exact h.explored.nodup

/-- What was taken is a part of what was found, which is the entry and stages of the map. -/
theorem Course.length_taken_le (h : Course map entry taken entered search) :
    taken.length ≤ map.length + 1 := by
  have hfound := h.explored.length_found_le
  rw [h.explored.found_eq, List.length_append] at hfound
  omega

/-! ## Courses and numbers of steps -/

/-- Any number of steps continues a course, until the queue is empty. -/
theorem Course.run (h : Course map entry taken entered search) (steps : Nat) :
    ∃ taken' entered', Course map entry taken' entered' (search.run map steps) := by
  induction steps generalizing taken entered search with
  | zero => exact ⟨taken, entered, h⟩
  | succ steps ih =>
    cases hqueue : search.queue with
    | nil =>
      rw [run_of_queue_eq_nil map _ search hqueue]
      exact ⟨taken, entered, h⟩
    | cons id rest =>
      obtain ⟨new, hstep, -⟩ := exists_step map h.explored.nodup hqueue
      have hnew : (search.step map).queue = rest ++ new := by rw [hstep]
      exact ih (h.step hqueue hnew)

theorem queue_run_eq_nil (map : StageMap) (entry : String) :
    ((Search.start entry).run map (map.length + 1)).queue = [] := by
  have hfound := (Explored.of_reachableFrom map entry).found_eq
  exact List.append_right_eq_self.mp hfound.symm

/-- Wherever a course has come to, some more steps lead to where the fixed number of steps does. -/
theorem Course.exists_run_eq (h : Course map entry taken entered search) :
    ∃ steps, search.run map steps = (Search.start entry).run map (map.length + 1) := by
  induction h with
  | start => exact ⟨map.length + 1, rfl⟩
  | @step taken entered rest new id search _ hqueue _ ih =>
    obtain ⟨steps, hsteps⟩ := ih
    cases steps with
    | zero =>
      -- the search would have ended before this step
      have hnil : search.queue = [] := by
        have hsearch : search = (Search.start entry).run map (map.length + 1) := hsteps
        rw [hsearch]
        exact queue_run_eq_nil map entry
      rw [hqueue] at hnil
      cases hnil
    | succ steps => exact ⟨steps, hsteps⟩

/-- With an empty queue, the result has been found. -/
theorem Course.found_eq (h : Course map entry taken entered search) (hqueue : search.queue = []) :
    search.found = reachableFrom map entry := by
  obtain ⟨steps, hsteps⟩ := h.exists_run_eq
  rw [run_of_queue_eq_nil map steps search hqueue] at hsteps
  rw [hsteps, reachableFrom]

/-- There is a course to the end. -/
theorem exists_course (map : StageMap) (entry : String) :
    ∃ taken entered final, Course map entry taken entered final ∧ final.queue = [] := by
  have hstart : Course map entry [] [entry] (Search.start entry) := Course.start
  obtain ⟨taken, entered, hcourse⟩ := hstart.run (map.length + 1)
  exact ⟨taken, entered, _, hcourse, queue_run_eq_nil map entry⟩

end Search

/-- From any entry on any map the search comes to an end. On its way it takes at most one id from
the queue for every stage of the map, and one more, and no id enters the queue twice. Once the queue
is empty it has found the result, which is the entry and those stages of the map that a finite chain
of moves through stages of the map connects to it. -/
theorem search_exact (map : StageMap) (entry : String) :
    (∃ taken entered final, Search.Course map entry taken entered final ∧ final.queue = [])
    ∧ (∀ taken entered search, Search.Course map entry taken entered search →
      taken.length ≤ map.length + 1
      ∧ entered.Nodup
      ∧ (search.queue = [] → search.found = reachableFrom map entry))
    ∧ ∀ id, id ∈ reachableFrom map entry
      ↔ id = entry ∨ (map.has id = true ∧ map.Connects entry id) := by
  refine ⟨Search.exists_course map entry, ?_, ?_⟩
  · intro taken entered search hcourse
    exact ⟨hcourse.length_taken_le, hcourse.entered_nodup, hcourse.found_eq⟩
  · intro id
    rw [mem_reachableFrom, StageMap.leads_iff_connects]

namespace Detour

/-- Stages with a move to itself, two moves to the same stage, a move to nowhere, a cycle, and a
stage that nothing leads to. -/
def maze : StageMap := StageMap.ofStages [
  stage "ASK" [{ plain "a" with next := some (.branch "ASK") },
    { plain "b" with next := some (.goto "TRY") }, { plain "c" with next := some (.branch "TRY") },
    { plain "d" with next := some (.goto "GONE") }] none,
  stage "TRY" [{ plain "a" with next := some (.goto "LAST") },
    { plain "b" with next := some (.goto "ASK") }] none,
  stage "LAST" [{ plain "a" with next := some (.exit none) }, plain "b"] none,
  stage "APART" [{ plain "a" with next := some (.goto "ASK") }] none]

/-- The course of the search through the maze, step by step. -/
theorem course_maze : Search.Course maze "ASK" ["ASK", "TRY", "LAST"] ["ASK", "TRY", "LAST"]
    ⟨["ASK", "TRY", "LAST"], []⟩ := by
  have hqueue : (Search.start "ASK").queue = ["ASK"] := rfl
  have hfirst : Search.Course maze "ASK" ["ASK"] ["ASK", "TRY"] ⟨["ASK", "TRY"], ["TRY"]⟩ :=
    Search.Course.start.step hqueue (by decide)
  have hsecond : Search.Course maze "ASK" ["ASK", "TRY"] ["ASK", "TRY", "LAST"]
      ⟨["ASK", "TRY", "LAST"], ["LAST"]⟩ :=
    hfirst.step rfl (by decide)
  exact hsecond.step rfl (by decide)

/-- The search through the maze ends after three of the five steps that it might have taken. It has
found `LAST`, which is two moves away, and not `APART`, from where one only gets into the maze. -/
theorem maze_searched :
    Search.Course maze "ASK" ["ASK", "TRY", "LAST"] ["ASK", "TRY", "LAST"]
      ⟨["ASK", "TRY", "LAST"], []⟩
    ∧ ["ASK", "TRY", "LAST"].length ≤ maze.length + 1
    ∧ ["ASK", "TRY", "LAST"].Nodup
    ∧ reachableFrom maze "ASK" = ["ASK", "TRY", "LAST"]
    ∧ maze.Connects "ASK" "LAST"
    ∧ ¬ maze.Connects "ASK" "APART" := by
  obtain ⟨-, hcourses, hresult⟩ := search_exact maze "ASK"
  obtain ⟨hbound, hnodup, hend⟩ := hcourses _ _ _ course_maze
  have hfound : reachableFrom maze "ASK" = ["ASK", "TRY", "LAST"] := (hend rfl).symm
  refine ⟨course_maze, hbound, hnodup, hfound, ?_, ?_⟩
  · have hmem : "LAST" ∈ reachableFrom maze "ASK" := by simp [hfound]
    rcases (hresult "LAST").mp hmem with heq | ⟨-, hconnects⟩
    · exact absurd heq (by decide)
    · exact hconnects
  · intro hconnects
    have hhas : maze.has "APART" = true := by decide
    have hmem : "APART" ∈ reachableFrom maze "ASK" :=
      (hresult "APART").mpr (Or.inr ⟨hhas, hconnects⟩)
    rw [hfound] at hmem
    exact absurd hmem (by decide)

end Detour

end AdaptiveQuiz
