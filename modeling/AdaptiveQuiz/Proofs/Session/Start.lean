import AdaptiveQuiz.Proofs.Document.Review
import AdaptiveQuiz.Proofs.Except
import AdaptiveQuiz.Proofs.Flow.Traversal
import AdaptiveQuiz.Session.Start

/-!
# What a started session is

A session starts if each of five steps succeeds, and then it is at the start of a flow. Whatever the
type of the question, this flow came out of a compilation, so it is sound.

## Main definitions

* `Document.authored`, `Document.rules`: what a document of any kind brings to compilation
* `Session.Begins`: a session at the start of a flow, which listens to the host

## Main statements

* `Session.start?_eq_ok`, `Session.start?_eq_error`: when a session starts, and which one it is;
  when it does not, and in which way
* `Session.sound_of_flowFor`: the flow of a question is sound
* `Session.stages_of_flowFor`: the stages of a flow are those of the document, resolved
* `Session.exists_sound_of_start?`: a started session is at the start of a sound flow
-/

namespace AdaptiveQuiz

open Schema

namespace MultipleChoiceDocument

variable {document : MultipleChoiceDocument} {branching : BranchingDocument}

/-- A single choice question is a branching document of one stage. -/
theorem stages_of_toBranching (h : document.toBranching = .accepted branching) :
    branching.stages = [document.stage] := by
  obtain ⟨atomId, -, rfl⟩ := Checked.map_eq_accepted.mp h
  rfl

theorem sound_of_toBranching (h : document.toBranching = .accepted branching) {flow : Flow}
    (hflow : branching.compile.flow = some flow) : flow.Sound := by
  have hnodup : (branching.stages.map Stage.id).Nodup := by
    rw [stages_of_toBranching h]
    exact List.nodup_singleton _
  exact BranchingDocument.sound_of_nodup hnodup hflow

end MultipleChoiceDocument

namespace Document

/-- The stages of a document before compilation. -/
def authored : Document → List Stage
  | .multipleChoice document => [document.stage]
  | .branching document => document.stages
  | .declarative document => document.authored

/-- The stages of a document with the rules that unlock them, if it has rules. -/
def rules : Document → List DeclarativeStage
  | .multipleChoice _ => []
  | .branching _ => []
  | .declarative document => document.stages

end Document

namespace Session

variable {settings : Settings} {shared : Registry} {given : Option Registry}
  {options : SessionOptions} {question : Json} {manifest : Manifest} {document : Document}
  {flow : Flow} {session : Session}

/-! ## The steps of a start -/

theorem documentFor_eq_ok : documentFor manifest question = .ok document
    ↔ (Document.review manifest.documentKind question).document = some document := by
  rw [documentFor, except_mapError_eq_ok, Verdict.unwrap_eq_ok]

theorem flowFor_eq_ok : flowFor manifest document = .ok flow
    ↔ ∃ compilation, manifest.buildFlow document = .ok compilation
      ∧ compilation.flow = some flow := by
  simp only [flowFor, except_bind_eq_ok, except_mapError_eq_ok, Compilation.unwrap_eq_ok]

/-- A session is prepared if the question has a manifest, a document and a flow that can be
traversed. -/
theorem prepare?_eq_ok : prepare? settings shared given options question = .ok session
    ↔ ∃ manifest document flow traversal,
      manifestFor (chooseRegistry shared given) question = .ok manifest
      ∧ documentFor manifest question = .ok document
      ∧ flowFor manifest document = .ok flow
      ∧ Traversal.start? flow = .ok traversal
      ∧ session = prepare settings options manifest document traversal := by
  -- every step either succeeds or fails with an error of its own kind
  simp only [prepare?, except_bind_eq_ok, except_mapError_eq_ok]
  constructor
  · rintro ⟨manifest, hmanifest, document, hdocument, flow, hflow, traversal, htraversal, hprepare⟩
    cases hprepare
    exact ⟨manifest, document, flow, traversal, hmanifest, hdocument, hflow, htraversal, rfl⟩
  · rintro ⟨manifest, document, flow, traversal, hmanifest, hdocument, hflow, htraversal, rfl⟩
    exact ⟨manifest, hmanifest, document, hdocument, flow, hflow, traversal, htraversal, rfl⟩

/-- The preparation fails at the first of its steps that fails. How the session is to run makes no
difference to that. -/
theorem prepare?_eq_error {error : StartError} :
    prepare? settings shared given options question = .error error
      ↔ manifestFor (chooseRegistry shared given) question = .error error
        ∨ ∃ manifest, manifestFor (chooseRegistry shared given) question = .ok manifest
          ∧ (documentFor manifest question = .error error
            ∨ ∃ document, documentFor manifest question = .ok document
              ∧ (flowFor manifest document = .error error
                ∨ ∃ flow, flowFor manifest document = .ok flow
                  ∧ (Traversal.start? flow).mapError .untraversable = .error error)) := by
  have hlast (manifest : Manifest) (document : Document) (traversal : Traversal) :
      (pure (prepare settings options manifest document traversal) : Except StartError Session)
        ≠ .error error := nofun
  simp only [prepare?, except_bind_eq_error, hlast, and_false, exists_false, or_false]

theorem start?_eq_ok_begin : start? settings shared given options question = .ok session
    ↔ ∃ prepared, prepare? settings shared given options question = .ok prepared
      ∧ session = prepared.begin := by
  unfold start?
  cases prepare? settings shared given options question with
  | ok prepared => simp [eq_comm]
  | error error => simp

/-- A start fails if the preparation does, and leaves the host as it was given. -/
theorem start?_eq_error {failure : StartFailure} :
    start? settings shared given options question = .error failure
      ↔ prepare? settings shared given options question = .error failure.error
        ∧ failure.environment = options.environment := by
  unfold start?
  cases prepare? settings shared given options question with
  | ok prepared => simp
  | error error =>
    obtain ⟨error', environment⟩ := failure
    simp [eq_comm]

/-- A session starts if the question has a manifest, a document and a flow that can be traversed. -/
theorem start?_eq_ok : start? settings shared given options question = .ok session
    ↔ ∃ manifest document flow traversal,
      manifestFor (chooseRegistry shared given) question = .ok manifest
      ∧ documentFor manifest question = .ok document
      ∧ flowFor manifest document = .ok flow
      ∧ Traversal.start? flow = .ok traversal
      ∧ session = (prepare settings options manifest document traversal).begin := by
  constructor
  · intro hstart
    obtain ⟨prepared, hprepared, rfl⟩ := start?_eq_ok_begin.mp hstart
    obtain ⟨manifest, document, flow, traversal, hmanifest, hdocument, hflow, htraversal, rfl⟩ :=
      prepare?_eq_ok.mp hprepared
    exact ⟨manifest, document, flow, traversal, hmanifest, hdocument, hflow, htraversal, rfl⟩
  · rintro ⟨manifest, document, flow, traversal, hmanifest, hdocument, hflow, htraversal, rfl⟩
    refine start?_eq_ok_begin.mpr ⟨prepare settings options manifest document traversal, ?_, rfl⟩
    exact prepare?_eq_ok.mpr
      ⟨manifest, document, flow, traversal, hmanifest, hdocument, hflow, htraversal, rfl⟩

/-- A flow is made of a document of the kind that the binding needs. -/
theorem flowFor_cases (h : flowFor manifest document = .ok flow) :
    (∃ single branching, document = .multipleChoice single
        ∧ single.toBranching = .accepted branching ∧ branching.compile.flow = some flow)
      ∨ (∃ branching, document = .branching branching ∧ branching.compile.flow = some flow)
      ∨ ∃ declarative, document = .declarative declarative
        ∧ declarative.compile.flow = some flow := by
  obtain ⟨compilation, hbuild, hcompiled⟩ := flowFor_eq_ok.mp h
  unfold Manifest.buildFlow at hbuild
  split at hbuild
  · next single _ =>
    cases hcompile : single.compile with
    | accepted compilation' =>
      rw [hcompile] at hbuild
      cases hbuild
      obtain ⟨branching, hbranching, rfl⟩ := Checked.map_eq_accepted.mp hcompile
      exact Or.inl ⟨single, branching, rfl, hbranching, hcompiled⟩
    | rejected first others =>
      rw [hcompile] at hbuild
      cases hbuild
  · cases hbuild
    exact Or.inr (Or.inl ⟨_, rfl, hcompiled⟩)
  · cases hbuild
    exact Or.inr (Or.inr ⟨_, rfl, hcompiled⟩)
  · cases hbuild

theorem flowFor_declarative {declarative : DeclarativeDocument}
    (h : flowFor manifest (.declarative declarative) = .ok flow) :
    declarative.compile.flow = some flow := by
  rcases flowFor_cases h with ⟨_, _, heq, -⟩ | ⟨_, heq, -⟩ | ⟨_, heq, hcompiled⟩
  · cases heq
  · cases heq
  · cases heq
    exact hcompiled

/-! ## Sound flows -/

theorem sound_of_flowFor (hdocument : documentFor manifest question = .ok document)
    (hflow : flowFor manifest document = .ok flow) : flow.Sound := by
  have hreview := documentFor_eq_ok.mp hdocument
  rcases flowFor_cases hflow with ⟨single, branching, rfl, hbranching, hcompiled⟩
    | ⟨branching, rfl, hcompiled⟩ | ⟨declarative, rfl, hcompiled⟩
  · exact MultipleChoiceDocument.sound_of_toBranching hbranching hcompiled
  · have haccepted := Document.schema_of_review_branching hreview
    exact BranchingDocument.sound_of_compile
      (BranchingDocument.wellFormed_of_schema haccepted) hcompiled
  · have haccepted := Document.schema_of_review_declarative hreview
    exact DeclarativeDocument.sound_of_compile
      (DeclarativeDocument.wellFormed_of_schema haccepted) hcompiled

/-- The stages of a flow are those of the document with every option resolved. -/
theorem stages_of_flowFor (hdocument : documentFor manifest question = .ok document)
    (hflow : flowFor manifest document = .ok flow) :
    flow.stages = document.authored.map (Stage.resolved document.rules) := by
  rcases flowFor_cases hflow with ⟨single, branching, rfl, hbranching, hcompiled⟩
    | ⟨branching, rfl, hcompiled⟩ | ⟨declarative, rfl, hcompiled⟩
  · rw [(BranchingDocument.flow_eq_of_compile hcompiled).2]
    show branching.settled = _
    rw [BranchingDocument.settled_eq_resolved,
      MultipleChoiceDocument.stages_of_toBranching hbranching]
    rfl
  · rw [(BranchingDocument.flow_eq_of_compile hcompiled).2]
    exact BranchingDocument.settled_eq_resolved
  · have hstages := DeclarativeDocument.wellFormed_of_schema
      (Document.schema_of_review_declarative (documentFor_eq_ok.mp hdocument))
    rw [(DeclarativeDocument.flow_eq_of_compile hcompiled).2]
    show declarative.settled = _
    rw [DeclarativeDocument.settled_eq_resolved hstages, Document.authored,
      DeclarativeDocument.authored, List.map_map]
    rfl

/-! ## Sessions at their start -/

/-- A session at the start of a flow: the host is listened to, and the question is shown. -/
def Begins (flow : Flow) (session : Session) : Prop :=
  ∃ settings options manifest document traversal, Traversal.start? flow = .ok traversal
    ∧ session = (prepare settings options manifest document traversal).begin

namespace Begins

theorem traversal_eq (h : Begins flow session) :
    Traversal.start? flow = .ok session.traversal := by
  obtain ⟨settings, options, manifest, document, traversal, htraversal, rfl⟩ := h
  exact htraversal

theorem flow_eq (h : Begins flow session) : session.traversal.flow = flow := by
  obtain ⟨stage, -, htraversal⟩ := Traversal.start?_eq_ok.mp h.traversal_eq
  rw [htraversal]

theorem history_eq (h : Begins flow session) : session.traversal.history = [] := by
  obtain ⟨stage, -, htraversal⟩ := Traversal.start?_eq_ok.mp h.traversal_eq
  rw [htraversal]

theorem completion_eq (h : Begins flow session) : session.traversal.completion = none := by
  obtain ⟨stage, -, htraversal⟩ := Traversal.start?_eq_ok.mp h.traversal_eq
  rw [htraversal]

theorem misses_eq (h : Begins flow session) : session.misses = [] := by
  obtain ⟨settings, options, manifest, document, traversal, -, rfl⟩ := h
  rfl

theorem result_eq (h : Begins flow session) : session.result = none := by
  obtain ⟨settings, options, manifest, document, traversal, -, rfl⟩ := h
  rfl

theorem isLeft_eq (h : Begins flow session) : session.isLeft = false := by
  obtain ⟨settings, options, manifest, document, traversal, -, rfl⟩ := h
  rfl

/-- Two entries are made at the start, neither by the learner. -/
theorem exists_log_eq (h : Begins flow session) : ∃ clock : Clock, session.log
    = [.ofEvent (clock.reading 0) Recorder.mounted,
      .ofEvent (clock.reading 1) (viewed session.manifest)] := by
  obtain ⟨settings, options, manifest, document, traversal, -, rfl⟩ := h
  exact ⟨options.clock, rfl⟩

end Begins

/-- Every started session is at the start of a sound flow. -/
theorem exists_sound_of_start? (h : start? settings shared given options question = .ok session) :
    ∃ flow, flow.Sound ∧ Begins flow session := by
  obtain ⟨manifest, document, flow, traversal, -, hdocument, hflow, htraversal, rfl⟩ :=
    start?_eq_ok.mp h
  exact ⟨flow, sound_of_flowFor hdocument hflow, settings, options, manifest, document, traversal,
    htraversal, rfl⟩

end Session

end AdaptiveQuiz
