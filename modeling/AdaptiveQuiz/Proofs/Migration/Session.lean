import AdaptiveQuiz.Proofs.Analytics.MultiStage
import AdaptiveQuiz.Proofs.Catalog.Builtin
import AdaptiveQuiz.Proofs.Migration.Recompilation
import AdaptiveQuiz.Proofs.Session.Parallel
import AdaptiveQuiz.Proofs.Session.Safety

/-!
# Sessions on migrated questions

A question with unlock rules for which a session starts can be migrated, and a session starts on the
migrated question, too. From then on nobody can tell the two sessions apart, apart from the name of
the question type in one entry of their journals: their flow is the same, and the analytics do not
look at anything in which their documents differ.

## Main definitions

* `branchingQuestion`: a migrated document as a raw question with its type
* `Session.GoOnAlike`: journals that differ in how they begin

## Main statements

* `Session.Parallel.begin`: two sessions that begin on the same flow are side by side
* `migrated_runs_alike`
-/

namespace AdaptiveQuiz

open Schema

/-- The fields of a document with explicit actions as a raw question, with its type and version. -/
def branchingQuestion (data : Fields) : Json :=
  .object (data ++ [("meta", .object [("type", .text "mcq-branching"), ("version", .integer 1)])])

namespace Session

/-! ## Starting side by side -/

/-- The entries that every journal begins with. -/
def opening (manifest : Manifest) (clock : Clock) : List LogEntry :=
  [.ofEvent (clock.reading 0) Recorder.mounted, .ofEvent (clock.reading 1) (viewed manifest)]

/-- Two journals that begin in two given ways and go on alike. -/
def GoOnAlike (before before' log log' : List LogEntry) : Prop :=
  ∃ rest, log = before ++ rest ∧ log' = before' ++ rest

theorem Parallel.log_eq {view : SubmissionResult → SubmissionResult}
    {before before' : List LogEntry} {left right : Session}
    (h : Parallel view (GoOnAlike before before') left right) :
    ∃ rest, left.log = before ++ rest ∧ right.log = before' ++ rest :=
  h.log_alike

/-- Two sessions that begin on the same flow are side by side if the analytics agree on all journals
that begin like theirs. -/
theorem Parallel.begin {settings : Settings} {options : SessionOptions}
    {manifest manifest' : Manifest} {document document' : Document} (traversal : Traversal)
    (h : ∀ rest, manifest.analytics settings document (opening manifest options.clock ++ rest)
        options.context
      = manifest'.analytics settings document' (opening manifest' options.clock ++ rest)
        options.context) :
    Parallel id (GoOnAlike (opening manifest options.clock) (opening manifest' options.clock))
      (prepare settings options manifest document traversal).begin
      (prepare settings options manifest' document' traversal).begin where
  threshold_eq := rfl
  traversal_eq := rfl
  misses_eq := rfl
  result_eq := rfl
  capture_eq := rfl
  environment_eq := rfl
  clock_eq := rfl
  isLeft_eq := rfl
  log_alike := ⟨[], rfl, rfl⟩
  append_alike := by
    rintro _ _ entry ⟨rest, rfl, rfl⟩
    exact ⟨rest ++ [entry], List.append_assoc .., List.append_assoc ..⟩
  view_resultOn := by
    rintro _ _ completion ⟨rest, rfl, rfl⟩
    rw [id, id]
    refine resultOn_congr ?_ ?_ completion
    · rfl
    · exact h rest

/-! ## Both questions start -/

variable {settings : Settings} {shared : Registry} {given : Option Registry}
  {options : SessionOptions} {fields details data : Fields} {session : Session}

/-- The type in the `meta` object decides about the manifest, whatever the version. -/
theorem manifestFor_declarative {registry : Registry} {manifest : Manifest}
    (hbuiltin : registry.IsBuiltin) (hmeta : Fields.get? fields "meta" = some (.object details))
    (htype : Fields.get? details "type" = some (.text "mcq-declarative"))
    (hmanifest : manifestFor registry (.object fields) = .ok manifest) :
    manifest = .declarative := by
  obtain ⟨⟨id, version⟩, hresolve, hrequire⟩ := except_bind_eq_ok.mp hmanifest
  rw [except_mapError_eq_ok] at hresolve hrequire
  have hmetaType : Routing.metaType? fields = some (.text "mcq-declarative", details) := by
    simp only [Routing.metaType?, hmeta, htype]
    rfl
  simp only [Routing.resolve, hmetaType] at hresolve
  cases hversion : Routing.metaVersion details with
  | error error =>
    rw [hversion] at hresolve
    cases hresolve
  | ok version' =>
    rw [hversion] at hresolve
    cases hresolve
    have hmem : Manifest.declarative ∈ Manifest.builtin := by simp [Manifest.builtin]
    exact hbuiltin.eq_of_require hmem hrequire

theorem get?_branchingQuestion (data : Fields) {name : String} (hname : name ≠ "meta") :
    Fields.get? (data ++ [("meta",
        .object [("type", .text "mcq-branching"), ("version", .integer 1)])]) name
      = Fields.get? data name := by
  have hkey : (name == "meta") = false := beq_eq_false_iff_ne.mpr hname
  simp [Fields.get?, List.lookup_append, List.lookup_cons, hkey]

theorem manifestFor_branchingQuestion {registry : Registry} (hbuiltin : registry.IsBuiltin)
    (hdata : Fields.get? data "meta" = none) :
    manifestFor registry (branchingQuestion data) = .ok .branching := by
  have hmeta : Fields.get? (data ++ [("meta",
      .object [("type", .text "mcq-branching"), ("version", .integer 1)])]) "meta"
      = some (.object [("type", .text "mcq-branching"), ("version", .integer 1)]) := by
    rw [Fields.get?] at hdata
    rw [Fields.get?, List.lookup_append, hdata]
    rfl
  have hresolve : Routing.resolve (branchingQuestion data) = .ok ("mcq-branching", some 1) := by
    simp only [branchingQuestion, Routing.resolve, Routing.metaType?, hmeta]
    rfl
  have hmem : Manifest.branching ∈ Manifest.builtin := by simp [Manifest.builtin]
  exact except_bind_eq_ok.mpr ⟨_, except_mapError_eq_ok.mpr hresolve,
    except_mapError_eq_ok.mpr (hbuiltin.require_eq_ok hmem)⟩

/-- The type and version are no part of the document. -/
theorem documentFor_branchingQuestion {document : BranchingDocument}
    (haccepted : BranchingDocument.schema (.object data) = .accepted document) :
    documentFor .branching (branchingQuestion data) = .ok (.branching document) := by
  have hcongr : BranchingDocument.schema (branchingQuestion data)
      = BranchingDocument.schema (.object data) := by
    refine BranchingDocument.schema_congr fun name hname => get?_branchingQuestion data ?_
    rintro rfl
    exact absurd hname (by decide)
  have hreview : (BranchingDocument.review (branchingQuestion data)).document = some document :=
    BranchingDocument.review_document_eq_some.mpr (hcongr.trans haccepted)
  rw [documentFor_eq_ok]
  exact Option.map_eq_some_iff.mpr ⟨document, hreview, rfl⟩

/-- The analytics do not tell the two questions apart. -/
theorem analytics_migrated {document : DeclarativeDocument} {flow : Flow}
    (hstages : WellFormedStages document.authored) (hflow : document.compile.flow = some flow)
    (returnBehavior : Option ReturnBehavior) (clock : Clock) (rest : List LogEntry)
    (context : SessionContext) :
    Manifest.declarative.analytics settings (.declarative document)
        (opening .declarative clock ++ rest) context
      = Manifest.branching.analytics settings (.branching (flow.toDocument returnBehavior))
        (opening .branching clock ++ rest) context := by
  have hparts := (DeclarativeDocument.flow_eq_of_compile hflow).2
  have hresolved : flow.stages = document.authored.map (Stage.resolved document.stages) := by
    rw [hparts, DeclarativeDocument.authored, List.map_map]
    exact DeclarativeDocument.settled_eq_resolved hstages
  -- the only difference of the journals is in the details of an entry that does not inform
  have hbare : (opening .declarative clock ++ rest).map LogEntry.bare
      = (opening .branching clock ++ rest).map LogEntry.bare := by
    rw [List.map_append, List.map_append]
    rfl
  have hitem : (flow.toDocument returnBehavior).itemId = document.itemId := by
    rw [hparts]
    rfl
  have hatom : (flow.toDocument returnBehavior).atomId = document.atomId := by
    rw [hparts]
    rfl
  show Analytics.multiStage settings (.declarative document) _ context
    = Analytics.multiStage settings (.branching (flow.toDocument returnBehavior)) _ context
  rw [Analytics.multiStage_resolved hitem hatom hresolved, ← Analytics.multiStage_map_bare, hbare,
    Analytics.multiStage_map_bare]

end Session

/-- A migrated question runs exactly like its source. Where exactly the built-in types are
registered, a question of the type with unlock rules for which a session starts is migrated, and a
session starts on the migrated question, with its new type. Whatever is done, both sessions reply
the same, and at any time they have the same traversal, the same counts and the same result; their
journals differ in the name of the question type, in one entry. -/
theorem migrated_runs_alike {settings : Settings} {shared : Registry} {given : Option Registry}
    {options : SessionOptions} {fields details : Fields} {session : Session}
    (hbuiltin : (Session.chooseRegistry shared given).IsBuiltin)
    (hmeta : Fields.get? fields "meta" = some (.object details))
    (htype : Fields.get? details "type" = some (.text "mcq-declarative"))
    (hstart : Session.start? settings shared given options (.object fields) = .ok session) :
    ∃ data notices migrated,
      DeclarativeDocument.unroll (.object fields) = .ok (.object data, notices)
      ∧ Session.start? settings shared given options (branchingQuestion data) = .ok migrated
      ∧ ∀ calls,
        let now := (session.run calls).1
        let now' := (migrated.run calls).1
        (migrated.run calls).2 = (session.run calls).2
        ∧ now'.traversal = now.traversal
        ∧ (∀ stageId, now'.attempts stageId = now.attempts stageId)
        ∧ now'.result = now.result
        ∧ now'.environment = now.environment
        ∧ ∃ mounted rest,
          now.log = mounted :: ⟨.view, .object [("question_type", .text "mcq-declarative:1")],
            options.clock.reading 1⟩ :: rest
          ∧ now'.log = mounted :: ⟨.view, .object [("question_type", .text "mcq-branching:1")],
            options.clock.reading 1⟩ :: rest := by
  obtain ⟨manifest, anyDocument, flow, traversal, hmanifest, hdocument, hflow, htraversal, rfl⟩ :=
    Session.start?_eq_ok.mp hstart
  obtain rfl := Session.manifestFor_declarative hbuiltin hmeta htype hmanifest
  -- the question is a document with unlock rules that compiles
  obtain ⟨document, hreview, rfl⟩ :=
    Option.map_eq_some_iff.mp (Session.documentFor_eq_ok.mp hdocument)
  have haccepted := DeclarativeDocument.review_document_eq_some.mp hreview
  have hstages : WellFormedStages document.authored :=
    DeclarativeDocument.wellFormed_of_schema haccepted
  obtain ⟨compilation, hbuild, hcompiled⟩ := Session.flowFor_eq_ok.mp hflow
  obtain rfl : document.compile = compilation := Except.ok.inj hbuild
  have hsound : flow.Sound := DeclarativeDocument.sound_of_compile hstages hcompiled
  -- its flow is written down, and read back from the new question
  let behavior : Option ReturnBehavior := some .reloadWithNewVars
  obtain ⟨data, hdata, huntyped⟩ : ∃ data, flow.toBranchingJson behavior = .object data
      ∧ Fields.get? data "meta" = none := ⟨_, rfl, rfl⟩
  have hunroll := DeclarativeDocument.unroll_eq_ok.mpr
    ⟨document, flow, haccepted, hcompiled, hdata.symm, rfl⟩
  have hread := Flow.schema_toBranchingJson
    (DeclarativeDocument.wellFormed_of_compile hstages hcompiled) behavior
  rw [hdata] at hread
  have hflow' : Session.flowFor .branching (.branching (flow.toDocument behavior)) = .ok flow :=
    Session.flowFor_eq_ok.mpr ⟨_, rfl, by rw [hsound.compile_toDocument]⟩
  have hstart' : Session.start? settings shared given options (branchingQuestion data) = .ok _ :=
    Session.start?_eq_ok.mpr ⟨.branching, .branching (flow.toDocument behavior), flow, traversal,
      Session.manifestFor_branchingQuestion hbuiltin huntyped,
      Session.documentFor_branchingQuestion hread, hflow', htraversal, rfl⟩
  refine ⟨data, _, _, hunroll, hstart', ?_⟩
  -- from here on the two sessions stay side by side
  intro calls now now'
  have hanalytics : ∀ rest, Manifest.declarative.analytics settings (.declarative document)
        (Session.opening .declarative options.clock ++ rest) options.context
      = Manifest.branching.analytics settings (.branching (flow.toDocument behavior))
        (Session.opening .branching options.clock ++ rest) options.context :=
    fun rest => Session.analytics_migrated hstages hcompiled behavior options.clock rest
      options.context
  have hparallel := Session.Parallel.begin traversal hanalytics
  obtain ⟨hlast, hreplies⟩ := hparallel.run calls
  obtain ⟨rest, hlog, hlog'⟩ := hlast.log_eq
  refine ⟨?_, hlast.traversal_eq.symm, fun stageId => (hlast.attempts_eq stageId).symm, ?_,
    hlast.environment_eq.symm, _, rest, hlog, hlog'⟩
  · have hview : SessionReply.through id = id := funext SessionReply.through_id
    rw [hview, List.map_id, List.map_id] at hreplies
    exact hreplies.symm
  · have hresult := hlast.result_eq
    rw [Option.map_id, id, id] at hresult
    exact hresult.symm

namespace Detour

/-- The question with a detour is answered alike before and after its migration, also while the host
holds remediation back and time passes. -/
theorem migrated_alike : ∃ data notices session migrated,
    DeclarativeDocument.unroll (typed "mcq-declarative" raw) = .ok (.object data, notices)
    ∧ started = .ok session
    ∧ Session.start? .standard (Registry.shared .standard).1 none options (branchingQuestion data)
      = .ok migrated
    ∧ (migrated.run [.submit "c", .advance 7, .submit "a", .submit "a"]).2
      = (session.run [.submit "c", .advance 7, .submit "a", .submit "a"]).2
    ∧ (migrated.run [.submit "c", .advance 7, .submit "a", .submit "a"]).1.result
      = (session.run [.submit "c", .advance 7, .submit "a", .submit "a"]).1.result := by
  have hisSome : started.toOption.isSome = true := by decide +kernel
  cases hstart : started with
  | error error =>
    rw [hstart] at hisSome
    cases hisSome
  | ok session =>
    have hbuiltin : (Session.chooseRegistry (Registry.shared .standard).1 none).IsBuiltin :=
      Registry.isBuiltin_shared .standard
    obtain ⟨data, notices, migrated, hunroll, hmigrated, halike⟩ :=
      migrated_runs_alike hbuiltin rfl rfl hstart
    obtain ⟨hreplies, -, -, hresult, -⟩ :=
      halike [.submit "c", .advance 7, .submit "a", .submit "a"]
    exact ⟨data, notices, session, migrated, hunroll, rfl, hmigrated, hreplies, hresult⟩

end Detour

end AdaptiveQuiz
