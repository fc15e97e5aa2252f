import AdaptiveQuiz.Proofs.Document.NamedType
import AdaptiveQuiz.Proofs.Session.Outcome

/-!
# Starting on questions that name their type

A question finds its type by what its fields say of it, and is then reviewed with these fields in
place. Whether a session starts should not depend on them any further. It does not, but for single
choice questions, whose type has to be spelt in one of two ways where the field `type` is used.

## Main statements

* `Session.exists_start?`: what it takes to start
* `Session.flowFor_untyped`: the flow does not depend on the field `type`
* `Session.starts_by_name`: a review with and without the fields that may name the type
* `Detour.alias_misread`: a name of a type that leads to it, but not to a document
-/

namespace AdaptiveQuiz

namespace Session

variable {settings : Settings} {shared registry : Registry} {given : Option Registry}
  {options : SessionOptions} {question : Json} {fields : Fields} {manifest : Manifest}
  {document : Document}

theorem flowFor_untyped : flowFor manifest document.untyped = flowFor manifest document := by
  unfold flowFor Manifest.buildFlow
  cases document with
  | multipleChoice single => cases manifest.binding <;> rfl
  | branching document => rfl
  | declarative document => rfl

/-- A session starts if the question has a manifest, a document and a flow. -/
theorem exists_start? : (∃ session, start? settings shared given options question = .ok session)
    ↔ ∃ manifest document flow, manifestFor (chooseRegistry shared given) question = .ok manifest
      ∧ documentFor manifest question = .ok document ∧ flowFor manifest document = .ok flow := by
  constructor
  · rintro ⟨session, hstart⟩
    obtain ⟨manifest, document, flow, _, hmanifest, hdocument, hflow, -⟩ := start?_eq_ok.mp hstart
    exact ⟨manifest, document, flow, hmanifest, hdocument, hflow⟩
  · rintro ⟨manifest, document, flow, hmanifest, hdocument, hflow⟩
    obtain ⟨traversal, htraversal⟩ := Traversal.exists_start? (sound_of_flowFor hdocument hflow)
    exact ⟨_, start?_eq_ok.mpr ⟨manifest, document, flow, traversal, hmanifest, hdocument, hflow,
      htraversal, rfl⟩⟩

/-- The manifest of a question that names a built-in type. -/
theorem manifestFor_of_resolve (hbuiltin : registry.IsBuiltin) (hmem : manifest ∈ Manifest.builtin)
    {version : Option Int} (hresolve : Routing.resolve question = .ok (manifest.id, version))
    {found : Manifest} : manifestFor registry question = .ok found
      ↔ (version = none ∨ version = some manifest.version) ∧ found = manifest := by
  rw [manifestFor_eq_ok, ← hbuiltin.get?_eq_some hmem]
  constructor
  · rintro ⟨id, version', hresolve', hget⟩
    rw [hresolve] at hresolve'
    cases hresolve'
    exact hget
  · exact fun hget => ⟨_, version, hresolve, hget⟩

/-- Of a question that names a built-in type, the fields that may name it make no difference to the
review, save that multi-stage questions have a warning for `type`, as long as single choice questions
have this field spelt in one of the two ways that they read. Spelt in another way, it is one more
critical remark. So this is what it takes to start, apart from a release that is there and a question
that would start without these fields. -/
theorem starts_by_name (settings : Settings) (options : SessionOptions)
    (hbuiltin : (chooseRegistry shared given).IsBuiltin) (hmem : manifest ∈ Manifest.builtin)
    {version : Option Int}
    (hresolve : Routing.resolve (.object fields) = .ok (manifest.id, version)) :
    let kind := manifest.documentKind
    let named := Document.review kind (.object fields)
    let plain := Document.review kind (.object (Routing.unnamed fields))
    (Document.ReadsType kind fields → Verdict.SameBut Document.untyped
      (kind ≠ .multipleChoice ∧ (Fields.get? fields "type").isSome = true) named plain)
    ∧ (¬ Document.ReadsType kind fields → Verdict.Misread named plain)
    ∧ ((∃ session, start? settings shared given options (.object fields) = .ok session)
      ↔ (version = none ∨ version = some manifest.version) ∧ Document.ReadsType kind fields
        ∧ ∃ document flow, plain.document = some document
          ∧ flowFor manifest document = .ok flow) := by
  intro kind named plain
  refine ⟨Document.review_unnamed, Document.review_of_misread, ?_⟩
  rw [exists_start?]
  simp only [manifestFor_of_resolve hbuiltin hmem hresolve, documentFor_eq_ok]
  constructor
  · rintro ⟨_, document, flow, ⟨hversion, rfl⟩, hdocument, hflow⟩
    by_cases hreads : Document.ReadsType kind fields
    · -- the document without its type has the same flow
      refine ⟨hversion, hreads, document.untyped, flow, ?_, by rw [flowFor_untyped, hflow]⟩
      rw [(Document.review_unnamed hreads).document_eq, hdocument]
      rfl
    · rw [(Document.review_of_misread hreads).document_eq] at hdocument
      cases hdocument
  · rintro ⟨hversion, hreads, plainDocument, flow, hdocument, hflow⟩
    rw [(Document.review_unnamed hreads).document_eq] at hdocument
    obtain ⟨document, hnamed, rfl⟩ := Option.map_eq_some_iff.mp hdocument
    exact ⟨manifest, document, flow, ⟨hversion, rfl⟩, hnamed, by rw [← flowFor_untyped, hflow]⟩

end Session

namespace Detour

/-- The fields of a raw question, with a name of its type. -/
def named (type : String) : Json → Fields
  | .object fields => ("type", .text type) :: fields
  | _ => []

/-- Two names of the same type, of which a document of this type reads one. -/
theorem name_read : Routing.resolve (.object (named "multiple_choice" rawChoice))
      = Routing.resolve (.object (named "mcq" rawChoice))
    ∧ (∃ session, Session.start? .standard (Registry.shared .standard).1 none options
      (.object (named "multiple_choice" rawChoice)) = .ok session)
    ∧ ¬ ∃ session, Session.start? .standard (Registry.shared .standard).1 none options
      (.object (named "mcq" rawChoice)) = .ok session := by
  have hbuiltin : (Session.chooseRegistry (Registry.shared .standard).1 none).IsBuiltin :=
    Registry.isBuiltin_shared .standard
  have hmem : Manifest.multipleChoice ∈ Manifest.builtin := List.mem_cons_self ..
  have hread : Routing.resolve (.object (named "multiple_choice" rawChoice))
      = .ok (Manifest.multipleChoice.id, none) := by decide +kernel
  have hmisread : Routing.resolve (.object (named "mcq" rawChoice))
      = .ok (Manifest.multipleChoice.id, none) := by decide +kernel
  refine ⟨hread.trans hmisread.symm, ?_, fun hstarts => ?_⟩
  · refine (Session.starts_by_name .standard options hbuiltin hmem hread).2.2.mpr
      ⟨Or.inl rfl, fun _ value hvalue => ?_, .multipleChoice choice, ?_⟩
    · cases hvalue
      exact Or.inr ⟨.small, rfl⟩
    · have hcompiles : (Session.flowFor .multipleChoice (.multipleChoice choice)).toOption.isSome
          = true := by decide +kernel
      obtain ⟨flow, hflow⟩ := except_toOption_isSome.mp hcompiles
      exact ⟨flow, by decide +kernel, hflow⟩
  · obtain ⟨-, hreads, -⟩ :=
      (Session.starts_by_name .standard options hbuiltin hmem hmisread).2.2.mp hstarts
    rcases hreads rfl _ rfl with hnull | ⟨spelling, hspelling⟩
    · cases hnull
    · cases spelling <;> exact absurd hspelling (by decide)

/-- A name of the type that leads to it may be one that its documents do not read. -/
theorem alias_misread : ¬ ∀ fields manifest version, manifest ∈ Manifest.builtin →
    Routing.resolve (.object fields) = .ok (manifest.id, version) →
    (∀ value, Fields.get? fields "type" = some value → ∃ spelling, value = .text spelling
      ∧ Routing.aliases.lookup (Routing.normalize spelling) = some manifest.id) →
    (Document.review manifest.documentKind (.object fields)).remarks
      = (Document.review manifest.documentKind (.object (Routing.unnamed fields))).remarks := by
  intro hall
  have hremarks := hall (named "mcq" rawChoice) .multipleChoice none (List.mem_cons_self ..)
    (by decide +kernel) fun value hvalue => by
      cases hvalue
      exact ⟨"mcq", rfl, by decide +kernel⟩
  revert hremarks
  decide +kernel

end Detour

end AdaptiveQuiz
