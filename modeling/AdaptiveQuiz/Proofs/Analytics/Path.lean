import AdaptiveQuiz.Proofs.Analytics.MultiStage
import AdaptiveQuiz.Proofs.Analytics.Outcome
import AdaptiveQuiz.Proofs.Schema.Dump
import Mathlib.Data.List.Induction

/-!
# Paths in journals

The path of a session is read from the entry that ended it, and put together from the transitions if
that entry has no path. Here is what either way yields on a journal that grows at its end, and what
becomes of the other measures if the path is taken out of the journal.

## Main definitions

* `LogEntry.pathless`: an entry that ended a session, without the path

## Main statements

* `Analytics.origins_snoc`, `Analytics.origins_append_of_ne`: the way of the transitions
* `Analytics.visitedPath_recorded`, `Analytics.visitedPath_pathless`: a path that is there or not
* `Analytics.multiStage_pathless`: a record does not change unless the path does
-/

namespace AdaptiveQuiz

open Schema

/-- An entry that ended a session loses the path that it tells; other entries stay as they are. -/
def LogEntry.pathless (entry : LogEntry) : LogEntry :=
  match entry.kind, entry.payload with
  | .submit, .object fields =>
    { entry with payload := .object (fields.filter fun field => field.1 != "path") }
  | _, _ => entry

namespace LogEntry

variable (entry : LogEntry)

@[simp] theorem kind_pathless : entry.pathless.kind = entry.kind := by
  unfold pathless
  split <;> rfl

@[simp] theorem timestamp_pathless : entry.pathless.timestamp = entry.timestamp := by
  unfold pathless
  split <;> rfl

theorem pathless_eq_self {entry : LogEntry}
    (h : entry.kind = .submit → ∀ fields, entry.payload ≠ .object fields) :
    entry.pathless = entry := by
  unfold pathless
  split
  · next fields hkind hpayload => exact absurd hpayload (h hkind fields)
  · rfl

end LogEntry

namespace Analytics

variable {log entries : List LogEntry} {entry : LogEntry} {kinds : List EventKind}

theorem error_bind {ε α β : Type} (e : ε) (f : α → Except ε β) : (Except.error e >>= f) = .error e := rfl

/-! ## Looking for entries -/

theorem lastOf_append_of_ne (h : ∀ entry ∈ entries, kinds.contains entry.kind = false) :
    lastOf (log ++ entries) kinds = lastOf log kinds := by
  induction entries using List.reverseRecOn with
  | nil => rw [List.append_nil]
  | append_singleton entries entry ih =>
    rw [← List.append_assoc, lastOf_concat_of_ne (h entry (by simp))]
    exact ih fun other hother => h other (List.mem_append_left _ hother)

theorem terminalEvent_append_of_ne (h : ∀ entry ∈ entries, entry.kind ≠ .submit) :
    terminalEvent (log ++ entries) = terminalEvent log := by
  rw [terminalEvent, lastOf_append_of_ne fun entry hentry => by simpa using h entry hentry,
    terminalEvent]

theorem kind_of_terminalEvent (h : terminalEvent log = .ok entry) : entry.kind = .submit := by
  unfold terminalEvent at h
  split at h
  · next found hfound =>
    cases h
    exact List.mem_singleton.mp (Redaction.kind_mem_of_firstOf hfound)
  · cases h

/-! ## The way of the transitions -/

/-- Entries of other kinds tell of no way. -/
theorem origins_append_of_ne (h : ∀ entry ∈ entries, entry.kind ≠ .transition) :
    origins (log ++ entries) = origins log := by
  have hnone : entries.filter (·.kind == .transition) = [] :=
    List.filter_eq_nil_iff.mpr fun entry hentry => by simpa using h entry hentry
  rw [← Redaction.origins_filter, List.filter_append, hnone, List.append_nil,
    Redaction.origins_filter]

/-- A transition that is appended tells of the stage that it left. -/
theorem origins_snoc {texts : List Json} {origin : Json} (h : origins log = .ok texts)
    (hkind : entry.kind = .transition) (htruthy : entry.payload.isTruthy = true)
    (horigin : originOf entry.payload = .ok origin) :
    origins (log ++ [entry]) = .ok (texts ++ [origin]) := by
  induction log generalizing texts with
  | nil =>
    cases h
    simp only [List.nil_append, origins, hkind, htruthy, and_self, if_true, horigin]
    rfl
  | cons first rest ih =>
    rw [List.cons_append, origins]
    rw [origins] at h
    split
    · next htold =>
      rw [if_pos htold] at h
      obtain ⟨left, hleft, hbind⟩ := except_bind_eq_ok.mp h
      obtain ⟨more, hmore, htexts⟩ := except_bind_eq_ok.mp hbind
      cases htexts
      rw [hleft, ih hmore]
      rfl
    · next htold =>
      rw [if_neg htold] at h
      exact ih h

/-! ## Paths that are recorded, and paths that are not -/

/-- What the analytics read in the entry that tells of a completion. -/
theorem exists_completionFields (completion : Completion) :
    ∃ fields, detailFields completion.toJson = .ok fields
      ∧ isGiven fields "is_correct" = completion.isCorrect
      ∧ Fields.get? fields "path" = some (.ofTexts completion.path) := ⟨_, rfl, rfl, rfl⟩

/-- A path in the entry that ended the session is the path of the session, unless it is empty. -/
theorem visitedPath_recorded {completion : Completion} {now : Int}
    (h : terminalEvent log = .ok (.ofEvent now ⟨.submit, completion.toJson⟩))
    (hpath : completion.path ≠ []) : visitedPath log = .ok (completion.path.map .text) := by
  have htruthy : (Json.ofTexts completion.path).isTruthy = true := by
    simpa [Json.ofTexts, Json.isTruthy] using hpath
  obtain ⟨fields, hdetails, -, hrecorded⟩ := exists_completionFields completion
  simp only [visitedPath, h, ok_bind, LogEntry.ofEvent, hdetails, hrecorded, htruthy, if_true]
  rfl

theorem firstOf_map_pathless (log : List LogEntry) (kinds : List EventKind) :
    firstOf (log.map LogEntry.pathless) kinds = (firstOf log kinds).map LogEntry.pathless := by
  simp only [firstOf, List.find?_map, Function.comp_def, LogEntry.kind_pathless]

theorem terminalEvent_map_pathless (log : List LogEntry) :
    terminalEvent (log.map LogEntry.pathless) = (terminalEvent log).map LogEntry.pathless := by
  rw [terminalEvent, lastOf, ← List.map_reverse, firstOf_map_pathless, terminalEvent, lastOf]
  cases firstOf log.reverse [.submit] <;> rfl

theorem countOf_map_pathless (log : List LogEntry) (kinds : List EventKind) :
    countOf (log.map LogEntry.pathless) kinds = countOf log kinds := by
  simp only [countOf, List.countP_map, Function.comp_def, LogEntry.kind_pathless]

theorem timeSpent_map_pathless (log : List LogEntry) :
    timeSpent (log.map LogEntry.pathless) = timeSpent log := by
  rw [timeSpent, timeSpent, terminalEvent_map_pathless, firstOf_map_pathless]
  cases terminalEvent log with
  | error failure => rfl
  | ok terminal => cases firstOf log [.mount, .view] <;> simp [Except.map]

/-- Entries of other kinds than those that end sessions are the same. -/
theorem filter_map_pathless {kind : EventKind} (h : kind ≠ .submit) (log : List LogEntry) :
    (log.map LogEntry.pathless).filter (·.kind == kind) = log.filter (·.kind == kind) := by
  simp only [List.filter_map, Function.comp_def, LogEntry.kind_pathless]
  rw [List.map_congr_left (g := id), List.map_id]
  intro entry hentry
  have hkind : entry.kind = kind := by simpa using (List.mem_filter.mp hentry).2
  exact LogEntry.pathless_eq_self fun hsubmit => absurd (hkind.symm.trans hsubmit) h

theorem origins_map_pathless (log : List LogEntry) :
    origins (log.map LogEntry.pathless) = origins log := by
  rw [← Redaction.origins_filter, filter_map_pathless (by decide), Redaction.origins_filter]

theorem diagnosis_map_pathless (log : List LogEntry) (isCorrect : Bool) (repairs : List String) :
    diagnosis (log.map LogEntry.pathless) isCorrect repairs = diagnosis log isCorrect repairs := by
  have hlast : lastMisconception (log.map LogEntry.pathless) = lastMisconception log := by
    rw [lastMisconception, ← List.map_reverse, ← Redaction.firstMisconception_filter,
      filter_map_pathless (by decide), Redaction.firstMisconception_filter, lastMisconception]
  rw [diagnosis, hlast, diagnosis]

/-- The details of an entry that ended a session are the same, without the path. -/
theorem detailFields_pathless (h : entry.kind = .submit) : detailFields entry.pathless.payload
    = (detailFields entry.payload).map fun fields => fields.filter fun field => field.1 != "path" := by
  by_cases hobject : ∃ fields, entry.payload = .object fields
  · obtain ⟨fields, hpayload⟩ := hobject
    have hread : ∀ fields : Fields, detailFields (.object fields) = .ok fields := by
      intro fields
      cases fields <;> rfl
    have hkept : entry.pathless.payload
        = .object (fields.filter fun field => field.1 != "path") := by
      obtain ⟨kind, payload, timestamp⟩ := entry
      cases h
      cases hpayload
      rfl
    rw [hkept, hpayload, hread, hread]
    rfl
  · -- other details are not changed, and they are an error or count as no details
    rw [LogEntry.pathless_eq_self fun _ fields hfields => hobject ⟨fields, hfields⟩]
    unfold detailFields
    split
    · split
      · next fields hfields => exact absurd ⟨fields, hfields⟩ hobject
      · rfl
    · rfl

/-- Without a recorded path, the path of a session is the way of the transitions. -/
theorem visitedPath_pathless (h : terminalEvent log = .ok entry)
    {fields : Fields} (hfields : detailFields entry.payload = .ok fields) :
    visitedPath (log.map LogEntry.pathless) = origins log := by
  have hnone : Fields.get? (fields.filter fun field => field.1 != "path") "path" = none := by
    rw [get?_filter (· != "path")]
    rfl
  simp only [visitedPath, terminalEvent_map_pathless, origins_map_pathless, except_bind_map, h,
    ok_bind, detailFields_pathless (kind_of_terminalEvent h), hfields, hnone]

/-- A record does not change without the recorded path, unless the path of the session changes. -/
theorem multiStage_pathless (h : visitedPath (log.map LogEntry.pathless) = visitedPath log)
    (settings : Settings) (document : Document) (context : SessionContext) :
    multiStage settings document (log.map LogEntry.pathless) context
      = multiStage settings document log context := by
  have hgiven : ∀ fields : Fields, isGiven (fields.filter fun field => field.1 != "path")
      "is_correct" = isGiven fields "is_correct" := by
    intro fields
    rw [isGiven, get?_filter (· != "path")]
    rfl
  simp only [multiStage, h, diagnosis_map_pathless, timeSpent_map_pathless, countOf_map_pathless,
    distractionScore, focusConsistency, terminalEvent_map_pathless, except_bind_map]
  cases hterminal : terminalEvent log with
  | error failure => simp only [error_bind]
  | ok terminal =>
    simp only [ok_bind, detailFields_pathless (kind_of_terminalEvent hterminal), except_bind_map,
      hgiven, LogEntry.timestamp_pathless]

end Analytics

end AdaptiveQuiz
