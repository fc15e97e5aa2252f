import AdaptiveQuiz.Analytics.MultiStage

/-!
# What analytics look at in a journal

Analytics look at the kinds and the times of entries, and at the details of submissions, transitions and
the entry that ended the session. So a journal can be redacted without consequences: other entries may
lose their details, and those that are neither looked for nor counted may be left out.

## Main definitions

* `EventKind.informs`: the kinds of entries whose details the analytics look at
* `Redaction`, `Redaction.journal`: a redaction, and a journal after it
* `Redaction.Keeps`: the kinds of entries that are not left out

## Main statements

* `Redaction.firstOf_journal`, `Redaction.countOf_journal`: looking for entries that are kept
* `Redaction.filter_journal`: the entries whose details the analytics look at are all there
* `Redaction.timeSpent_journal`, `Redaction.visitedPath_journal`, `Redaction.diagnosis_journal`: what is
  read of a journal is read of a redacted one
-/

namespace AdaptiveQuiz

open Analytics

/-- The kinds of entries whose details the analytics look at. -/
def EventKind.informs (kind : EventKind) : Bool :=
  kind == .submit || kind == .submitStage || kind == .transition

/-- A redaction of journals, entry by entry. An entry may be left out, or lose details, but it keeps its
kind and its time. Entries whose details the analytics look at stay as they are, and those that tell
when the question was mounted and viewed stay in the journal. -/
structure Redaction where
  redact : LogEntry → Option LogEntry
  kind_eq : ∀ entry redacted, redact entry = some redacted → redacted.kind = entry.kind
  timestamp_eq : ∀ entry redacted, redact entry = some redacted →
    redacted.timestamp = entry.timestamp
  redact_of_informs : ∀ entry, entry.kind.informs = true → redact entry = some entry
  isSome_of_opens : ∀ entry, entry.kind = .mount ∨ entry.kind = .view →
    (redact entry).isSome = true

namespace Redaction

variable {redaction : Redaction} {kinds : List EventKind}

/-- A journal after a redaction. -/
def journal (redaction : Redaction) (log : List LogEntry) : List LogEntry :=
  log.filterMap redaction.redact

/-- No entry of one of the kinds is left out. -/
def Keeps (redaction : Redaction) (kinds : List EventKind) : Prop :=
  ∀ entry, kinds.contains entry.kind = true → (redaction.redact entry).isSome = true

theorem journal_reverse (log : List LogEntry) :
    redaction.journal log.reverse = (redaction.journal log).reverse := List.filterMap_reverse

/-! ## Looking for entries -/

theorem kind_mem_of_firstOf {log : List LogEntry} {entry : LogEntry}
    (h : firstOf log kinds = some entry) : entry.kind ∈ kinds := by
  unfold firstOf at h
  simpa using List.find?_some h

theorem keeps_of_informs (h : ∀ kind ∈ kinds, kind.informs = true) : redaction.Keeps kinds := by
  intro entry hcontains
  rw [redaction.redact_of_informs entry (h _ (List.contains_iff_mem.mp hcontains))]
  rfl

theorem keeps_opening : redaction.Keeps [.mount, .view] := by
  intro entry hcontains
  exact redaction.isSome_of_opens entry (by simpa using hcontains)

/-- An entry is of a kind that is kept after the redaction if it was before. -/
theorem Keeps.any_contains (h : redaction.Keeps kinds) (entry : LogEntry) :
    (redaction.redact entry).any (fun redacted => kinds.contains redacted.kind)
      = kinds.contains entry.kind := by
  cases hredact : redaction.redact entry with
  | some redacted => rw [Option.any_some, redaction.kind_eq entry redacted hredact]
  | none =>
    cases hcontains : kinds.contains entry.kind with
    | false => rfl
    | true =>
      have hsome := h entry hcontains
      rw [hredact] at hsome
      cases hsome

theorem firstOf_journal (h : redaction.Keeps kinds) (log : List LogEntry) :
    firstOf (redaction.journal log) kinds = (firstOf log kinds).bind redaction.redact := by
  simp only [firstOf, journal, List.find?_filterMap, h.any_contains]

theorem countOf_journal (h : redaction.Keeps kinds) (log : List LogEntry) :
    countOf (redaction.journal log) kinds = countOf log kinds := by
  have hkept : ∀ entry, ((redaction.redact entry).map fun redacted =>
      kinds.contains redacted.kind).getD false = kinds.contains entry.kind := by
    intro entry
    rw [← h.any_contains entry]
    cases redaction.redact entry <;> rfl
  simp only [countOf, journal, List.countP_filterMap, hkept]

/-- What was found stays as it is if the analytics look at its details. -/
theorem lastOf_journal (h : ∀ kind ∈ kinds, kind.informs = true) (log : List LogEntry) :
    lastOf (redaction.journal log) kinds = lastOf log kinds := by
  rw [lastOf, ← journal_reverse, firstOf_journal (keeps_of_informs h), lastOf]
  cases hfirst : firstOf log.reverse kinds with
  | none => rfl
  | some entry =>
    exact redaction.redact_of_informs entry (h _ (kind_mem_of_firstOf hfirst))

theorem terminalEvent_journal (log : List LogEntry) :
    terminalEvent (redaction.journal log) = terminalEvent log := by
  rw [terminalEvent, lastOf_journal (by decide), terminalEvent]

theorem submittedOption_journal (log : List LogEntry) :
    submittedOption (redaction.journal log) = submittedOption log := by
  rw [submittedOption, lastOf_journal (by decide), submittedOption]

/-- The first mount or view is found in its place, with its time. -/
theorem timeSpent_journal (log : List LogEntry) :
    timeSpent (redaction.journal log) = timeSpent log := by
  rw [timeSpent, terminalEvent_journal, timeSpent, firstOf_journal keeps_opening]
  congr 1
  funext terminal
  cases hfirst : firstOf log [.mount, .view] with
  | none => rfl
  | some entry =>
    have hopens : entry.kind = .mount ∨ entry.kind = .view := by
      simpa using kind_mem_of_firstOf hfirst
    obtain ⟨redacted, hredact⟩ :=
      Option.isSome_iff_exists.mp (redaction.isSome_of_opens entry hopens)
    rw [Option.bind_some, hredact]
    simp only [Option.getD_some, redaction.timestamp_eq entry redacted hredact]

/-! ## Reading details -/

/-- The entries whose details the analytics look at are all there. -/
theorem filter_journal {kind : EventKind} (h : kind.informs = true) (log : List LogEntry) :
    (redaction.journal log).filter (·.kind == kind) = log.filter (·.kind == kind) := by
  induction log with
  | nil => rfl
  | cons entry rest ih =>
    rw [journal] at ih
    by_cases hkind : entry.kind = kind
    · have hredact := redaction.redact_of_informs entry (hkind ▸ h)
      simp [journal, hredact, hkind, ih]
    · cases hredact : redaction.redact entry with
      | none => simp [journal, hredact, hkind, ih]
      | some redacted =>
        have hkind' := redaction.kind_eq entry redacted hredact
        simp [journal, hredact, hkind, hkind', ih]

/-- Where a session came through is read of its transitions. -/
theorem origins_filter (log : List LogEntry) :
    origins (log.filter (·.kind == .transition)) = origins log := by
  induction log with
  | nil => rfl
  | cons entry rest ih =>
    by_cases hkind : entry.kind = .transition
    · rw [List.filter_cons_of_pos (by simp [hkind]), origins, ih, origins]
    · rw [List.filter_cons_of_neg (by simp [hkind]), ih, origins, if_neg (by simp [hkind])]

/-- Misconceptions are read of the submissions. -/
theorem firstMisconception_filter (log : List LogEntry) :
    firstMisconception (log.filter (·.kind == .submitStage)) = firstMisconception log := by
  induction log with
  | nil => rfl
  | cons entry rest ih =>
    by_cases hkind : entry.kind = .submitStage
    · rw [List.filter_cons_of_pos (by simp [hkind]), firstMisconception, ih, firstMisconception]
    · rw [List.filter_cons_of_neg (by simp [hkind]), ih, firstMisconception,
        if_neg (by simp [hkind])]

theorem origins_journal (log : List LogEntry) :
    origins (redaction.journal log) = origins log := by
  rw [← origins_filter, filter_journal rfl, origins_filter]

theorem visitedPath_journal (log : List LogEntry) :
    visitedPath (redaction.journal log) = visitedPath log := by
  simp only [visitedPath, terminalEvent_journal, origins_journal]

theorem diagnosis_journal (log : List LogEntry) (isCorrect : Bool) (repairs : List String) :
    diagnosis (redaction.journal log) isCorrect repairs = diagnosis log isCorrect repairs := by
  have hlast : lastMisconception (redaction.journal log) = lastMisconception log := by
    rw [lastMisconception, ← journal_reverse, ← firstMisconception_filter, filter_journal rfl,
      firstMisconception_filter, lastMisconception]
  rw [diagnosis, hlast, diagnosis]

end Redaction

end AdaptiveQuiz
