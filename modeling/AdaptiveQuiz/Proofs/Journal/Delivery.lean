import AdaptiveQuiz.Journal.Switchboard
import AdaptiveQuiz.Proofs.Journal.Environment
import AdaptiveQuiz.Proofs.Schema.Acceptance
import Mathlib.Data.List.Induction

/-!
# Delivery on a switchboard

The recorders of a switchboard share one environment. Each listens through listeners that stand among
those of the others, and that are found again when its capture is closed. Nothing of this shows: what
the host tells is entered once into the journal of every recorder whose capture is open, in the order
in which it is told, and whatever is done to one recorder makes no difference to another. So a recorder
on a switchboard is as it would be by itself, where it is told about events directly.

## Main definitions

* `SwitchboardCall.IsOrderly`: the host has no listeners of its own, and clocks show integers
* `Event.heard?`: what is entered for an event of the host
* `Solo`, `Solo.follow`, `Solo.after`: a recorder by itself
* `Switchboard.Serves`: every recorder is as it would be by itself

## Main statements

* `Environment.detach_flatMap`: closing a capture removes its listeners and no others
* `Switchboard.deliver_recorders`: one entry for everyone who is told
* `Switchboard.Serves.perform`, `Switchboard.serves_run`: recorders keep being as by themselves
* `Switchboard.delivered_once`
-/

namespace AdaptiveQuiz

open Schema

/-! ## What is entered -/

/-- What is entered into a journal for an event of the host. A change of visibility counts as losing
the focus if the question is hidden by it, and as gaining it if not; other events are not heard. -/
def Event.heard? (event : String) (detail : Fields) : Option Event :=
  let given : Json := if detail = [] then .null else .object detail
  let isHidden := ((Json.object detail).field? "hidden").any Json.isTruthy
  if event = "focus" then some ⟨.focus, given⟩
  else if event = "blur" then some ⟨.blur, given⟩
  else if event = "visibilitychange" then
    if isHidden then some ⟨.blur, .object [("reason", .text "visibility_hidden")]⟩
    else some ⟨.focus, .object [("reason", .text "visibility_visible")]⟩
  else none

/-- The signal that an event carries, if recorders listen to it. -/
def Signal.named? (event : String) : Option Signal := Signal.all.find? (·.eventName == event)

theorem Signal.named?_eq_some {event : String} {signal : Signal} :
    Signal.named? event = some signal ↔ signal.eventName = event := by
  constructor
  · intro h
    simpa [named?] using List.find?_some h
  · rintro rfl
    cases signal <;> simp [named?, all, eventName]

theorem Signal.named?_eq_none {event : String} :
    Signal.named? event = none ↔ ∀ signal : Signal, signal.eventName ≠ event := by
  rw [Option.eq_none_iff_forall_ne_some]
  exact forall_congr' fun signal => not_congr named?_eq_some

/-- What is heard is what a recorder makes of the signal. -/
theorem Event.heard?_eq (event : String) (detail : Fields) :
    Event.heard? event detail = (Signal.named? event).map (·.event detail) := by
  have hpayload : (if detail = [] then Json.null else .object detail) = Signal.payload detail := by
    cases detail <;> rfl
  have hhides : ((Json.object detail).field? "hidden").any Json.isTruthy = Signal.hides detail := by
    rw [Signal.hides, Json.field?]
    cases Fields.get? detail "hidden" <;> rfl
  simp only [heard?, hpayload, hhides]
  cases hnamed : Signal.named? event with
  | some signal =>
    obtain rfl := Signal.named?_eq_some.mp hnamed
    cases signal with
    | focus => simp [Signal.eventName, Signal.event]
    | blur => simp [Signal.eventName, Signal.event]
    | visibility => cases hhidden : Signal.hides detail <;> simp [Signal.eventName, Signal.event, hhidden]
  | none =>
    have hother := Signal.named?_eq_none.mp hnamed
    have hfocus : event ≠ "focus" := (hother .focus).symm
    have hblur : event ≠ "blur" := (hother .blur).symm
    have hvisibility : event ≠ "visibilitychange" := (hother .visibility).symm
    simp [hfocus, hblur, hvisibility]

/-- An event is entered at any time that a clock can show. -/
theorem LogEntry.check_event (event : Event) (now : Int) :
    LogEntry.check (.text event.kind.word) event.payload (.integer now)
      = .accepted (.ofEvent now event) := by
  obtain ⟨kind, payload⟩ := event
  cases kind <;> rfl

/-! ## Listeners of several recorders -/

namespace Environment

variable {environment : Environment} {id other : Nat} {ids : List Nat}

theorem notMem_listenersOf (h : other ≠ id) {event : String} {signal : Signal} :
    (event, Listener.recorder other signal) ∉ listenersOf id := by
  simp [listenersOf, h.symm]

/-- A recorder that listens hears an event through the listener for its signal. -/
theorem filter_listenersOf (id : Nat) (event : String) :
    (listenersOf id).filter (·.1 == event)
      = (Signal.named? event).toList.map fun signal => (event, .recorder id signal) := by
  cases hnamed : Signal.named? event with
  | none =>
    refine List.filter_eq_nil_iff.mpr fun listener hmem => ?_
    obtain ⟨signal, -, rfl⟩ := List.mem_map.mp hmem
    simpa using Signal.named?_eq_none.mp hnamed signal
  | some signal =>
    obtain rfl := Signal.named?_eq_some.mp hnamed
    cases signal <;> simp [listenersOf, Signal.all, Signal.eventName]

/-- Those who hear an event are the recorders that listen, in the order in which they began. -/
theorem hearers_flatMap (h : environment.listeners = ids.flatMap listenersOf) (event : String) :
    environment.hearers event
      = (Signal.named? event).elim [] fun signal => ids.map fun id => .recorder id signal := by
  rw [hearers, h, List.filter_flatMap]
  simp only [filter_listenersOf]
  cases Signal.named? event with
  | none => simp
  | some signal => simp [← List.map_eq_flatMap]

/-- What is searched for behind others is not found among them. -/
theorem foldl_erase_append {α : Type} [BEq α] [LawfulBEq α] {removed before : List α}
    (h : ∀ a ∈ removed, a ∉ before) (rest : List α) :
    removed.foldl List.erase (before ++ rest) = before ++ removed.foldl List.erase rest := by
  induction removed generalizing rest with
  | nil => rfl
  | cons a removed ih =>
    obtain ⟨ha, hremoved⟩ := List.forall_mem_cons.mp h
    rw [List.foldl_cons, List.erase_append_right _ ha, ih hremoved, List.foldl_cons]

theorem foldl_erase_self {α : Type} [BEq α] [LawfulBEq α] (removed rest : List α) :
    removed.foldl List.erase (removed ++ rest) = rest := by
  induction removed with
  | nil => rfl
  | cons a removed ih => rw [List.cons_append, List.foldl_cons, List.erase_cons_head, ih]

/-- Closing a capture removes the listeners of its recorder and leaves those of the others in their
order. -/
theorem detach_flatMap (h : environment.listeners = ids.flatMap listenersOf) (hmem : id ∈ ids) :
    (environment.detach id).listeners = (ids.erase id).flatMap listenersOf := by
  rw [listeners_detach, h]
  clear h
  show (listenersOf id).foldl List.erase (ids.flatMap listenersOf) = _
  induction ids with
  | nil => cases hmem
  | cons other rest ih =>
    rw [List.flatMap_cons]
    by_cases hsame : other = id
    · rw [hsame, foldl_erase_self, List.erase_cons_head]
    · -- the listeners of another recorder stay, and the search goes on behind them
      have hothers : ∀ listener ∈ listenersOf id, listener ∉ listenersOf other := by
        intro listener hlistener
        obtain ⟨signal, -, rfl⟩ := List.mem_map.mp hlistener
        exact notMem_listenersOf (Ne.symm hsame)
      have hrest : id ∈ rest := (List.mem_cons.mp hmem).resolve_left (Ne.symm hsame)
      rw [foldl_erase_append hothers, ih hrest, List.erase_cons_tail (by simpa using hsame),
        List.flatMap_cons]

theorem count_foldl_erase {α : Type} [BEq α] [LawfulBEq α] {removed : List α} {a : α}
    (h : a ∉ removed) (all : List α) : (removed.foldl List.erase all).count a = all.count a := by
  induction removed generalizing all with
  | nil => rfl
  | cons b removed ih =>
    obtain ⟨hne, hremoved⟩ := not_or.mp (List.mem_cons.not.mp h)
    rw [List.foldl_cons, ih hremoved, List.count_erase_of_ne hne]

theorem count_detach_of_ne (environment : Environment) (h : other ≠ id) (event : String)
    (signal : Signal) :
    (environment.detach id).listeners.count (event, .recorder other signal)
      = environment.listeners.count (event, .recorder other signal) :=
  count_foldl_erase (notMem_listenersOf h) environment.listeners

end Environment

/-! ## Recorders by themselves -/

/-- The calls that concern recorders alone: the host has no listeners of its own, and clocks show
integers. -/
def SwitchboardCall.IsOrderly : SwitchboardCall → Prop
  | .enter _ _ => True
  | .leave _ => True
  | .log _ _ _ => True
  | .setClock _ reading => ∃ n, reading = .integer n
  | .advance _ _ => True
  | .emit _ _ => True
  | .listen _ _ => False
  | .unlisten _ _ => False

/-- Whether a call may make a difference to a recorder. What the host tells is told to all. -/
def SwitchboardCall.concerns (id : Nat) : SwitchboardCall → Bool
  | .enter other _ => other == id
  | .leave other => other == id
  | .log other _ _ => other == id
  | .setClock other _ => other == id
  | .advance other _ => other == id
  | .emit _ _ => true
  | .listen _ _ => true
  | .unlisten _ _ => true

/-- A recorder by itself: what its clock shows, whether its capture is open and attached to the
environment, and its journal. -/
structure Solo where
  clock : Int
  capture : Option Bool
  journal : List LogEntry

namespace Solo

/-- A recorder with nothing to tell, whose clock shows zero. -/
def idle : Solo := ⟨0, none, []⟩

/-- Whether the recorder listens to the host. -/
def listens (solo : Solo) : Bool := solo.capture == some true

/-- What the clock of a recorder shows after a call. -/
def clockAfter (id : Nat) (solo : Solo) : SwitchboardCall → Int
  | .setClock other (.integer n) => if other = id then n else solo.clock
  | .advance other milliseconds => if other = id then solo.clock + milliseconds else solo.clock
  | _ => solo.clock

/-- The capture of a recorder after a call. A capture that is open cannot be opened again. -/
def captureAfter (id : Nat) (solo : Solo) : SwitchboardCall → Option Bool
  | .enter other attached => if other = id then solo.capture.or (some attached) else solo.capture
  | .leave other => if other = id then none else solo.capture
  | _ => solo.capture

/-- What a call enters into the journal of a recorder. -/
def entries (id : Nat) (solo : Solo) : SwitchboardCall → List LogEntry
  | .enter other _ =>
    if other = id ∧ solo.capture = none then [⟨.mount, .null, solo.clock⟩] else []
  | .log other kind payload =>
    if other = id then (LogEntry.check kind payload (.integer solo.clock)).value?.toList else []
  | .emit event detail =>
    if solo.listens then
      ((Event.heard? event detail).map fun heard => ⟨heard.kind, heard.payload, solo.clock⟩).toList
    else []
  | _ => []

/-- A recorder after a call. -/
def follow (id : Nat) (solo : Solo) (call : SwitchboardCall) : Solo :=
  ⟨solo.clockAfter id call, solo.captureAfter id call, solo.journal ++ solo.entries id call⟩

/-- A recorder after a sequence of calls. -/
def after (id : Nat) (calls : List SwitchboardCall) : Solo := calls.foldl (follow id) idle

/-- A recorder by itself as one with a clock of any kind. -/
def channel (solo : Solo) : Channel where
  recorder := ⟨solo.journal, solo.capture.elim .closed .opened⟩
  clock := .integer solo.clock

variable {id : Nat} {solo : Solo} {call : SwitchboardCall}

theorem after_snoc (id : Nat) (calls : List SwitchboardCall) (call : SwitchboardCall) :
    after id (calls ++ [call]) = (after id calls).follow id call := by
  simp [after]

theorem follow_of_entries_nil (hclock : solo.clockAfter id call = solo.clock)
    (hcapture : solo.captureAfter id call = solo.capture) (hentries : solo.entries id call = []) :
    solo.follow id call = solo := by
  rw [follow, hclock, hcapture, hentries, List.append_nil]

/-- A call that is about another recorder makes no difference. -/
theorem follow_of_not_concerns (h : call.concerns id = false) : solo.follow id call = solo := by
  cases call with
  | emit event detail => cases h
  | listen event host => cases h
  | unlisten event host => cases h
  | setClock other reading =>
    have hne : other ≠ id := beq_eq_false_iff_ne.mp h
    refine follow_of_entries_nil ?_ rfl rfl
    cases reading <;> simp [clockAfter, hne]
  | _ other =>
    have hne : other ≠ id := beq_eq_false_iff_ne.mp h
    refine follow_of_entries_nil ?_ ?_ ?_ <;> simp [clockAfter, captureAfter, entries, hne]

/-- So calls about other recorders may as well be left out. -/
theorem after_filter_concerns (id : Nat) (calls : List SwitchboardCall) :
    after id (calls.filter (·.concerns id)) = after id calls := by
  induction calls using List.reverseRecOn with
  | nil => rfl
  | append_singleton calls call ih =>
    rw [List.filter_append, after_snoc]
    cases hconcerns : call.concerns id with
    | true => rw [List.filter_cons_of_pos hconcerns, List.filter_nil, after_snoc, ih]
    | false =>
      rw [List.filter_cons_of_neg (by rw [hconcerns]; exact Bool.false_ne_true), List.filter_nil,
        List.append_nil, ih, follow_of_not_concerns hconcerns]

end Solo

/-! ## One call -/

/-- A channel with one entry more. -/
def Channel.write (channel : Channel) (entry : LogEntry) : Channel :=
  { channel with recorder := channel.recorder.append entry }

namespace Switchboard

variable {board : Switchboard} {id : Nat} {clocks : Nat → Int} {solo : Nat → Solo}

theorem log_of_check {kind payload : Json} {entry : LogEntry}
    (h : LogEntry.check kind payload (board.channels id).clock = .accepted entry) :
    board.log id kind payload = .ok (board.modify id (·.write entry), entry) := by
  rw [log, h]
  rfl

/-- With an integer on the clock, nothing keeps an event from being entered. -/
theorem note_of_integer {now : Int} (h : (board.channels id).clock = .integer now) (event : Event) :
    board.note id event = .ok (board.modify id (·.write (.ofEvent now event))) := by
  rw [note, log_of_check (by rw [h]; exact LogEntry.check_event event now)]
  rfl

/-- Closing a capture leaves the other recorders alone, and their listeners. -/
theorem leave_of_ne (board : Switchboard) {other : Nat} (h : other ≠ id) :
    (board.leave id).channels other = board.channels other
      ∧ ∀ event signal, (board.leave id).environment.listeners.count (event, .recorder other signal)
        = board.environment.listeners.count (event, .recorder other signal) := by
  have hclosed : (board.setCapture id .closed).channels other = board.channels other :=
    channels_modify_of_ne _ _ h
  unfold leave
  split
  · split
    · exact ⟨hclosed, board.environment.count_detach_of_ne h⟩
    · exact ⟨hclosed, fun _ _ => rfl⟩
  · exact ⟨rfl, fun _ _ => rfl⟩
  · exact ⟨rfl, fun _ _ => rfl⟩

/-- Each of the recorders that are told about a signal makes one entry, and the others make none. -/
theorem deliver_recorders {ids : List Nat} (hnodup : ids.Nodup)
    (hclocks : ∀ id, (board.channels id).clock = .integer (clocks id)) (signal : Signal)
    (detail : Fields) :
    ∃ told, deliver detail (ids.map fun id => .recorder id signal) board = (told, .ok ())
      ∧ told.environment = board.environment
      ∧ ∀ id, told.channels id = if id ∈ ids
        then (board.channels id).write (.ofEvent (clocks id) (signal.event detail))
        else board.channels id := by
  induction ids generalizing board with
  | nil => exact ⟨board, rfl, rfl, fun id => by simp⟩
  | cons id rest ih =>
    obtain ⟨hfirst, hrest⟩ := List.nodup_cons.mp hnodup
    let noted := board.modify id (·.write (.ofEvent (clocks id) (signal.event detail)))
    have htell : board.tell detail (.recorder id signal) = (noted, .ok ()) := by
      rw [tell, note_of_integer (hclocks id)]
    have hclocks' : ∀ other, (noted.channels other).clock = .integer (clocks other) := by
      intro other
      rw [← hclocks other]
      simp only [noted, modify]
      split <;> rfl
    obtain ⟨told, hdeliver, henvironment, hchannels⟩ := ih hrest hclocks'
    refine ⟨told, ?_, henvironment, fun other => ?_⟩
    · rw [List.map_cons, deliver, htell]
      exact hdeliver
    · rw [hchannels other]
      by_cases hsame : other = id
      · rw [hsame, if_neg hfirst, if_pos (List.mem_cons_self ..)]
        exact channels_modify_self ..
      · rw [channels_modify_of_ne _ _ hsame]
        simp [hsame]

/-- Every recorder is as it would be by itself, and the listeners are those of the recorders that
listen, in the order in which they began. -/
structure Serves (board : Switchboard) (solo : Nat → Solo) : Prop where
  channels_eq : ∀ id, board.channels id = (solo id).channel
  listeners : ∃ ids : List Nat, ids.Nodup ∧ (∀ id, id ∈ ids ↔ (solo id).listens = true)
    ∧ board.environment.listeners = ids.flatMap Environment.listenersOf

namespace Serves

variable {after : Switchboard} {call : SwitchboardCall}

theorem captureOf_eq (h : board.Serves solo) (id : Nat) :
    board.captureOf id = (solo id).capture.elim .closed .opened := by
  rw [captureOf, h.channels_eq]
  rfl

theorem listens_iff (h : board.Serves solo) (id : Nat) :
    (solo id).listens = true ↔ board.captureOf id = .opened true := by
  rw [h.captureOf_eq, Solo.listens]
  cases (solo id).capture <;> simp

theorem clock_eq (h : board.Serves solo) (id : Nat) :
    (board.channels id).clock = .integer (solo id).clock := by
  rw [h.channels_eq]
  rfl

/-- A call that is about one recorder has to be looked at on its channel only. -/
theorem channels_follow (h : board.Serves solo)
    (hself : after.channels id = ((solo id).follow id call).channel)
    (hothers : ∀ other, other ≠ id → after.channels other = board.channels other
      ∧ call.concerns other = false) (other : Nat) :
    after.channels other = ((solo other).follow other call).channel := by
  by_cases hsame : other = id
  · rw [hsame, hself]
  · obtain ⟨hchannel, hconcerns⟩ := hothers other hsame
    rw [hchannel, h.channels_eq, Solo.follow_of_not_concerns hconcerns]

/-- Where no capture is opened or closed, the listeners stay. -/
theorem steady (h : board.Serves solo)
    (hchannels : ∀ id, after.channels id = ((solo id).follow id call).channel)
    (henvironment : after.environment = board.environment)
    (hcapture : ∀ id, (solo id).captureAfter id call = (solo id).capture) :
    after.Serves fun id => (solo id).follow id call := by
  obtain ⟨ids, hnodup, hmem, hlisteners⟩ := h.listeners
  refine ⟨hchannels, ids, hnodup, fun id => ?_, by rw [henvironment, hlisteners]⟩
  rw [hmem id, Solo.listens, Solo.listens, Solo.follow, hcapture id]

/-- A capture that is open already is not opened again. -/
theorem perform_enter_of_capturing (h : board.Serves solo) (hopen : (solo id).capture ≠ none)
    (attached : Bool) :
    board.perform (.enter id attached) = (board, .failed .alreadyCapturing) := by
  obtain ⟨attached', hcapture⟩ := Option.ne_none_iff_exists'.mp hopen
  have hnot : (board.captureOf id != .closed) = true := by
    rw [h.captureOf_eq, hcapture]
    rfl
  simp only [perform, Switchboard.enter, hnot, if_true, SwitchboardReply.ofExcept]

theorem enter_of_capturing (h : board.Serves solo) (hopen : (solo id).capture ≠ none)
    (attached : Bool) : board.Serves fun other => (solo other).follow other (.enter id attached) := by
  have hcapture : ∀ other, (solo other).captureAfter other (.enter id attached)
      = (solo other).capture := by
    intro other
    by_cases hother : id = other
    · obtain ⟨attached', hsome⟩ := Option.ne_none_iff_exists'.mp hopen
      rw [← hother, Solo.captureAfter, if_pos rfl, hsome]
      rfl
    · exact if_neg hother
  have hself : board.channels id = ((solo id).follow id (.enter id attached)).channel := by
    rw [h.channels_eq, Solo.follow_of_entries_nil rfl (hcapture id)
      (if_neg fun hboth => hopen hboth.2)]
  exact h.steady (h.channels_follow hself fun other hother =>
    ⟨rfl, beq_eq_false_iff_ne.mpr hother.symm⟩) rfl hcapture

/-- A capture that is closed is opened: the first entry is made, and the listeners are added behind
the others. -/
theorem enter (h : board.Serves solo) (hclosed : (solo id).capture = none) (attached : Bool) :
    (board.perform (.enter id attached)).2 = .done
      ∧ (board.perform (.enter id attached)).1.Serves
        fun other => (solo other).follow other (.enter id attached) := by
  let mounted := board.modify id (·.write (.ofEvent (solo id).clock Recorder.mounted))
  let opened := mounted.setCapture id (.opened attached)
  have hperform : board.perform (.enter id attached)
      = (if attached then { opened with environment := opened.environment.attach id } else opened,
        .done) := by
    have hidle : (board.captureOf id != .closed) = false := by
      rw [h.captureOf_eq, hclosed]
      rfl
    simp only [Switchboard.perform, Switchboard.enter, hidle, note_of_integer (h.clock_eq id)]
    rfl
  have hfollow : (solo id).follow id (.enter id attached)
      = ⟨(solo id).clock, some attached,
        (solo id).journal ++ [⟨.mount, .null, (solo id).clock⟩]⟩ := by
    simp [Solo.follow, Solo.clockAfter, Solo.captureAfter, Solo.entries, hclosed]
  have hconcerns : ∀ other, other ≠ id →
      (SwitchboardCall.enter id attached).concerns other = false :=
    fun other hother => beq_eq_false_iff_ne.mpr hother.symm
  have hchannels : ∀ other, opened.channels other
      = ((solo other).follow other (.enter id attached)).channel := by
    refine h.channels_follow ?_ fun other hother => ⟨?_, hconcerns other hother⟩
    · show ((board.modify id _).modify id _).channels id = _
      rw [hfollow, channels_modify_self, channels_modify_self, h.channels_eq]
      rfl
    · show ((board.modify id _).modify id _).channels other = _
      rw [channels_modify_of_ne _ _ hother, channels_modify_of_ne _ _ hother]
  have hothers : ∀ other, other ≠ id →
      ((solo other).follow other (.enter id attached)).listens = (solo other).listens :=
    fun other hother => by rw [Solo.follow_of_not_concerns (hconcerns other hother)]
  obtain ⟨ids, hnodup, hmem, hlisteners⟩ := h.listeners
  have hnew : id ∉ ids := by
    rw [hmem, Solo.listens, hclosed]
    exact Bool.false_ne_true
  rw [hperform]
  refine ⟨rfl, ?_⟩
  cases attached with
  | true =>
    have hids : (ids ++ [id]).Nodup := by
      rw [← List.concat_eq_append]
      exact hnodup.concat hnew
    refine ⟨hchannels, ids ++ [id], hids, fun other => ?_, ?_⟩
    · by_cases hother : other = id
      · simp [hother, hfollow, Solo.listens]
      · simp [hothers other hother, hother, hmem]
    · show (board.environment.attach id).listeners = _
      rw [Environment.listeners_attach, hlisteners, List.flatMap_append, List.flatMap_singleton]
  | false =>
    refine ⟨hchannels, ids, hnodup, fun other => ?_, hlisteners⟩
    by_cases hother : other = id
    · rw [hother, hfollow]
      exact iff_of_false hnew Bool.false_ne_true
    · rw [hmem, hothers other hother]

/-- A capture is closed: its listeners are removed, and those of the others stay. -/
theorem leave (h : board.Serves solo) (id : Nat) :
    (board.leave id).Serves fun other => (solo other).follow other (.leave id) := by
  have hfollow : (solo id).follow id (.leave id)
      = ⟨(solo id).clock, none, (solo id).journal⟩ := by
    simp [Solo.follow, Solo.clockAfter, Solo.captureAfter, Solo.entries]
  have hconcerns : ∀ other, other ≠ id → (SwitchboardCall.leave id).concerns other = false :=
    fun other hother => beq_eq_false_iff_ne.mpr hother.symm
  cases hcapture : (solo id).capture with
  | none =>
    have hleave : board.leave id = board := by
      rw [Switchboard.leave, h.captureOf_eq, hcapture]
      rfl
    rw [hleave]
    have hself : board.channels id = ((solo id).follow id (.leave id)).channel := by
      rw [h.channels_eq, hfollow, ← hcapture]
    refine h.steady (h.channels_follow hself fun other hother => ⟨rfl, hconcerns other hother⟩) rfl
      fun other => ?_
    by_cases hother : id = other
    · rw [← hother, Solo.captureAfter, if_pos rfl, hcapture]
    · exact if_neg hother
  | some attached =>
    let closed := board.setCapture id .closed
    have hleave : board.leave id
        = if attached then { closed with environment := closed.environment.detach id }
          else closed := by
      rw [Switchboard.leave, h.captureOf_eq, hcapture]
      rfl
    have hchannels : ∀ other, closed.channels other
        = ((solo other).follow other (.leave id)).channel := by
      refine h.channels_follow ?_ fun other hother => ⟨?_, hconcerns other hother⟩
      · show (board.modify id _).channels id = _
        rw [hfollow, channels_modify_self, h.channels_eq]
        rfl
      · exact channels_modify_of_ne _ _ hother
    have hothers : ∀ other, other ≠ id →
        ((solo other).follow other (.leave id)).listens = (solo other).listens :=
      fun other hother => by rw [Solo.follow_of_not_concerns (hconcerns other hother)]
    obtain ⟨ids, hnodup, hmem, hlisteners⟩ := h.listeners
    rw [hleave]
    cases attached with
    | true =>
      have hheard : id ∈ ids := by
        rw [hmem, Solo.listens, hcapture]
        rfl
      refine ⟨hchannels, ids.erase id, hnodup.erase id, fun other => ?_,
        Environment.detach_flatMap hlisteners hheard⟩
      rw [hnodup.mem_erase_iff]
      by_cases hother : other = id
      · simp [hother, hfollow, Solo.listens]
      · simp [hothers other hother, hother, hmem]
    | false =>
      refine ⟨hchannels, ids, hnodup, fun other => ?_, hlisteners⟩
      rw [hmem]
      by_cases hother : other = id
      · rw [hother, hfollow, Solo.listens, hcapture]
        rfl
      · rw [hothers other hother]

theorem log (h : board.Serves solo) (id : Nat) (kind payload : Json) :
    (board.perform (.log id kind payload)).1.Serves
      fun other => (solo other).follow other (.log id kind payload) := by
  cases hcheck : LogEntry.check kind payload (board.channels id).clock with
  | accepted entry =>
    have hperform : (board.perform (.log id kind payload)).1 = board.modify id (·.write entry) := by
      simp only [Switchboard.perform, log_of_check hcheck]
    rw [hperform]
    rw [h.clock_eq] at hcheck
    refine h.steady (h.channels_follow ?_ fun other hother =>
      ⟨channels_modify_of_ne _ _ hother, beq_eq_false_iff_ne.mpr hother.symm⟩) rfl fun _ => rfl
    rw [channels_modify_self, h.channels_eq, Solo.follow, Solo.entries, if_pos rfl, hcheck]
    rfl
  | rejected first others =>
    have hperform : (board.perform (.log id kind payload)).1 = board := by
      simp only [Switchboard.perform, Switchboard.log, hcheck]
    rw [hperform]
    rw [h.clock_eq] at hcheck
    have hself : board.channels id = ((solo id).follow id (.log id kind payload)).channel := by
      rw [h.channels_eq, Solo.follow_of_entries_nil rfl rfl]
      rw [Solo.entries, if_pos rfl, hcheck]
      rfl
    exact h.steady (h.channels_follow hself fun other hother =>
      ⟨rfl, beq_eq_false_iff_ne.mpr hother.symm⟩) rfl fun _ => rfl

/-- What the host tells is entered once by everyone who listens. -/
theorem emit (h : board.Serves solo) (event : String) (detail : Fields) :
    (board.perform (.emit event detail)).2 = .done
      ∧ (board.perform (.emit event detail)).1.Serves
        fun id => (solo id).follow id (.emit event detail) := by
  obtain ⟨ids, hnodup, hmem, hlisteners⟩ := h.listeners
  have hhearers := Environment.hearers_flatMap hlisteners event
  cases hnamed : Signal.named? event with
  | none =>
    rw [hnamed] at hhearers
    have hperform : board.perform (.emit event detail) = (board, .done) := by
      simp only [Switchboard.perform, Switchboard.emit, hhearers, Option.elim_none, deliver]
      rfl
    rw [hperform]
    refine ⟨rfl, h.steady (fun id => ?_) rfl fun _ => rfl⟩
    -- nobody hears it
    rw [h.channels_eq, Solo.follow_of_entries_nil rfl rfl]
    simp [Solo.entries, Event.heard?_eq, hnamed]
  | some signal =>
    rw [hnamed] at hhearers
    obtain ⟨told, hdeliver, henvironment, hchannels⟩ :=
      deliver_recorders hnodup h.clock_eq signal detail
    have hperform : board.perform (.emit event detail) = (told, .done) := by
      simp only [Switchboard.perform, Switchboard.emit, hhearers, Option.elim_some, hdeliver]
      rfl
    rw [hperform]
    refine ⟨rfl, h.steady (fun id => ?_) henvironment fun _ => rfl⟩
    rw [hchannels id, h.channels_eq]
    cases hlistens : (solo id).listens with
    | true =>
      rw [if_pos ((hmem id).mpr hlistens), Solo.follow, Solo.entries, if_pos hlistens,
        Event.heard?_eq, hnamed]
      rfl
    | false =>
      rw [if_neg (by rw [hmem, hlistens]; exact Bool.false_ne_true),
        Solo.follow_of_entries_nil rfl rfl]
      simp [Solo.entries, hlistens]

/-- Recorders keep being as they would be by themselves. -/
theorem perform (h : board.Serves solo) (horderly : call.IsOrderly) :
    (board.perform call).1.Serves fun id => (solo id).follow id call := by
  cases call with
  | enter id attached =>
    by_cases hclosed : (solo id).capture = none
    · exact (h.enter hclosed attached).2
    · rw [h.perform_enter_of_capturing hclosed]
      exact h.enter_of_capturing hclosed attached
  | leave id => exact h.leave id
  | log id kind payload => exact h.log id kind payload
  | setClock id reading =>
    obtain ⟨now, rfl⟩ := horderly
    show (board.setClock id _).Serves _
    refine h.steady (h.channels_follow ?_ fun other hother =>
      ⟨channels_modify_of_ne _ _ hother, beq_eq_false_iff_ne.mpr hother.symm⟩) rfl fun _ => rfl
    rw [setClock, channels_modify_self, h.channels_eq]
    simp [Solo.follow, Solo.clockAfter, Solo.captureAfter, Solo.entries, Solo.channel]
  | advance id milliseconds =>
    show (board.advance id milliseconds).Serves _
    refine h.steady (h.channels_follow ?_ fun other hother =>
      ⟨channels_modify_of_ne _ _ hother, beq_eq_false_iff_ne.mpr hother.symm⟩) rfl fun _ => rfl
    rw [advance, channels_modify_self, h.channels_eq]
    simp [Solo.follow, Solo.clockAfter, Solo.captureAfter, Solo.entries, Solo.channel,
      Channel.advance]
  | emit event detail => exact (h.emit event detail).2
  | listen event host => exact horderly.elim
  | unlisten event host => exact horderly.elim

end Serves

/-! ## Runs -/

theorem serves_idle : idle.Serves fun _ => .idle where
  channels_eq _ := rfl
  listeners := ⟨[], List.nodup_nil, fun _ => iff_of_false List.not_mem_nil Bool.false_ne_true, rfl⟩

theorem run_snoc (board : Switchboard) (calls : List SwitchboardCall) (call : SwitchboardCall) :
    (board.run (calls ++ [call])).1 = ((board.run calls).1.perform call).1 := by
  induction calls generalizing board with
  | nil => rfl
  | cons first rest ih => exact ih (board.perform first).1

theorem serves_run {calls : List SwitchboardCall} (horderly : ∀ call ∈ calls, call.IsOrderly) :
    (idle.run calls).1.Serves fun id => .after id calls := by
  induction calls using List.reverseRecOn with
  | nil => exact serves_idle
  | append_singleton calls call ih =>
    obtain ⟨hbefore, hcall⟩ := List.forall_mem_append.mp horderly
    rw [run_snoc]
    simp only [Solo.after_snoc]
    exact (ih hbefore).perform (hcall call (List.mem_singleton_self _))

/-- Whatever recorders that share an environment are used for, in any order, each of them is as it
would be by itself, whatever is done to the others. What the host tells is entered once by everyone
whose capture is open and attached, and by nobody else; it is never refused. There are three listeners
for every such capture. Closing a capture leaves the others alone, and one that is open is not opened
again. -/
theorem delivered_once {calls : List SwitchboardCall} (horderly : ∀ call ∈ calls, call.IsOrderly) :
    let board := (idle.run calls).1
    (∀ id, board.channels id = (Solo.after id calls).channel
      ∧ board.channels id = (idle.run (calls.filter (·.concerns id))).1.channels id)
    ∧ (∀ event detail, (board.perform (.emit event detail)).2 = .done
      ∧ ∀ id, (board.perform (.emit event detail)).1.journal id = board.journal id
        ++ if board.captureOf id = .opened true then
            ((Event.heard? event detail).map fun heard =>
              ⟨heard.kind, heard.payload, (Solo.after id calls).clock⟩).toList
          else [])
    ∧ (∃ ids : List Nat, ids.Nodup ∧ (∀ id, id ∈ ids ↔ board.captureOf id = .opened true)
      ∧ board.environment.count none = 3 * ids.length)
    ∧ (∀ id other, other ≠ id → (board.leave id).channels other = board.channels other
      ∧ ∀ event signal, (board.leave id).environment.listeners.count (event, .recorder other signal)
        = board.environment.listeners.count (event, .recorder other signal))
    ∧ (∀ id attached, board.captureOf id ≠ .closed →
      board.perform (.enter id attached) = (board, .failed .alreadyCapturing)) := by
  intro board
  have hserves : board.Serves fun id => .after id calls := serves_run horderly
  refine ⟨fun id => ⟨hserves.channels_eq id, ?_⟩, fun event detail => ?_, ?_,
    fun id other hother => board.leave_of_ne hother, fun id attached hopen => ?_⟩
  · have hfiltered : (idle.run (calls.filter (·.concerns id))).1.Serves
        fun other => .after other (calls.filter (·.concerns id)) :=
      serves_run fun call hcall => horderly call (List.mem_filter.mp hcall).1
    rw [hserves.channels_eq, hfiltered.channels_eq, Solo.after_filter_concerns]
  · obtain ⟨hdone, hemitted⟩ := hserves.emit event detail
    refine ⟨hdone, fun id => ?_⟩
    have hentries : (Solo.after id calls).entries id (.emit event detail)
        = if board.captureOf id = .opened true then
            ((Event.heard? event detail).map fun heard =>
              ⟨heard.kind, heard.payload, (Solo.after id calls).clock⟩).toList
          else [] := by
      simp only [Solo.entries, hserves.listens_iff]
    rw [journal, hemitted.channels_eq, journal, hserves.channels_eq, ← hentries]
    rfl
  · obtain ⟨ids, hnodup, hmem, hlisteners⟩ := hserves.listeners
    refine ⟨ids, hnodup, fun id => (hmem id).trans (hserves.listens_iff id), ?_⟩
    rw [Environment.count, hlisteners, List.length_flatMap]
    simp [Environment.listenersOf, Signal.all, Nat.mul_comm]
  · refine hserves.perform_enter_of_capturing (fun hnone => hopen ?_) attached
    rw [hserves.captureOf_eq, hnone]
    rfl

/-- Two recorders listen, and the first one stops. -/
def shift : List SwitchboardCall :=
  [.enter 0 true, .enter 1 true, .emit "blur" [], .log 1 (.text "click") .null, .leave 0]

/-- Afterwards only the second one hears that the question is hidden. -/
theorem shift_delivered :
    let board := (idle.run shift).1
    let told := (board.perform (.emit "visibilitychange" [("hidden", .bool true)])).1
    told.journal 0 = board.journal 0
    ∧ told.journal 1
      = board.journal 1 ++ [⟨.blur, .object [("reason", .text "visibility_hidden")], 0⟩] := by
  have horderly : ∀ call ∈ shift, call.IsOrderly := by
    simp [shift, SwitchboardCall.IsOrderly]
  obtain ⟨-, hdelivered, -⟩ := delivered_once horderly
  obtain ⟨-, htold⟩ := hdelivered "visibilitychange" [("hidden", .bool true)]
  exact ⟨htold 0, htold 1⟩

end Switchboard

end AdaptiveQuiz
