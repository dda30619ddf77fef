import ManagedFaults.Proofs.RingBuffer
import ManagedFaults.Proofs.Trap.Reentry

/-!
# The history of traps

On one thread signals are handled one after the other, each with all the calls that the chained
handlers make on the way (`HandlesAll`).  Every handler logs one event of its own, after those of
the handlers that ran below it.  So the events of a run form a history (`Chronicle`), of which the
log keeps the last ones, and whose calls are numbered from zero on (`ProcessState.Remembers`).
-/

namespace ManagedFaults

/-! ## What is remembered of a history -/

/-- The last events of a history, as many as the log has room for. -/
def recentEvents (history : List BelowStep) : List TrapRecord :=
  (history.map (·.event)).drop (history.length - trapLogSlots)

lemma length_recentEvents (history : List BelowStep) :
    (recentEvents history).length = min history.length trapLogSlots := by
  unfold recentEvents
  rw [List.length_drop, List.length_map]
  omega

/-- The log keeps the last of the events that it takes. -/
lemma holds_recentEvents {log : RingBuffer TrapRecord trapLogSlots} {history : List BelowStep}
    (h : log = (history.map (·.event)).foldl RingBuffer.push RingBuffer.empty) :
    log.Holds (recentEvents history) := by
  have hholds := RingBuffer.holds_foldl_push (n := trapLogSlots) (by decide)
    (history.map (·.event))
  rw [List.length_map] at hholds
  rw [h]
  exact hholds

/-- The last event of a history is the last one in the log. -/
lemma getLast?_recentEvents (history : List BelowStep) (step : BelowStep) :
    (recentEvents (history ++ [step])).getLast? = some step.event := by
  unfold recentEvents
  rw [List.map_append, List.map_singleton, List.drop_append_of_le_length ?_]
  · exact List.getLast?_concat
  · have hslots : 0 < trapLogSlots := by decide
    rw [List.length_append, List.length_singleton, List.length_map]
    omega

/-- A history in which foreign code has not written an event itself is one of calls alone. -/
lemma callEvents_of_all_called {history : List BelowStep}
    (h : ∀ step ∈ history, step.callEvent?.isSome) :
    callEvents history = history.map (·.event) := by
  induction history with
  | nil => rfl
  | cons step history ih =>
    have hrest : callEvents history = history.map (·.event) :=
      ih fun step hstep => h step (List.mem_cons_of_mem _ hstep)
    have hstep := h step List.mem_cons_self
    cases step with
    | wrote event => simp [BelowStep.callEvent?] at hstep
    | called inner event => exact congrArg (event :: ·) hrest

namespace ProcessState

/-- The log and the numbers of events are those of a history that began with an empty log, and
nobody else is at the log. -/
structure Remembers (history : List BelowStep) (t : ProcessState) : Prop where
  unlocked : t.logLocked = false
  log_eq : t.log = (history.map (·.event)).foldl RingBuffer.push RingBuffer.empty
  sequence_eq : t.sequence = UInt64.ofNat (callEvents history).length
  numbers_eq : (callEvents history).map (·.sequence) =
    (List.range (callEvents history).length).map UInt64.ofNat

namespace Remembers

variable {sys : Dispatcher} {room : Nat} {history steps : List BelowStep} {s t : ProcessState}

lemma start (hunlocked : s.logLocked = false) (hlog : s.log = RingBuffer.empty)
    (hsequence : s.sequence = 0) : s.Remembers [] :=
  ⟨hunlocked, hlog, hsequence, rfl⟩

/-- What concerns neither the log nor the numbers does not concern the history. -/
lemma congr (h : s.Remembers history) (hlocked : t.logLocked = s.logLocked) (hlog : t.log = s.log)
    (hsequence : t.sequence = s.sequence) : t.Remembers history :=
  ⟨hlocked.trans h.unlocked, hlog.trans h.log_eq, hsequence.trans h.sequence_eq, h.numbers_eq⟩

/-- Code that runs below an active handler makes the history longer by its steps. -/
lemma append (h : s.Remembers history) (hsteps : RunsBelow sys room s steps t) :
    t.Remembers (history ++ steps) := by
  refine ⟨hsteps.locked_eq.trans h.unlocked, ?_, ?_, ?_⟩
  · rw [hsteps.log_eq, h.unlocked, h.log_eq, List.map_append, List.foldl_append]
    rfl
  · rw [hsteps.sequence_eq, h.sequence_eq, callEvents_append, List.length_append,
      UInt64.ofNat_add]
  · -- the calls among the steps count on from those before
    rw [callEvents_append, List.map_append, List.length_append, List.range_add, List.map_append,
      h.numbers_eq, hsteps.numbers_eq, h.sequence_eq, List.map_map]
    refine congrArg _ (List.map_congr_left fun k _ => ?_)
    exact (UInt64.ofNat_add _ _).symm

/-- So does a handler by its own event. -/
lemma concat (h : s.Remembers history) {call : SignalCall} {event : TrapRecord}
    (hnumber : event.sequence = s.sequence) :
    (s.logged event).Remembers (history ++ [.called call event]) := by
  have hcalls : callEvents (history ++ [.called call event]) = callEvents history ++ [event] :=
    callEvents_append _ _
  refine ⟨h.unlocked, ?_, ?_, ?_⟩
  · have hlog : (s.logged event).log = if s.logLocked then s.log else s.log.push event := rfl
    rw [hlog, h.unlocked, List.map_append, List.foldl_append, ← h.log_eq]
    rfl
  · rw [hcalls, List.length_append, UInt64.ofNat_add, ← h.sequence_eq]
    rfl
  · rw [hcalls, List.length_append, List.length_singleton, List.range_succ, List.map_append,
      List.map_append, h.numbers_eq, List.map_singleton, List.map_singleton, hnumber,
      h.sequence_eq]

/-- The log holds the last events. -/
lemma holds (h : t.Remembers history) : t.log.Holds (recentEvents history) :=
  holds_recentEvents h.log_eq

/-- If only calls were logged, the numbers in the log are consecutive, and the last one is that of
the last call. -/
lemma recent_numbers (h : t.Remembers history)
    (hcalled : ∀ step ∈ history, step.callEvent?.isSome) :
    (recentEvents history).map (·.sequence) =
      (List.range (min history.length trapLogSlots)).map fun k =>
        UInt64.ofNat (history.length - min history.length trapLogSlots + k) := by
  have hnumbers := h.numbers_eq
  rw [callEvents_of_all_called hcalled, List.length_map] at hnumbers
  unfold recentEvents
  rw [List.map_drop, hnumbers]
  refine List.ext_getElem ?_ fun k _ _ => ?_
  · simp only [List.length_drop, List.length_map, List.length_range]
    omega
  · simp only [List.getElem_drop, List.getElem_map, List.getElem_range]
    congr 1
    omega

end Remembers

end ProcessState

/-! ## Handlers that return -/

namespace SignalCall

variable {call : SignalCall} {m t : ProcessState} {r : Bool × Option Context}

/-- The event that the call logs when it has its verdict in state `u`. -/
def event (call : SignalCall) (m : ProcessState) (cl : Classification) (u : ProcessState) :
    TrapRecord :=
  ownEvent m.thread call.info (call.registersAfter u) cl u.sequence

/-- Applying a disposition, if the thread goes on, concerns neither the log nor the numbers or the
latch, and clears the mark. -/
lemma kept_of_applied {context : Option Context} {cl : Classification}
    (h : Applied call context cl m (.ok r t)) :
    t.logLocked = m.logLocked ∧ t.log = m.log ∧ t.sequence = m.sequence ∧ t.latch = m.latch ∧
      t.os.mark = {} := by
  cases h <;> exact ⟨rfl, rfl, rfl, rfl, rfl⟩

/-- An outermost handler that returns has found a verdict. -/
lemma verdict_of_returned (hroom : call.room < call.sp)
    (houter : (m.os.mark.enter call.sp).1 = false) (hreturned : call.run.run m = .ok r t) :
    ∃ cl u steps, call.verdict.run m = .ok cl u ∧
      RunsBelow call.sys call.room (m.entered call.sp) steps u ∧
      Applied call (call.registersAfter u) cl (u.logged (call.event m cl u)) (.ok r t) := by
  cases hverdict : call.verdict.run m with
  | error e u =>
    rw [run_of_verdict_error hverdict] at hreturned
    simp at hreturned
  | ok cl u =>
    have htraced := verdict_traced hroom houter
    rw [hverdict] at htraced
    obtain ⟨steps, hsteps⟩ := htraced
    refine ⟨cl, u, steps, rfl, hsteps, ?_⟩
    rw [← hreturned]
    exact applied_of_verdict hroom houter hverdict

end SignalCall

/-! ## Runs -/

/-- Signals are handled one after the other on one thread, and every handler returns.  In between
anything may happen that concerns neither the log and who is at it nor the numbers, the latch or the
mark. -/
inductive HandlesAll (sys : Dispatcher) (s : ProcessState) : List SignalCall → ProcessState → Prop
  | start : HandlesAll sys s [] s
  | meanwhile {calls : List SignalCall} {m t : ProcessState} (before : HandlesAll sys s calls m)
      (locked : t.logLocked = m.logLocked) (log : t.log = m.log)
      (sequence : t.sequence = m.sequence) (latch : t.latch = m.latch)
      (mark : t.os.mark = m.os.mark) : HandlesAll sys s calls t
  | handled {calls : List SignalCall} {m t : ProcessState} {r : Bool × Option Context}
      (before : HandlesAll sys s calls m) (call : SignalCall) (system : call.sys = sys)
      (room : call.room < call.sp) (returned : call.run.run m = .ok r t) :
      HandlesAll sys s (calls ++ [call]) t

/-- The history of such a run: every handler adds the steps of what runs below it, and then its own
event. -/
inductive Chronicle (sys : Dispatcher) (s : ProcessState) :
    List SignalCall → List BelowStep → ProcessState → Prop
  | start : Chronicle sys s [] [] s
  | meanwhile {calls : List SignalCall} {history : List BelowStep} {m t : ProcessState}
      (before : Chronicle sys s calls history m) (locked : t.logLocked = m.logLocked)
      (log : t.log = m.log) (sequence : t.sequence = m.sequence) (latch : t.latch = m.latch)
      (mark : t.os.mark = m.os.mark) : Chronicle sys s calls history t
  | handled {calls : List SignalCall} {history steps : List BelowStep} {m u t : ProcessState}
      {cl : Classification} {r : Bool × Option Context} (before : Chronicle sys s calls history m)
      (call : SignalCall) (system : call.sys = sys) (room : call.room < call.sp)
      (verdict : call.verdict.run m = .ok cl u)
      (below : RunsBelow call.sys call.room (m.entered call.sp) steps u)
      (returned : call.run.run m = .ok r t) :
      Chronicle sys s (calls ++ [call]) (history ++ steps ++ [.called call (call.event m cl u)]) t

/-- A trap system that has just been set up: nothing is logged and nobody is at the log, no fatal
error is reported, and no handler is active. -/
structure ProcessState.Untried (s : ProcessState) : Prop where
  unlocked : s.logLocked = false
  log : s.log = RingBuffer.empty
  sequence : s.sequence = 0
  latch : s.latch.inProgress = false
  mark : s.os.mark = {}

/-- What a run with a history leads to. -/
structure ProcessState.After (history : List BelowStep) (t : ProcessState) : Prop where
  remembers : t.Remembers history
  latch : t.latch.inProgress = false
  mark : t.os.mark = {}

namespace ProcessState

variable {sys : Dispatcher} {s t : ProcessState} {calls : List SignalCall}

lemma Untried.after (h : s.Untried) : s.After [] :=
  ⟨.start h.unlocked h.log h.sequence, h.latch, h.mark⟩

/-- When no handler is active, the next one is the outermost. -/
lemma After.outermost {history : List BelowStep} (h : t.After history) (sp : Nat) :
    (t.os.mark.enter sp).1 = false := by
  rw [h.mark]
  rfl

/-- What the history is when a handler has its verdict. -/
lemma After.verdict {history steps : List BelowStep} {call : SignalCall} {m u : ProcessState}
    {cl : Classification} (h : m.After history) (hroom : call.room < call.sp)
    (hverdict : call.verdict.run m = .ok cl u)
    (hsteps : RunsBelow call.sys call.room (m.entered call.sp) steps u) :
    (u.logged (call.event m cl u)).Remembers
        (history ++ steps ++ [.called call (call.event m cl u)]) ∧
      u.latch.inProgress = false := by
  have hbelow : u.Remembers (history ++ steps) :=
    (h.remembers.congr (t := m.entered call.sp) rfl rfl rfl).append hsteps
  refine ⟨hbelow.concat rfl, ?_⟩
  rw [(verdict_undisturbed hroom (h.outermost call.sp) hverdict).latch]
  exact h.latch

/-- A handler that returns makes the history longer, and leaves everything else as it was. -/
lemma After.handled {history : List BelowStep} {call : SignalCall} {m : ProcessState}
    {r : Bool × Option Context} (h : m.After history) (hroom : call.room < call.sp)
    (hreturned : call.run.run m = .ok r t) :
    ∃ steps cl u, call.verdict.run m = .ok cl u ∧
      RunsBelow call.sys call.room (m.entered call.sp) steps u ∧
      t.After (history ++ steps ++ [.called call (call.event m cl u)]) := by
  obtain ⟨cl, u, steps, hverdict, hsteps, happlied⟩ :=
    call.verdict_of_returned hroom (h.outermost call.sp) hreturned
  obtain ⟨hlocked, hlog, hsequence, hlatch, hmark⟩ := SignalCall.kept_of_applied happlied
  obtain ⟨hremembers, hfree⟩ := h.verdict hroom hverdict hsteps
  refine ⟨steps, cl, u, hverdict, hsteps, hremembers.congr hlocked hlog hsequence, ?_, hmark⟩
  rw [hlatch]
  exact hfree

end ProcessState

/-- Every run has a history. -/
theorem HandlesAll.chronicle {sys : Dispatcher} {s t : ProcessState} {calls : List SignalCall}
    (h : HandlesAll sys s calls t) (hs : s.Untried) :
    ∃ history, Chronicle sys s calls history t ∧ t.After history := by
  -- the mark is clear between the calls, so that each of them is an outermost one
  induction h with
  | start => exact ⟨[], .start, hs.after⟩
  | meanwhile before locked log sequence latch mark ih =>
    obtain ⟨history, hhistory, hafter⟩ := ih
    refine ⟨history, .meanwhile hhistory locked log sequence latch mark,
      hafter.remembers.congr locked log sequence, ?_, mark.trans hafter.mark⟩
    rw [latch]
    exact hafter.latch
  | handled before call system room returned ih =>
    obtain ⟨history, hhistory, hafter⟩ := ih
    obtain ⟨steps, cl, u, hverdict, hsteps, hafter'⟩ := hafter.handled room returned
    exact ⟨_, .handled hhistory call system room hverdict hsteps returned, hafter'⟩

end ManagedFaults
