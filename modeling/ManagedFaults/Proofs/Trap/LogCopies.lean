import ManagedFaults.Proofs.Trap.History

/-!
# Copies of the log

Of all events that were ever logged (`LogHistory`) the log retains the last ones.  A buffer is given
the first of these, as many as it has room for.  Where there is room for all of them they are also
the last ones, and in a shorter buffer they are not (`short_buffer_gets_oldest`).
-/

namespace ManagedFaults

open RingBuffer (newestInto)

/-! ## Retained events -/

/-- The events that were logged since the log was empty, the oldest one first.  Whatever else
happens leaves the log alone, and so does an event that is offered while it is locked. -/
inductive LogHistory : List TrapRecord → ProcessState → Prop
  | start {s : ProcessState} (empty : s.log = RingBuffer.empty) : LogHistory [] s
  | meanwhile {events : List TrapRecord} {m t : ProcessState} (before : LogHistory events m)
      (log : t.log = m.log) : LogHistory events t
  | logged {events : List TrapRecord} {m t : ProcessState} (before : LogHistory events m)
      (unlocked : m.logLocked = false) (event : TrapRecord)
      (run : (TrapM.logTrap event).run m = .ok () t) :
      LogHistory (events ++ [event]) t

/-- The last events, as many as the log has slots. -/
def retained (events : List TrapRecord) : List TrapRecord :=
  events.drop (events.length - trapLogSlots)

namespace LogHistory

variable {events : List TrapRecord} {t : ProcessState}

lemma log_eq (h : LogHistory events t) : t.log = events.foldl RingBuffer.push RingBuffer.empty := by
  induction h with
  | start empty => exact empty
  | meanwhile _ log ih => exact log.trans ih
  | @logged events m t _ unlocked event run ih =>
    cases run
    show m.logWith event = _
    unfold ProcessState.logWith
    rw [unlocked, List.foldl_append, ← ih]
    rfl

lemma of_log_eq (h : t.log = events.foldl RingBuffer.push RingBuffer.empty) :
    LogHistory events t := by
  induction events using List.reverseRecOn generalizing t with
  | nil => exact .start h
  | append_singleton events event ih =>
    let m : ProcessState :=
      { t with log := events.foldl RingBuffer.push RingBuffer.empty, logLocked := false }
    have hm : LogHistory events m := ih rfl
    refine .meanwhile (.logged hm rfl event rfl) (h.trans ?_)
    rw [List.foldl_append]
    rfl

lemma holds (h : LogHistory events t) : t.log.Holds (retained events) := by
  rw [h.log_eq]
  exact RingBuffer.holds_foldl_push (by decide) events

end LogHistory

/-- What handlers log on one thread is such a history. -/
theorem HandlesAll.logHistory {sys : Dispatcher} {s t : ProcessState} {calls : List SignalCall}
    (h : HandlesAll sys s calls t) (hs : s.Untried) :
    ∃ history, Chronicle sys s calls history t ∧ LogHistory (history.map (·.event)) t := by
  obtain ⟨history, hhistory, hafter⟩ := h.chronicle hs
  exact ⟨history, hhistory, .of_log_eq hafter.remembers.log_eq⟩

/-! ## Buffers -/

/-- A buffer is given the first of the retained events, as many as it has room for, and is otherwise
left as it was.  If there is room for all of them these are the last ones, as they should be; of
different events, a shorter buffer is given others, unless it has no room at all. -/
theorem short_buffer_gets_oldest {events : List TrapRecord} {t : ProcessState}
    (h : LogHistory events t) (out : List TrapRecord) :
    t.log.copyTo out =
      (min out.length (retained events).length,
        (retained events).take out.length ++ out.drop (min out.length (retained events).length)) ∧
    ((retained events).length ≤ out.length →
      t.log.copyTo out = newestInto (retained events) out) ∧
    ((retained events).Nodup →
      (t.log.copyTo out = newestInto (retained events) out ↔
        out = [] ∨ (retained events).length ≤ out.length)) :=
  ⟨h.holds.copyTo_eq_take out, h.holds.copyTo_eq_newestInto,
    fun hnodup => h.holds.copyTo_eq_newestInto_iff hnodup out⟩

/-- Events that are numbered from zero on. -/
def numbered (n : Nat) : List TrapRecord :=
  (List.range n).map fun k => { TrapRecord.blank with sequence := UInt64.ofNat k }

/-- A process that has logged these. -/
def ProcessState.ofNumbered (n : Nat) : ProcessState :=
  { (default : ProcessState) with log := (numbered n).foldl RingBuffer.push RingBuffer.empty }

lemma logHistory_ofNumbered (n : Nat) : LogHistory (numbered n) (.ofNumbered n) :=
  .of_log_eq rfl

/-- After forty events a buffer of five is given those with the numbers from eight on, and one of
thirty-three all that are retained. -/
theorem oldest_of_forty :
    LogHistory (numbered 40) (.ofNumbered 40) ∧ (retained (numbered 40)).Nodup ∧
    ((ProcessState.ofNumbered 40).log.copyTo (List.replicate 5 .blank)).2.map (·.sequence) =
      [8, 9, 10, 11, 12] ∧
    (ProcessState.ofNumbered 40).log.copyTo (List.replicate 5 .blank) ≠
      newestInto (retained (numbered 40)) (List.replicate 5 .blank) ∧
    (ProcessState.ofNumbered 40).log.copyTo (List.replicate 33 .blank) =
      newestInto (retained (numbered 40)) (List.replicate 33 .blank) := by
  have hhistory := logHistory_ofNumbered 40
  have hnodup : (retained (numbered 40)).Nodup := by decide +kernel
  have hlength : (retained (numbered 40)).length = 32 := by decide +kernel
  obtain ⟨hcopied, -, hiff⟩ := short_buffer_gets_oldest hhistory (List.replicate 5 .blank)
  obtain ⟨-, hlong, -⟩ := short_buffer_gets_oldest hhistory (List.replicate 33 .blank)
  refine ⟨hhistory, hnodup, ?_, ?_, hlong ?_⟩
  · rw [hcopied]
    decide +kernel
  · rw [Ne, hiff hnodup, hlength]
    decide
  · rw [hlength]
    decide

/-- After two events a buffer of one is given the first of them, not the last. -/
theorem first_of_two_copied :
    LogHistory (numbered 2) (.ofNumbered 2) ∧
    (ProcessState.ofNumbered 2).log.copyTo [.blank] =
      (1, [{ TrapRecord.blank with sequence := 0 }]) ∧
    newestInto (retained (numbered 2)) [.blank] = (1, [{ TrapRecord.blank with sequence := 1 }]) :=
  ⟨logHistory_ofNumbered 2, by decide +kernel, by decide +kernel⟩

end ManagedFaults
