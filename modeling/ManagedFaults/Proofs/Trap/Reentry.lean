import ManagedFaults.Proofs.Trap.Application
import ManagedFaults.Proofs.Trap.Offering

/-!
# Handlers that call the trap system again

While an outermost handler finds its verdict, the chained handlers it asks may hand further signals
to the trap system.  Each of these is logged as a nested fault, and then declined or escalated
(`SignalCall.run_nested`).  What happens below the outermost handler is a sequence of such calls and
of events that foreign code writes itself (`RunsBelow`); the verdict does not depend on it, and in
the end the mark is clear (`only_outermost_classifies`).
-/

namespace ManagedFaults

/-! ## Nested calls -/

namespace SignalCall

/-- The event of a handler that is nested. -/
def nestedEvent (call : SignalCall) (s : ProcessState) : TrapRecord :=
  ownEvent s.thread call.info call.context { rule := .nestedFault, disposition := .escalate }
    s.sequence

/-- A handler that is nested offers its event to the log, and nothing else: no rule is tried, no
handler is asked, and neither the registers nor the guard nor the saved program counter change.
Then it declines or, if the caller cannot go on, escalates. -/
inductive RunsNested (call : SignalCall) (s : ProcessState) : Prop
  | declined (stay : call.abort = false)
      (run : call.run.run s = .ok (false, call.context) (s.logged (call.nestedEvent s)))
  | escalated (stop : call.abort = true) {u t : ProcessState} {e : Ending}
      {trap : UnrecoverableTrap}
      (unblocks : call.Unblocks (s.logged (call.nestedEvent s)) u)
      (ends : (escalate call.sys call.below trap call.raw :
        TrapM (Bool × Option Context)).run u = .error e t)
      (run : call.run.run s = .error e t) (held : t.held = s.held)

variable {call : SignalCall} {s : ProcessState}

/-- A nested handler goes on from its event. -/
private lemma run_of_nested (hnested : (s.os.mark.enter call.sp).1 = true) :
    call.run.run s =
      (ManagedFaults.carryOut call.sys call.below call.info call.raw call.context call.abort true
        { rule := .nestedFault, disposition := .escalate }).run
          (s.logged (call.nestedEvent s)) := by
  have hverdict := call.verdict_run_nested hnested
  unfold SignalCall.verdict at hverdict
  unfold SignalCall.run
  rw [handle_run, hverdict, ProcessState.entered_of_nested hnested, hnested]
  rfl

/-- A nested handler that cannot go on applies the verdict on nested faults. -/
lemma applied_of_nested (hroom : call.room < call.sp)
    (hnested : (s.os.mark.enter call.sp).1 = true) (habort : call.abort = true) :
    Applied call call.context { rule := .nestedFault, disposition := .escalate }
      (s.logged (call.nestedEvent s)) (call.run.run s) := by
  have hmark : call.sp < s.os.mark.recorded := (NestingMark.nested_iff _ _).mp hnested
  -- escalation does not depend on whether the handler is nested
  have hcarry : call.run.run s =
      (call.carryOut call.context { rule := .nestedFault, disposition := .escalate }).run
        (s.logged (call.nestedEvent s)) := by
    rw [run_of_nested hnested]
    unfold SignalCall.carryOut ManagedFaults.carryOut
    rw [resume_nested, pure_bind, pure_bind, habort]
    rfl
  rw [hcarry]
  exact carryOut_applied (Nat.lt_trans hroom hmark)

/-- What becomes of a handler that is nested. -/
theorem run_nested (hroom : call.room < call.sp) (hnested : (s.os.mark.enter call.sp).1 = true) :
    call.RunsNested s := by
  have hmark : call.sp < s.os.mark.recorded := (NestingMark.nested_iff _ _).mp hnested
  cases habort : call.abort with
  | false =>
    have hrun := run_of_nested hnested
    unfold ManagedFaults.carryOut at hrun
    rw [resume_nested, pure_bind, habort] at hrun
    exact .declined habort hrun
  | true =>
    have happlied := applied_of_nested hroom hnested habort
    have hheld : TrapM.EndsIn (s.QuietBelow call.sp) (s.HoldsBelow call.sp) (call.run.run s) :=
      handle_nested_within (services_nested call.sys (Nat.le_of_lt hroom)) (Nat.le_refl call.sp)
        call.info call.raw call.context call.abort s
    generalize hout : call.run.run s = out at happlied hheld
    cases happlied with
    | ignored hignore => simp at hignore
    | redirected hredirect => simp at hredirect
    | declined _ _ hstay => simp [habort] at hstay
    | escalated _ _ _ hunblocks _ _ _ _ _ _ _ hends _ =>
      exact .escalated habort hunblocks hends hout (hheld hmark)

end SignalCall

/-! ## What happens below an active handler -/

/-- Something that code below an active handler offers to the log. -/
inductive BelowStep where
  /-- An event that foreign code writes itself. -/
  | wrote (event : TrapRecord)
  /-- The event of a signal that foreign code hands to the trap system. -/
  | called (inner : SignalCall) (event : TrapRecord)

namespace BelowStep

/-- The event that is offered. -/
def event : BelowStep → TrapRecord
  | .wrote event => event
  | .called _ event => event

/-- The event that is offered, if it is that of a call. -/
def callEvent? : BelowStep → Option TrapRecord
  | .wrote _ => none
  | .called _ event => some event

end BelowStep

/-- The events of the calls among some steps. -/
def callEvents (steps : List BelowStep) : List TrapRecord :=
  steps.filterMap (·.callEvent?)

lemma callEvents_append (steps more : List BelowStep) :
    callEvents (steps ++ more) = callEvents steps ++ callEvents more :=
  List.filterMap_append

/-- Code that runs below an active handler, with this much room on the stack, has led from one
state to another by these steps.  Whatever else it has done does not concern the log and who is at
it, the numbers of events, the managed thread or the mark. -/
inductive RunsBelow (sys : Dispatcher) (room : Nat) :
    ProcessState → List BelowStep → ProcessState → Prop
  | silent {s t : ProcessState} (log : t.log = s.log) (locked : t.logLocked = s.logLocked)
      (sequence : t.sequence = s.sequence) (thread : t.thread = s.thread)
      (mark : t.os.mark = s.os.mark) : RunsBelow sys room s [] t
  | wrote (s : ProcessState) (event : TrapRecord) :
      RunsBelow sys room s [.wrote event] { s with log := s.logWith event }
  | called (s : ProcessState) (inner : SignalCall) (system : inner.sys = sys)
      (below : inner.sp ≤ room) (nested : inner.RunsNested s) :
      RunsBelow sys room s [.called inner (inner.nestedEvent s)] (s.logged (inner.nestedEvent s))
  | trans {s m t : ProcessState} {steps more : List BelowStep}
      (first : RunsBelow sys room s steps m) (then_ : RunsBelow sys room m more t) :
      RunsBelow sys room s (steps ++ more) t

namespace RunsBelow

variable {sys : Dispatcher} {room : Nat} {s t : ProcessState} {steps : List BelowStep}

lemma mark_eq (h : RunsBelow sys room s steps t) : t.os.mark = s.os.mark := by
  induction h with
  | silent _ _ _ _ mark => exact mark
  | wrote s event => rfl
  | called s inner system below nested => rfl
  | trans first more ihFirst ihMore => exact ihMore.trans ihFirst

lemma locked_eq (h : RunsBelow sys room s steps t) : t.logLocked = s.logLocked := by
  induction h with
  | silent _ locked _ _ _ => exact locked
  | wrote s event => rfl
  | called s inner system below nested => rfl
  | trans first more ihFirst ihMore => exact ihMore.trans ihFirst

lemma thread_eq (h : RunsBelow sys room s steps t) : t.thread = s.thread := by
  induction h with
  | silent _ _ _ thread _ => exact thread
  | wrote s event => rfl
  | called s inner system below nested => rfl
  | trans first more ihFirst ihMore => exact ihMore.trans ihFirst

/-- The events are in the log in the order of the steps, unless it is locked. -/
lemma log_eq (h : RunsBelow sys room s steps t) :
    t.log = if s.logLocked then s.log else
      (steps.map (·.event)).foldl RingBuffer.push s.log := by
  induction h with
  | silent log _ _ _ _ => rw [log, List.map_nil, List.foldl_nil, ite_self]
  | wrote s event => rfl
  | called s inner system below nested => rfl
  | trans first more ihFirst ihMore =>
    rw [ihMore, first.locked_eq, ihFirst, List.map_append, List.foldl_append]
    split <;> rfl

/-- An event that comes after the steps is in the log after theirs. -/
lemma logged_eq (h : RunsBelow sys room s steps t) (event : TrapRecord) :
    (t.logged event).log = if s.logLocked then s.log else
      (steps.map (·.event) ++ [event]).foldl RingBuffer.push s.log := by
  have hlogged : (t.logged event).log = if t.logLocked then t.log else t.log.push event := rfl
  rw [hlogged, h.locked_eq, h.log_eq, List.foldl_append]
  split <;> rfl

/-- Every call takes a number. -/
lemma sequence_eq (h : RunsBelow sys room s steps t) :
    t.sequence = s.sequence + UInt64.ofNat (callEvents steps).length := by
  induction h with
  | silent _ _ sequence _ _ => simpa [callEvents] using sequence
  | wrote s event => simp [callEvents, BelowStep.callEvent?]
  | called s inner system below nested => rfl
  | trans first more ihFirst ihMore =>
    rw [ihMore, ihFirst, callEvents_append, List.length_append, UInt64.ofNat_add,
      UInt64.add_assoc]

/-- The event of a call says that it is nested, and which thread is running. -/
lemma of_call (h : RunsBelow sys room s steps t) {event : TrapRecord}
    (hevent : event ∈ callEvents steps) :
    event.rule = .nestedFault ∧ event.disposition = .escalate ∧
      event.thread = s.thread.map (·.id) := by
  induction h with
  | silent _ _ _ _ _ => simp [callEvents] at hevent
  | wrote s written => simp [callEvents, BelowStep.callEvent?] at hevent
  | called s inner system below nested =>
    obtain rfl := List.mem_singleton.mp hevent
    exact ⟨rfl, rfl, rfl⟩
  | trans first more ihFirst ihMore =>
    rw [callEvents_append] at hevent
    rcases List.mem_append.mp hevent with hevent | hevent
    · exact ihFirst hevent
    · rw [← first.thread_eq]
      exact ihMore hevent

/-- The numbers of the calls are consecutive. -/
lemma numbers_eq (h : RunsBelow sys room s steps t) :
    (callEvents steps).map (·.sequence) =
      (List.range (callEvents steps).length).map fun k => s.sequence + UInt64.ofNat k := by
  induction h with
  | silent _ _ _ _ _ => rfl
  | wrote s event => rfl
  | called s inner system below nested =>
    show [s.sequence] = [s.sequence + 0]
    rw [UInt64.add_zero]
  | @trans s m t steps more first then_ ihFirst ihMore =>
    have hshift : ∀ k, m.sequence + UInt64.ofNat k =
        s.sequence + UInt64.ofNat ((callEvents steps).length + k) := by
      intro k
      rw [first.sequence_eq, UInt64.ofNat_add, UInt64.add_assoc]
    -- the calls of the second part count on from those of the first
    rw [callEvents_append, List.map_append, List.length_append, List.range_add, List.map_append,
      ihFirst, ihMore, List.map_map]
    refine congrArg _ (List.map_congr_left fun k _ => ?_)
    exact hshift k

/-- As long as the numbers do not run out, those of the calls are smaller than the next one. -/
lemma number_lt (h : RunsBelow sys room s steps t)
    (hcount : s.sequence.toNat + (callEvents steps).length < UInt64.size) {event : TrapRecord}
    (hevent : event ∈ callEvents steps) : event.sequence < t.sequence := by
  have hnumber : event.sequence ∈ (callEvents steps).map (·.sequence) :=
    List.mem_map.mpr ⟨event, hevent, rfl⟩
  rw [h.numbers_eq] at hnumber
  obtain ⟨k, hk, hsequence⟩ := List.mem_map.mp hnumber
  have hk' : k < (callEvents steps).length := List.mem_range.mp hk
  have htoNat : ∀ j ≤ (callEvents steps).length,
      (s.sequence + UInt64.ofNat j).toNat = s.sequence.toNat + j := by
    intro j hj
    have hsum : s.sequence.toNat + j < UInt64.size := by omega
    rw [UInt64.toNat_add, UInt64.toNat_ofNat_of_lt' (by omega)]
    exact Nat.mod_eq_of_lt hsum
  rw [← hsequence, h.sequence_eq, UInt64.lt_iff_toNat_lt, htoNat k (by omega),
    htoNat _ (Nat.le_refl _)]
  omega

end RunsBelow

/-! ## The frame of steps -/

/-- With this much room on the stack, what ran below an active handler was a sequence of steps. -/
def ProcessState.Traced (sys : Dispatcher) (room : Nat) (s t : ProcessState) : Prop :=
  room < s.os.mark.recorded → ∃ steps, RunsBelow sys room s steps t

namespace Frame

open ProcessState

variable (sys : Dispatcher) (room : Nat)

lemma chains_traced : Frame.Chains (Traced sys room) (Traced sys room) where
  refl _ := fun _ => ⟨[], .silent rfl rfl rfl rfl rfl⟩
  trans hsm hmt := by
    intro h
    obtain ⟨steps, first⟩ := hsm h
    obtain ⟨more, then_⟩ := hmt (by rwa [first.mark_eq])
    exact ⟨steps ++ more, first.trans then_⟩
  ends hst := hst
  trans_ends hsm hmt := by
    intro h
    obtain ⟨steps, first⟩ := hsm h
    obtain ⟨more, then_⟩ := hmt (by rwa [first.mark_eq])
    exact ⟨steps ++ more, first.trans then_⟩

variable {sys room}

/-- A change that concerns neither the log nor the numbers, the thread or the mark. -/
private lemma traced_of_same {s t : ProcessState} (log : t.log = s.log)
    (locked : t.logLocked = s.logLocked) (sequence : t.sequence = s.sequence)
    (thread : t.thread = s.thread) (mark : t.os.mark = s.os.mark) : Traced sys room s t :=
  fun _ => ⟨[], .silent log locked sequence thread mark⟩

private lemma traced_of_silent {s t : ProcessState} (h : s.Silent t) : Traced sys room s t :=
  traced_of_same h.log h.locked h.sequence h.thread h.mark

variable (sys room)

lemma allowsEscalation_traced : Frame.AllowsEscalation (Traced sys room) (Traced sys room) where
  toAllowsForeign := (chains_traced sys room).allowsForeign traced_of_silent
    fun s event => fun _ => ⟨[.wrote event], .wrote s event⟩
  unblock _ _ := traced_of_same rfl rfl rfl rfl rfl
  askUnblock _ _ := traced_of_same rfl rfl rfl rfl rfl
  claim _ _ := traced_of_same rfl rfl rfl rfl rfl
  report _ _ := traced_of_same rfl rfl rfl rfl rfl

lemma allowsEntry_traced : Frame.AllowsEntry (Traced sys room) (Traced sys room) :=
  (chains_traced sys room).allowsEntry traced_of_silent

lemma allowsRules_traced : Frame.AllowsRules (Traced sys room) (Traced sys room) :=
  (chains_traced sys room).allowsRules traced_of_silent

end Frame

section Traced

open ProcessState

variable {sys : Dispatcher} {room n : Nat}

private lemma traced_of_unblocks {call : SignalCall} {s u : ProcessState} (h : call.Unblocks s u) :
    Traced sys room s u := by
  cases h <;> exact fun _ => ⟨[], .silent rfl rfl rfl rfl rfl⟩

/-- A handler that runs below an active one is a step. -/
private lemma handle_traced (hsv : (services sys n).Have fun x =>
      x.Within (Traced sys room) (Traced sys room))
    (hn : n < room) (info : SignalCause) (raw : Delivery) (context : Option Context)
    (abort : Bool) :
    (handle sys (services sys n) (n + 1) info raw context abort).Within
      (Traced sys room) (Traced sys room) := by
  intro s
  let inner : SignalCall := { sys, room := n, sp := n + 1, info, raw, context, abort }
  show TrapM.EndsIn (s.Traced sys room) (s.Traced sys room) (inner.run.run s)
  by_cases hbelow : room < s.os.mark.recorded
  · have hnested : inner.RunsNested s :=
      inner.run_nested (Nat.lt_succ_self n) ((NestingMark.nested_iff _ _).mpr (by
        show n + 1 < s.os.mark.recorded
        omega))
    have hstep : RunsBelow sys room s _ _ := .called s inner rfl hn hnested
    cases hnested with
    | declined stay run =>
      rw [run]
      exact fun _ => ⟨_, hstep⟩
    | @escalated _ u t e trap unblocks ends run held =>
      -- the signal is unblocked, and the reporter is foreign code like any other
      have hescalation := (Frame.allowsEscalation_traced sys room).within
      have hunblock : Traced sys room (s.logged (inner.nestedEvent s)) u :=
        traced_of_unblocks unblocks
      have hescalate : TrapM.EndsIn (u.Traced sys room) (u.Traced sys room)
          ((escalate inner.sys inner.below trap inner.raw :
            TrapM (Bool × Option Context)).run u) :=
        escalate_has hescalation hsv sys trap raw u
      rw [ends] at hescalate
      rw [run]
      have hchains := Frame.chains_traced sys room
      exact hchains.trans (hchains.trans (fun _ => ⟨_, hstep⟩) hunblock) hescalate
  · -- no handler is active above, so nothing has to be shown
    cases hrun : inner.run.run s with
    | ok a t => exact fun h => absurd h hbelow
    | error e t => exact fun h => absurd h hbelow

/-- What foreign code can call below an active handler is a sequence of steps. -/
lemma services_traced (sys : Dispatcher) {room n : Nat} (h : n ≤ room) :
    (services sys n).Have fun x => x.Within (Traced sys room) (Traced sys room) :=
  services_have_of_handle (Frame.allowsEscalation_traced sys room).within.toAllowsForeign
    (Frame.allowsEntry_traced sys room).within
    (TrapM.within_throw (Frame.chains_traced sys room) _) sys
    (fun _ hm hlower => handle_traced hlower hm) h

/-- While an outermost handler finds its verdict, what runs below it is a sequence of steps. -/
lemma verdict_traced {call : SignalCall} {s : ProcessState} (hroom : call.room < call.sp)
    (houter : (s.os.mark.enter call.sp).1 = false) :
    TrapM.EndsIn (fun t => ∃ steps, RunsBelow call.sys call.room (s.entered call.sp) steps t)
      (fun t => ∃ steps, RunsBelow call.sys call.room (s.entered call.sp) steps t)
      (call.verdict.run s) := by
  have hoffer : (call.offer s.thread).Within (Traced call.sys call.room)
      (Traced call.sys call.room) :=
    dispatch_has (Frame.allowsEscalation_traced call.sys call.room).within.toAllowsForeign
      (services_traced call.sys (Nat.le_refl call.room)) call.sys _ call.raw
  have hclassify := call.sys.classifier.classify_has
    (Frame.allowsRules_traced call.sys call.room).within (call.input s.thread) hoffer
    (s.entered call.sp)
  rw [← call.verdict_run houter] at hclassify
  have hactive := call.active_entered hroom houter
  cases hrun : call.verdict.run s with
  | ok cl t =>
    rw [hrun] at hclassify
    exact hclassify hactive
  | error e t =>
    rw [hrun] at hclassify
    exact hclassify hactive

end Traced

/-! ## The outermost handler -/

/-- When an outermost handler returns, the mark is clear. -/
private lemma mark_clear_of_run {call : SignalCall} {s m t : ProcessState} {cl : Classification}
    {r : Bool × Option Context} (hroom : call.room < call.sp)
    (houter : (s.os.mark.enter call.sp).1 = false) (hverdict : call.verdict.run s = .ok cl m)
    (hrun : call.run.run s = .ok r t) : t.os.mark = {} := by
  have happlied := applied_of_verdict hroom houter hverdict
  rw [hrun] at happlied
  cases happlied <;> rfl

/-- Only the outermost handler classifies.  Any handler that runs below it is nested.  While it
finds its verdict, the handlers that it asks hand signals to the trap system and write events of
their own; unless one of them ends the thread, there is a verdict, and the event of the outermost
handler comes after all of these, with a greater number than the nested ones.  The log takes each of
the events, in this order, unless it is locked; then it takes none.  The verdict is the one to which
handlers lead that only give the same answers.  Once the handler returns, the mark is clear, and
whatever signal comes next is classified again. -/
theorem only_outermost_classifies (call : SignalCall) (s : ProcessState)
    (hroom : call.room < call.sp) (houter : (s.os.mark.enter call.sp).1 = false) :
    (∀ (inner : SignalCall) (m : ProcessState), m.os.mark.recorded = call.sp →
      inner.room < inner.sp → inner.sp < call.sp → inner.RunsNested m) ∧
    ((∃ steps e t m, call.run.run s = .error e t ∧ (call.offer s.thread).run m = .error e t ∧
        RunsBelow call.sys call.room (s.entered call.sp) steps t) ∨
      ∃ steps asked cl m own,
        call.verdict.run s = .ok cl m ∧
        RunsBelow call.sys call.room (s.entered call.sp) steps m ∧
        own = ownEvent s.thread call.info (call.registersAfter m) cl m.sequence ∧
        (m.logged own).log = (if s.logLocked then s.log else
          (steps.map (·.event) ++ [own]).foldl RingBuffer.push s.log) ∧
        (∀ event ∈ callEvents steps,
          event.rule = .nestedFault ∧ event.disposition = .escalate ∧
            event.thread = s.thread.map (·.id)) ∧
        (s.sequence.toNat + (callEvents steps).length < UInt64.size →
          ∀ event ∈ callEvents steps, event.sequence < m.sequence) ∧
        call.run.run s = (call.carryOut (call.registersAfter m) cl).run (m.logged own) ∧
        call.Asks s asked ∧
        (∃ u, call.verdict.run
          (s.replaying (call.input s.thread).info.signal (asked.map (·.2))) = .ok cl u) ∧
        ∀ r t, call.run.run s = .ok r t → t.os.mark = {} ∧
          ∀ next : SignalCall, next.verdict.run t =
            (next.sys.classifier.classify (next.offer t.thread) (next.input t.thread)).run
              (t.entered next.sp)) := by
  refine ⟨fun inner m hmark hinner hbelow => ?_, ?_⟩
  · refine inner.run_nested hinner ((NestingMark.nested_iff _ _).mpr ?_)
    rwa [hmark]
  have htraced := verdict_traced hroom houter
  cases hverdict : call.verdict.run s with
  | error e t =>
    rw [hverdict] at htraced
    obtain ⟨steps, hsteps⟩ := htraced
    obtain ⟨m, hoffer⟩ := verdict_error houter hverdict
    exact .inl ⟨steps, e, t, m, run_of_verdict_error hverdict, hoffer, hsteps⟩
  | ok cl m =>
    rw [hverdict] at htraced
    obtain ⟨steps, hsteps⟩ := htraced
    obtain ⟨asked, hasks, rfl⟩ := SignalCall.verdict_asks houter hverdict
    refine .inr ⟨steps, asked, _, m, _, rfl, hsteps, rfl, hsteps.logged_eq _,
      fun event hevent => hsteps.of_call hevent,
      fun hcount event hevent => hsteps.number_lt hcount hevent, run_of_verdict houter hverdict,
      hasks, SignalCall.verdict_replayed houter hasks, fun r t hreturned => ?_⟩
    have hclear := mark_clear_of_run hroom houter hverdict hreturned
    refine ⟨hclear, fun next => next.verdict_run ?_⟩
    rw [hclear]
    rfl

/-- A handler that first hands a signal of its own to the trap system, and handles the one it was
asked about if that was declined. -/
def ChainedHandler.reentering : ChainedHandler :=
  .script
    (fun info raw => .handle info raw none false fun handled _ => .answer (!handled)) none

/-- A signal that only the chained handlers know. -/
def SignalCall.unknown : SignalCall :=
  { sys := .silent
    room := 1
    sp := 2
    info := { signal := .segv, faultAddress := some 8 }
    raw := { signo := 11 }
    context := none
    abort := true }

/-- A process with a handler that calls the trap system again. -/
def ProcessState.withReentering : ProcessState :=
  { (default : ProcessState) with
    registry :=
      { entries :=
          [{ handler := .reentering, priority := 1, description := "reentering", signal := none
             protection := .user, owner := 2, handle := 1 }] } }

/-- The nested fault is logged and declined, and the signal is then handled. -/
theorem reentered_once :
    ∃ t, SignalCall.unknown.run.run .withReentering = .ok (true, none) t ∧
      t.log.toList.map (fun e => (e.sequence, e.rule)) = [(0, .nestedFault), (1, .chained)] ∧
      t.os.mark = {} := by
  obtain ⟨t, hrun, hlog⟩ : ∃ t, SignalCall.unknown.run.run .withReentering = .ok (true, none) t ∧
      t.log.toList.map (fun e => (e.sequence, e.rule)) =
        [(0, .nestedFault), (1, .chained)] := by
    have hlogged : (match SignalCall.unknown.run.run .withReentering with
        | .ok (true, none) t => decide (t.log.toList.map (fun e => (e.sequence, e.rule)) =
            [(0, .nestedFault), (1, .chained)])
        | _ => false) = true := by
      decide +kernel
    generalize SignalCall.unknown.run.run .withReentering = out at hlogged ⊢
    split at hlogged
    · exact ⟨_, rfl, of_decide_eq_true hlogged⟩
    · simp at hlogged
  rcases (only_outermost_classifies .unknown .withReentering (by decide) rfl).2 with
    ⟨_, _, _, _, herror, -⟩ | ⟨_, _, _, _, _, -, -, -, -, -, -, -, -, -, hend⟩
  · rw [hrun] at herror
    simp at herror
  · exact ⟨t, hrun, hlog, (hend _ _ hrun).1⟩

end ManagedFaults
