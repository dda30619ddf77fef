import ManagedFaults.Proofs.Stack.Openings
import ManagedFaults.Proofs.Trap.SideBySide

/-!
# Signals without registers

A signal may be handed to the trap system without the registers of the interrupted thread.  The
thread and the fault address are then withheld from the rules, and the program counter is taken to
be zero.  So no rule applies but the one about speculative reads, and it applies if such a read is
expected at address zero.  Everywhere else the chained handlers decide alone, and nothing that the
managed runtime knows makes a difference (`handled_without_registers`).
-/

namespace ManagedFaults

/-! ## The rules -/

namespace Classifier

/-- Without registers the rules only ask about a speculative read at address zero. -/
lemma ownRules_withoutRegisters (c : Classifier) (info : SignalCause) (raw : Delivery)
    (thread : Option ManagedThread) :
    c.ownRules (Trap.ofSignal info raw none thread) =
      if info.signal.isBrokenPipe then pure none
      else RuleM.ask (.speculativeStub 0)
        ((c.runtime.speculativeStub 0).bind (redirect .safeFetch)) := by
  let i := Trap.ofSignal info raw none thread
  have hzero : i.pc = 0 := rfl
  funext s
  cases hpipe : info.signal.isBrokenPipe with
  | true => exact run_ownRules_of_pipe (i := i) hpipe s
  | false =>
    cases hfetch : c.runtime.speculativeStub 0 with
    | some stub => exact run_ownRules_of_fetch (i := i) hpipe hfetch s
    | none =>
      have hguard : ∀ t : Scene, (c.stackGuard i).run t = (none, t) := by
        intro t
        unfold stackGuard
        split <;> rfl
      have hown := run_ownRules (i := i) hpipe hfetch s
      rw [hguard, hzero] at hown
      exact hown

end Classifier

lemma ProcessState.held_saying (lines : List (Level × String)) (s : ProcessState) :
    (s.saying lines).held = s.held := by
  induction lines generalizing s with
  | nil => rfl
  | cons line lines ih => exact ih { s with scene := s.scene.say line.1 line.2 }

namespace SignalCall

open ProcessState

/-- No speculative read is expected at address zero, unless that does not matter for the signal. -/
def FreeOfZero (call : SignalCall) : Prop :=
  call.info.signal.isBrokenPipe = true ∨ call.sys.runtime.speculativeStub 0 = none

/-- The verdict on a signal without registers, by whether a chained handler agreed to handle it. -/
def verdictAtZero (call : SignalCall) (handled : Bool) : Classification :=
  if call.info.signal.isBrokenPipe then { rule := .brokenPipe, disposition := .ignore }
  else match call.sys.runtime.speculativeStub 0 with
    | some stub => { rule := .safeFetch, disposition := .redirect stub }
    | none =>
      if handled then { rule := .chained, disposition := .ignore }
      else { rule := .unrecognized, disposition := .escalate }

variable {call : SignalCall} {s : ProcessState}

/-- Nothing is redirected, and no other rule named, unless a speculative read is expected at address
zero. -/
lemma verdictAtZero_rule (call : SignalCall) :
    (∀ handled, (call.verdictAtZero handled).rule ∈
        [TrapRule.brokenPipe, .chained, .unrecognized] ∧
      (call.verdictAtZero handled).disposition.stub? = none) ↔ call.FreeOfZero := by
  unfold verdictAtZero FreeOfZero
  cases call.info.signal.isBrokenPipe with
  | true => simp [Disposition.stub?]
  | false =>
    cases call.sys.runtime.speculativeStub 0 with
    | some stub => simp
    | none =>
      refine ⟨fun _ => .inr rfl, fun _ handled => ?_⟩
      cases handled <;> decide

lemma verdictAtZero_ignore_iff (call : SignalCall) (handled : Bool) :
    (call.verdictAtZero handled).disposition = .ignore ↔
      call.info.signal.isBrokenPipe = true ∨
        call.sys.runtime.speculativeStub 0 = none ∧ handled = true := by
  unfold verdictAtZero
  cases call.info.signal.isBrokenPipe with
  | true => simp
  | false =>
    cases call.sys.runtime.speculativeStub 0 with
    | some stub => simp
    | none => cases handled <;> simp

section Unknown

variable (hunknown : call.context = none)
include hunknown

lemma input_of_unknown (thread : Option ManagedThread) :
    call.input thread = Trap.ofSignal call.info call.raw none thread := by
  unfold input
  rw [hunknown]

/-- Registers that are not known are not known later. -/
lemma registersAfter_of_unknown (m : ProcessState) : call.registersAfter m = none := by
  show call.context.map (m.current call.raw) = none
  rw [hunknown]
  rfl

/-- The handlers decide where the rules pass. -/
lemma verdictBy_of_unknown (s : ProcessState)
    (asked : List (RegisteredHandler ChainedHandler × Bool)) :
    call.verdictBy s asked = call.verdictAtZero (anyAgreed asked) := by
  have hsignal : (call.input s.thread).signal = call.info.signal := call.signal_input s.thread
  have hrules : call.ownRules s.thread = if call.info.signal.isBrokenPipe then pure none
      else RuleM.ask (.speculativeStub 0)
        ((call.sys.runtime.speculativeStub 0).bind (Classifier.redirect .safeFetch)) := by
    unfold ownRules
    rw [input_of_unknown hunknown]
    exact Classifier.ownRules_withoutRegisters _ _ _ _
  unfold verdictBy verdictAtZero Classifier.byAnswer
  rw [hsignal, hrules]
  cases call.info.signal.isBrokenPipe with
  | true => rfl
  | false => cases call.sys.runtime.speculativeStub 0 <;> rfl

/-- The rules leave the stack alone. -/
lemma ownRules_sameStack_of_unknown (thread : Option ManagedThread) (scene : Scene) :
    scene.SameStack ((call.ownRules thread).run scene).2 := by
  unfold ownRules
  rw [input_of_unknown hunknown, Classifier.ownRules_withoutRegisters]
  split <;> exact ⟨rfl, rfl⟩

/-- Finding the verdict holds what an active handler relies on, even if it ends the thread. -/
lemma verdict_holds (hroom : call.room < call.sp) (houter : (s.os.mark.enter call.sp).1 = false) :
    TrapM.EndsIn (fun m => m.held = (s.entered call.sp).held)
      (fun t => t.held = (s.entered call.sp).held) (call.verdict.run s) := by
  have hstack := ownRules_sameStack_of_unknown hunknown s.thread s.scene
  let m : ProcessState :=
    { s.entered call.sp with scene := ((call.ownRules s.thread).run s.scene).2 }
  have hm : m.held = (s.entered call.sp).held := by
    show { (s.entered call.sp).held with guard := m.scene.guard, pages := m.scene.pages } = _
    rw [hstack.guard, hstack.pages]
    rfl
  have hactive : call.room < m.os.mark.recorded := call.active_entered hroom houter
  have hoffer := call.offer_holds s.thread m
  rw [call.verdict_run houter, Classifier.run_classify]
  show TrapM.EndsIn _ _ ((Classifier.orOffer _ _ _ ((call.ownRules s.thread).run s.scene).1).run m)
  cases ((call.ownRules s.thread).run s.scene).1 with
  | some cl =>
    dsimp only [Classifier.orOffer]
    rw [Classifier.run_announce_saying]
    exact (held_saying _ m).trans hm
  | none =>
    dsimp only [Classifier.orOffer]
    cases hrun : (call.offer s.thread).run m with
    | error e t =>
      rw [TrapM.run_bind_of_error hrun]
      rw [hrun] at hoffer
      exact (hoffer hactive).trans hm
    | ok handled t =>
      rw [TrapM.run_bind_of_ok hrun, Classifier.run_afterOffer_saying]
      rw [hrun] at hoffer
      exact (held_saying _ t).trans ((hoffer hactive).trans hm)

/-- Neither the stack nor the saved program counter change. -/
lemma run_unmoved_of_unknown (hroom : call.room < call.sp)
    (houter : (s.os.mark.enter call.sp).1 = false) :
    s.scene.SameStack (call.run.stateAfter s).scene ∧
      (call.run.stateAfter s).savedPc = s.savedPc := by
  have hverdict := verdict_holds hunknown hroom houter
  unfold TrapM.stateAfter
  cases hrun : call.verdict.run s with
  | error e t =>
    rw [hrun] at hverdict
    rw [run_of_verdict_error hrun]
    exact ⟨⟨congrArg HeldPart.guard hverdict, congrArg HeldPart.pages hverdict⟩,
      congrArg HeldPart.savedPc hverdict⟩
  | ok cl m =>
    rw [hrun] at hverdict
    have hactive : call.room < m.os.mark.recorded := by
      rw [(verdict_undisturbed hroom houter hrun).mark]
      exact hroom
    have happlied := applied_of_verdict hroom houter hrun
    rw [registersAfter_of_unknown hunknown] at happlied
    have hstack := applied_sameStack happlied hactive
    have hsaved : m.savedPc = s.savedPc := congrArg HeldPart.savedPc hverdict
    have hbefore : s.scene.SameStack m.scene :=
      ⟨congrArg HeldPart.guard hverdict, congrArg HeldPart.pages hverdict⟩
    generalize call.run.run s = out at happlied hstack
    cases happlied with
    | ignored => exact ⟨hbefore.trans hstack, hsaved⟩
    | redirected _ hknown => cases hknown
    | declined => exact ⟨hbefore.trans hstack, hsaved⟩
    | escalated _ _ _ _ _ _ _ _ _ _ _ _ hpc => exact ⟨hbefore.trans hstack, hpc.trans hsaved⟩

end Unknown

end SignalCall

/-! ## What the runtime knows -/

/-- Two systems that run the same foreign code, whatever their managed runtimes know. -/
structure Dispatcher.SameCode (sys sys' : Dispatcher) : Prop where
  control : sys'.control = sys.control
  foreign : sys'.runtime.foreign = sys.runtime.foreign
  reporter : sys'.runtime.reporter = sys.runtime.reporter

lemma Dispatcher.SameCode.agreeOn {sys sys' : Dispatcher} (h : sys.SameCode sys') :
    sys.AgreeOn (fun _ => True) sys' where
  control := h.control
  reporter := h.reporter
  called _ _ := trivial
  foreign _ _ _ _ _ := by rw [h.foreign]

namespace SignalCall

variable {call : SignalCall} {s : ProcessState}

/-- All that matters of what the runtime knows is whether it expects a speculative read at address
zero. -/
lemma run_alike_of_unknown (hunknown : call.context = none) (hroom : call.room < call.sp)
    (houter : (s.os.mark.enter call.sp).1 = false) {sys' : Dispatcher}
    (hcode : call.sys.SameCode sys')
    (hzero : call.info.signal.isBrokenPipe = true ∨
      sys'.runtime.speculativeStub 0 = call.sys.runtime.speculativeStub 0)
    {t : ProcessState} (hst : s.visible = t.visible) :
    TrapM.visibleResult (call.run.run s) =
      TrapM.visibleResult ({ call with sys := sys' }.run.run t) := by
  have hactive := call.active_entered hroom houter
  have hrules : ∀ thread,
      sys'.classifier.ownRules (Trap.ofSignal call.info call.raw none thread) =
        call.sys.classifier.ownRules (Trap.ofSignal call.info call.raw none thread) := by
    intro thread
    rw [Classifier.ownRules_withoutRegisters, Classifier.ownRules_withoutRegisters]
    rcases hzero with hpipe | hsame
    · rw [if_pos hpipe, if_pos hpipe]
    · have hstub : sys'.classifier.runtime.speculativeStub 0 =
          call.sys.classifier.runtime.speculativeStub 0 := hsame
      rw [hstub]
  have hagree := hcode.agreeOn
  have hservices := services_alike hagree (Nat.le_refl call.room)
  unfold SignalCall.run
  rw [hunknown]
  exact And.left (handle_alike_at (O := fun _ => True) hservices hagree (fun _ _ => trivial)
    call.abort hst houter ⟨trivial, .inr hactive⟩ fun _ => hrules s.thread)

end SignalCall

open SignalCall

/-- An outermost handler that is given no registers neither touches the stack nor saves a program
counter, however it ends.  Its verdict is that of the chained handlers, unless a speculative read is
expected at address zero; it offers one event with this verdict to the log, which takes it unless it
is locked, and it returns that the signal was handled if and only if it is of the broken-pipe class,
or a chained handler was asked and agreed.  Among all that the managed runtime
knows, only what it expects at address zero makes a difference. -/
theorem handled_without_registers (call : SignalCall) (s : ProcessState)
    (hunknown : call.context = none) (hroom : call.room < call.sp)
    (houter : (s.os.mark.enter call.sp).1 = false) :
    (s.scene.SameStack (call.run.stateAfter s).scene ∧
      (call.run.stateAfter s).savedPc = s.savedPc) ∧
    ((∃ e t m, (call.offer s.thread).run m = .error e t ∧ call.run.run s = .error e t) ∨
      ∃ asked m event, call.Asks s asked ∧
        call.verdict.run s = .ok (call.verdictAtZero (anyAgreed asked)) m ∧
        event = ownEvent s.thread call.info none (call.verdictAtZero (anyAgreed asked))
          m.sequence ∧
        (m.logged event).log = (if s.logLocked then m.log else m.log.push event) ∧
        Applied call none (call.verdictAtZero (anyAgreed asked)) (m.logged event)
          (call.run.run s) ∧
        ∀ handled context t, call.run.run s = .ok (handled, context) t →
          context = none ∧
          (handled = true ↔ call.info.signal.isBrokenPipe = true ∨
            call.sys.runtime.speculativeStub 0 = none ∧ anyAgreed asked = true)) ∧
    ((∀ handled, (call.verdictAtZero handled).rule ∈
        [TrapRule.brokenPipe, .chained, .unrecognized] ∧
      (call.verdictAtZero handled).disposition.stub? = none) ↔ call.FreeOfZero) ∧
    ∀ sys', call.sys.SameCode sys' →
      (call.info.signal.isBrokenPipe = true ∨
        sys'.runtime.speculativeStub 0 = call.sys.runtime.speculativeStub 0) →
      ∀ t, s.visible = t.visible →
        TrapM.visibleResult (call.run.run s) =
          TrapM.visibleResult ({ call with sys := sys' }.run.run t) := by
  refine ⟨run_unmoved_of_unknown hunknown hroom houter, ?_, verdictAtZero_rule call,
    fun sys' hcode hzero t hst => run_alike_of_unknown hunknown hroom houter hcode hzero hst⟩
  cases hverdict : call.verdict.run s with
  | error e t =>
    obtain ⟨m, hoffer⟩ := verdict_error houter hverdict
    exact .inl ⟨e, t, m, hoffer, run_of_verdict_error hverdict⟩
  | ok cl m =>
    obtain ⟨asked, hasks, rfl⟩ := verdict_asks houter hverdict
    have happlied := applied_of_verdict hroom houter hverdict
    rw [verdictBy_of_unknown hunknown, registersAfter_of_unknown hunknown] at happlied
    rw [verdictBy_of_unknown hunknown]
    refine .inr ⟨asked, m, _, hasks, rfl, rfl, ?_, happlied, fun handled context t hrun => ?_⟩
    · rw [← (verdict_undisturbed hroom houter hverdict).logLocked]
      rfl
    · rw [← verdictAtZero_ignore_iff]
      rw [hrun] at happlied
      cases happlied with
      | ignored hignore => exact ⟨rfl, by simp [hignore]⟩
      | redirected _ hknown => cases hknown
      | declined hfatal => exact ⟨rfl, by simp [hfatal]⟩

/-- What is decided about the state in which a handler returns without registers. -/
private lemma returns_of_decide {call : SignalCall} {s : ProcessState} {handled : Bool}
    {P : ProcessState → Prop} [DecidablePred P]
    (h : (match call.run.run s with
      | .ok answer t => decide (answer.2 = none ∧ answer.1 = handled ∧ P t)
      | .error _ _ => false) = true) :
    ∃ t, call.run.run s = .ok (handled, none) t ∧ P t := by
  generalize call.run.run s = out at h ⊢
  cases out with
  | error e t => simp at h
  | ok answer t =>
    obtain ⟨hnone, hanswer, hP⟩ := of_decide_eq_true h
    refine ⟨t, ?_, hP⟩
    rw [← hanswer, ← hnone]

/-- The same signal for a system with an interpreter, the stubs of which are never looked for. -/
def SignalCall.unknownToInterpreter : SignalCall :=
  { SignalCall.unknown with
    sys :=
      { classifier := { settings := {}, runtime := .interpreter 0 0x10010000 0x60000100 }
        control := .system } }

/-- A signal without registers is handled by a chained handler, also where the interpreter covers
address zero. -/
theorem interpreter_at_zero_unnoticed :
    (∃ t, SignalCall.unknown.run.run .withReentering = .ok (true, none) t ∧
      ProcessState.withReentering.scene.SameStack t.scene ∧ t.savedPc = 0) ∧
    TrapM.visibleResult (SignalCall.unknown.run.run .withReentering) =
      TrapM.visibleResult (SignalCall.unknownToInterpreter.run.run .withReentering) := by
  obtain ⟨⟨hstack, hsaved⟩, -, -, halike⟩ :=
    handled_without_registers .unknown .withReentering rfl (by decide) rfl
  obtain ⟨t, hrun, -⟩ : ∃ t, SignalCall.unknown.run.run .withReentering = .ok (true, none) t ∧
      True :=
    returns_of_decide (by decide +kernel)
  unfold TrapM.stateAfter at hstack hsaved
  rw [hrun] at hstack hsaved
  exact ⟨⟨t, hrun, hstack, hsaved⟩,
    halike SignalCall.unknownToInterpreter.sys ⟨rfl, rfl, rfl⟩ (.inr rfl) _ rfl⟩

/-- A runtime that expects a speculative read at address zero. -/
def ManagedRuntime.fetchingAtZero : ManagedRuntime :=
  { ManagedRuntime.silent with
    speculativeStub := fun pc => if pc = 0 then some 0x30000020 else none }

/-- A signal without registers, for a system of this runtime; the caller can go on without it. -/
def SignalCall.unknownTo (runtime : ManagedRuntime) : SignalCall :=
  { SignalCall.unknown with
    sys := { classifier := { settings := {}, runtime }, control := .system }
    abort := false }

/-- Where a speculative read is expected at address zero, a signal without registers is logged as
such a read and not handled, and the willing handler is not asked. -/
theorem fetch_at_zero_redirects :
    (∃ t, (SignalCall.unknownTo .fetchingAtZero).run.run .withWilling = .ok (false, none) t ∧
      t.log.toList.map (fun e => (e.rule, e.disposition)) =
        [(.safeFetch, .redirect 0x30000020)] ∧
      t.scene.interactions = [.speculativeStub 0]) ∧
    ∃ t, (SignalCall.unknownTo .silent).run.run .withWilling = .ok (true, none) t ∧
      t.log.toList.map (fun e => (e.rule, e.disposition)) = [(.chained, .ignore)] :=
  ⟨returns_of_decide (by decide +kernel), returns_of_decide (by decide +kernel)⟩

end ManagedFaults
