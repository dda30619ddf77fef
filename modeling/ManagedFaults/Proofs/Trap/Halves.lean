import ManagedFaults.Proofs.Trap.Running

/-!
# The two halves of handling a signal

Handling a signal is first finding a verdict, entering the handler and classifying the trap, and
then concluding by it: the event is logged and the disposition applied (`handle_run`).
-/

namespace ManagedFaults

/-- The program counter of the interrupted thread; zero if its registers are not known. -/
def interruptedPc (context : Option Context) : Word :=
  (context.getD default).pc

/-- The first half: enters the handler and classifies the trap, unless the handler is nested. -/
def verdict (sys : Dispatcher) (sv : Services) (sp : Nat) (info : SignalCause) (raw : Delivery)
    (context : Option Context) : TrapM Classification := do
  let nested ← TrapM.enterTrap sp
  let input := Trap.ofSignal info raw context (← get).thread
  if nested then
    return { rule := .nestedFault, disposition := .escalate }
  else
    sys.classifier.classify (dispatch sys sv input.info raw) input

/-- The event that a handler logs about its trap. -/
def ownEvent (thread : Option ManagedThread) (info : SignalCause) (context : Option Context)
    (cl : Classification) (sequence : UInt64) : TrapRecord :=
  { sequence, thread := thread.map (·.id), info, pc := interruptedPc context, rule := cl.rule
    disposition := cl.disposition }

/-- The process once a handler has offered its event to the log, and taken a number for it. -/
def ProcessState.logged (m : ProcessState) (event : TrapRecord) : ProcessState :=
  { m with log := m.logWith event, sequence := m.sequence + 1 }

/-- Applies the disposition, or gives up. -/
def carryOut (sys : Dispatcher) (sv : Services) (info : SignalCause) (raw : Delivery)
    (context : Option Context) (abort nested : Bool) (cl : Classification) :
    TrapM (Bool × Option Context) := do
  match ← resume cl context (interruptedPc context) with
  | some context =>
    TrapM.leaveTrap nested
    return (true, context)
  | none =>
    if abort then
      sys.control.unblock info.signal
      escalate sys sv (unrecoverableTrap (← get) info context (interruptedPc context) cl.rule) raw
    else
      TrapM.leaveTrap nested
      return (false, context)

/-- The second half: logs the event and applies the disposition. -/
def conclude (sys : Dispatcher) (sv : Services) (info : SignalCause) (raw : Delivery)
    (context : Option Context) (abort nested : Bool) (thread : Option ManagedThread)
    (cl : Classification) : TrapM (Bool × Option Context) := do
  let sequence ← TrapM.nextSequence
  TrapM.logTrap (ownEvent thread info context cl sequence)
  carryOut sys sv info raw context abort nested cl

lemma conclude_run (sys : Dispatcher) (sv : Services) (info : SignalCause) (raw : Delivery)
    (context : Option Context) (abort nested : Bool) (thread : Option ManagedThread)
    (cl : Classification) (m : ProcessState) :
    (conclude sys sv info raw context abort nested thread cl).run m =
      (carryOut sys sv info raw context abort nested cl).run
        (m.logged (ownEvent thread info context cl m.sequence)) :=
  rfl

/-- The registers that a verdict, found in state `m`, is applied to.  Whoever an outermost handler
has asked for it may have written to the delivered ones; a nested one has asked nobody. -/
def registersAt (raw : Delivery) (context : Option Context) (nested : Bool) (m : ProcessState) :
    Option Context :=
  if nested then context else context.map (m.current raw)

/-- A handler enters, and concludes by the classification of the trap or, if it is nested, by the
verdict on nested faults. -/
lemma handle_eq (sys : Dispatcher) (sv : Services) (sp : Nat) (info : SignalCause)
    (raw : Delivery) (context : Option Context) (abort : Bool) :
    handle sys sv sp info raw context abort = (do
      let nested ← TrapM.enterTrap sp
      let s ← get
      let input := Trap.ofSignal info raw context s.thread
      if nested then
        conclude sys sv info raw context abort nested s.thread
          { rule := .nestedFault, disposition := .escalate }
      else do
        let cl ← sys.classifier.classify (dispatch sys sv input.info raw) input
        let m ← get
        conclude sys sv info raw (registersAt raw context nested m) abort nested s.thread cl) := by
  unfold handle
  refine bind_congr fun nested => bind_congr fun s => ?_
  cases nested <;> rfl

/-- The state in which a handler at `sp` finds its verdict. -/
def ProcessState.entered (s : ProcessState) (sp : Nat) : ProcessState :=
  { s with
    os := { s.os with mark := (s.os.mark.enter sp).2 }
    rewritten := if (s.os.mark.enter sp).1 then s.rewritten else none }

lemma TrapM.run_enterTrap (sp : Nat) (s : ProcessState) :
    (TrapM.enterTrap sp).run s = .ok (s.os.mark.enter sp).1 (s.entered sp) :=
  rfl

/-- Handling a signal is finding the verdict and concluding by it. -/
theorem handle_run (sys : Dispatcher) (sv : Services) (sp : Nat) (info : SignalCause)
    (raw : Delivery) (context : Option Context) (abort : Bool) (s : ProcessState) :
    (handle sys sv sp info raw context abort).run s =
      match (verdict sys sv sp info raw context).run s with
      | .ok cl t =>
        (conclude sys sv info raw (registersAt raw context (s.os.mark.enter sp).1 t) abort
          (s.os.mark.enter sp).1 s.thread cl).run t
      | .error e t => .error e t := by
  rw [handle_eq, TrapM.run_bind_of_ok (TrapM.run_enterTrap sp s), TrapM.run_get_bind]
  unfold verdict
  rw [TrapM.run_bind_of_ok (TrapM.run_enterTrap sp s), TrapM.run_get_bind]
  cases (s.os.mark.enter sp).1 with
  | true => rfl
  | false =>
    dsimp only
    rw [if_neg Bool.false_ne_true, if_neg Bool.false_ne_true, EStateM.run_bind]
    generalize (sys.classifier.classify _ _).run _ = out
    cases out <;> rfl

/-! ## Signals that arrive -/

/-- A signal that arrives: the trap system that handles it, the room on the stack below the
handler, where the handler runs, and what it is given. -/
structure SignalCall where
  sys : Dispatcher
  room : Nat
  sp : Nat
  info : SignalCause
  raw : Delivery
  context : Option Context
  abort : Bool

namespace SignalCall

/-- What foreign code can call while the signal is handled. -/
def below (call : SignalCall) : Services :=
  services call.sys call.room

/-- Handles the signal. -/
def run (call : SignalCall) : TrapM (Bool × Option Context) :=
  handle call.sys call.below call.sp call.info call.raw call.context call.abort

/-- The trap that the rules look at. -/
def input (call : SignalCall) (thread : Option ManagedThread) : Trap :=
  Trap.ofSignal call.info call.raw call.context thread

/-- Offers the signal to the chained handlers. -/
def offer (call : SignalCall) (thread : Option ManagedThread) : TrapM Bool :=
  dispatch call.sys call.below (call.input thread).info call.raw

/-- Finds the verdict on the signal. -/
def verdict (call : SignalCall) : TrapM Classification :=
  ManagedFaults.verdict call.sys call.below call.sp call.info call.raw call.context

/-- The registers of the signal when the outermost handler has its verdict, in state `m`. -/
def registersAfter (call : SignalCall) (m : ProcessState) : Option Context :=
  registersAt call.raw call.context false m

/-- The verdict of a nested handler is fixed. -/
lemma verdict_run_nested {call : SignalCall} {s : ProcessState}
    (hnested : (s.os.mark.enter call.sp).1 = true) :
    call.verdict.run s =
      .ok { rule := .nestedFault, disposition := .escalate } (s.entered call.sp) := by
  have henter : (TrapM.enterTrap call.sp).run s = .ok true (s.entered call.sp) := by
    rw [TrapM.run_enterTrap, hnested]
  unfold SignalCall.verdict ManagedFaults.verdict
  rw [TrapM.run_bind_of_ok henter, TrapM.run_get_bind]
  rfl

/-- The verdict of an outermost handler is the classification of the trap. -/
lemma verdict_run {call : SignalCall} {s : ProcessState}
    (houter : (s.os.mark.enter call.sp).1 = false) :
    call.verdict.run s =
      (call.sys.classifier.classify (call.offer s.thread) (call.input s.thread)).run
        (s.entered call.sp) := by
  have henter : (TrapM.enterTrap call.sp).run s = .ok false (s.entered call.sp) := by
    rw [TrapM.run_enterTrap, houter]
  unfold SignalCall.verdict ManagedFaults.verdict
  rw [TrapM.run_bind_of_ok henter, TrapM.run_get_bind]
  rfl

end SignalCall

end ManagedFaults
