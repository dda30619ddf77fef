import ManagedFaults.Fatal.Report
import ManagedFaults.Trap.Process

/-!
# Dispatching traps

How a signal is handled from its arrival to its end: it is classified, logged, and the disposition
is applied to the registers of the interrupted thread.  Chained handlers run in between, and may
call the trap system again; each such call runs lower on the stack, and `services` builds the
system level by level, from the end of the stack upwards.
-/

namespace ManagedFaults

/-- Who installs the trap entry and unblocks signals. -/
inductive SignalAuthority where
  /-- The system itself, by its signal actions and masks. -/
  | system
  /-- Another party, which is only asked. -/
  | delegated
deriving DecidableEq, Repr, Inhabited

/-- What a trap system is assembled from. -/
structure Dispatcher where
  classifier : Classifier
  control : SignalAuthority

namespace Dispatcher

/-- The settings. -/
def settings (sys : Dispatcher) : TrapSettings := sys.classifier.settings

/-- The managed runtime. -/
def runtime (sys : Dispatcher) : ManagedRuntime := sys.classifier.runtime

end Dispatcher

/-- What foreign code can call while it runs inside the trap handler. -/
structure Services where
  /-- Handles a signal from the start. -/
  handle : SignalCause → Delivery → Option Context → Bool → TrapM (Bool × Option Context)
  /-- Offers a signal to the chained handlers. -/
  dispatch : SignalCause → Delivery → TrapM Bool
  /-- Runs the signal entry. -/
  entry : Delivery → TrapM Unit

namespace Services

/-- No call returns when the stack is used up. -/
def exhausted : Services :=
  { handle := fun _ _ _ _ => throw .stackExhausted
    dispatch := fun _ _ => throw .stackExhausted
    entry := fun _ => throw .stackExhausted }

end Services

/-- Runs foreign code. -/
def Script.run (services : Services) : Script → TrapM Bool
  | .answer handled => return handled
  | .note text next => do
    TrapM.record (.mark text)
    next.run services
  | .readRegisters next => do
    (next (← get).rewritten).run services
  | .writeRegisters registers next => do
    TrapM.rewrite registers
    next.run services
  | .readMask next => do
    (next (← get).os.mask).run services
  | .handle info raw context abort next => do
    let (handled, context) ← services.handle info raw context abort
    (next handled context).run services
  | .offer info raw next => do
    let handled ← services.dispatch info raw
    (next handled).run services
  | .log event next => do
    TrapM.logTrap event
    next.run services
  | .askFatal next => do
    (next (← get).latch.inProgress).run services

/-! ## Chained handlers -/

/-- Calls the function of a kept action. -/
def callForeign (sys : Dispatcher) (services : Services) (handler : ActionHandler)
    (call : ForeignCall) : TrapM Unit :=
  match handler with
  | .foreign address => do
    let _ ← (sys.runtime.foreign address call).run services
  | .trapEntry => services.entry (call.delivered.getD { signo := call.signo })
  | .default => return ()
  | .ignore => return ()

/-- Offers a signal to a kept action.  A default action declines and an ignoring one accepts;
any other is called, with its mask in force while it runs. -/
def tryKept (sys : Dispatcher) (services : Services) (slot : Nat) (info : SignalCause)
    (raw : Delivery) : TrapM Bool := do
  match (← get).previous[slot]? with
  | none => return false
  | some p =>
    match p.action.handler with
    | .default => return false
    | .ignore => return true
    | handler =>
      modify fun s => { s with previous := s.previous.set slot p.called }
      let blocked := (← get).os.mask
      TrapM.setMask p.runMask
      callForeign sys services handler (p.arguments raw)
      TrapM.setMask blocked
      TrapM.say .debug (p.signal.text ++ " forwarded to previous handler (" ++ info.text ++ ")")
      return true

/-- Offers a signal to one chained handler. -/
def ChainedHandler.tryHandle (sys : Dispatcher) (services : Services) (h : ChainedHandler)
    (info : SignalCause) (raw : Delivery) : TrapM Bool :=
  match h with
  | .script run _ => (run info raw).run services
  | .previous slot => tryKept sys services slot info raw

/-- Drops a chained handler, running the code it has for that. -/
def ChainedHandler.drop (services : Services) : ChainedHandler → TrapM Unit
  | .script _ (some onDrop) => do
    let _ ← onDrop.run services
  | _ => return ()

/-- Offers a signal to the chained handlers that accept it, in order, until one handles it.  While
the registry is being changed nobody is asked. -/
def dispatch (sys : Dispatcher) (services : Services) (info : SignalCause) (raw : Delivery) :
    TrapM Bool := do
  TrapM.record (.dispatch info.signal)
  let s ← get
  if s.lock.writing then
    TrapM.say .warn
      ("chained handler registry busy; " ++ info.signal.text ++ " not forwarded")
    return false
  else
    modify fun s => { s with lock := { s.lock with readers := s.lock.readers + 1 } }
    let handled ← (s.registry.accepting info.signal).anyM fun e =>
      e.handler.tryHandle sys services info raw
    modify fun s => { s with lock := { s.lock with readers := s.lock.readers - 1 } }
    return handled

/-! ## Classification -/

/-- The stages of classification. -/
inductive Stage where
  | brokenPipe
  | safeFetch
  | stackGuard
  | managedCode
  | runtimeUnsafeAccess
  | fastAccessorSlowCase
  | serializePage
  | chained
  | unrecognized
deriving DecidableEq, Repr

namespace Stage

/-- The stages in the order in which they are tried. -/
def order : List Stage :=
  [.brokenPipe, .safeFetch, .stackGuard, .managedCode, .runtimeUnsafeAccess,
   .fastAccessorSlowCase, .serializePage, .chained, .unrecognized]

/-- The name of a stage. -/
def name : Stage → String
  | .brokenPipe => "broken-pipe"
  | .safeFetch => "safefetch"
  | .stackGuard => "stack-guard"
  | .managedCode => "managed-code"
  | .runtimeUnsafeAccess => "runtime-unsafe-access"
  | .fastAccessorSlowCase => "fast-accessor-slowcase"
  | .serializePage => "serialize-page"
  | .chained => "chained"
  | .unrecognized => "unrecognized"

end Stage

/-- The trap with its registers as they are now. -/
def Trap.now (i : Trap) (s : ProcessState) : Trap :=
  { i with context := s.current i.raw i.context }

namespace Classifier

/-- The classification of last resort. -/
def unrecognized : Classification :=
  { rule := .unrecognized, disposition := .escalate }

/-- Signals of the broken-pipe class have no meaning for the managed language: chained handlers go
first, and otherwise they are ignored. -/
def brokenPipe (offer : TrapM Bool) (i : Trap) : TrapM (Option Classification) := do
  if i.signal.isBrokenPipe then
    if ← offer then
      TrapM.say .debug (i.signal.text ++ " handled by chained handler")
    return some { rule := .brokenPipe, disposition := .ignore }
  else
    return none

/-- A signal that a chained handler accepts needs nothing more. -/
def chained (offer : TrapM Bool) : TrapM (Option Classification) := do
  if ← offer then
    return some { rule := .chained, disposition := .ignore }
  else
    return none

/-- Tries one stage; `offer` offers the signal to the chained handlers. -/
def attempt (c : Classifier) (offer : TrapM Bool) (i : Trap) :
    Stage → TrapM (Option Classification)
  | .brokenPipe => brokenPipe offer i
  | .safeFetch => TrapM.onScene (c.safeFetch i)
  | .stackGuard => TrapM.onScene (c.stackGuard i)
  | .managedCode => TrapM.onScene (c.managedCode i)
  | .runtimeUnsafeAccess => TrapM.onScene (c.runtimeUnsafeAccess i)
  | .fastAccessorSlowCase => TrapM.onScene (c.fastAccessorSlowCase i)
  | .serializePage => TrapM.onScene (c.serializePage i)
  | .chained => chained offer
  | .unrecognized => return some unrecognized

/-- The line that is printed about a classified trap. -/
def traceLine (i : Trap) (c : Classification) : String :=
  "trap: " ++ i.info.text ++ " pc=" ++ i.pc.hex ++ " [" ++ c.rule.name ++ "] -> "
    ++ c.disposition.text

/-- Classifies a trap: the first stage that does not pass decides. -/
def classify (c : Classifier) (offer : TrapM Bool) (i : Trap) : TrapM Classification := do
  let classification := (← Stage.order.findSomeM? (c.attempt offer i)).getD unrecognized
  if c.settings.traceTraps then
    TrapM.say .info (traceLine (i.now (← get)) classification)
  return classification

end Classifier

/-! ## The fatal error path -/

/-- Reports a trap that could not be recovered.  The first thread to get here prints the report
and runs the reporter; if that traps again, the process is aborted; any other thread waits. -/
def escalate {α : Type} (sys : Dispatcher) (services : Services) (trap : UnrecoverableTrap)
    (raw : Delivery) : TrapM α := do
  let s ← get
  let (won, latch) := s.latch.claim
  set { s with latch }
  if won then
    modify fun s => { s with latch := s.latch.name s.os.id }
    let s ← get
    match FatalReport.lines sys.runtime s.memory s.loggedEvents trap with
    | none => throw .unreadable
    | some lines =>
      TrapM.report lines
      let _ ← (sys.runtime.reporter trap raw).run services
      throw .reported
  else if s.latch.isMine s.os.id then
    TrapM.report [FatalReport.nestedLine trap]
    throw .aborted
  else
    throw .parked

/-- Unblocks a signal for the running thread. -/
def unblockSignal (signal : Signal) : TrapM Unit :=
  TrapM.modifyOs fun t => { t with mask := t.mask.erase signal.number }

/-- Has a signal unblocked by whoever controls signals. -/
def SignalAuthority.unblock (control : SignalAuthority) (signal : Signal) : TrapM Unit :=
  match control with
  | .system => unblockSignal signal
  | .delegated => TrapM.record (.unblock signal)

/-! ## Handling a signal -/

/-- What rules look at.  Without registers only rules that do not need them can apply, so the
thread and the fault address are withheld. -/
def Trap.ofSignal (info : SignalCause) (raw : Delivery) (context : Option Context)
    (thread : Option ManagedThread) : Trap :=
  match context with
  | some context => { info, raw, context, thread }
  | none =>
    { info := { info with faultAddress := none }, raw, context := default, thread := none }

/-- Applies a disposition that lets the thread go on; `none` if there is no such. -/
def resume (c : Classification) (context : Option Context) (pc : Word) :
    TrapM (Option (Option Context)) :=
  match c.disposition, context with
  | .ignore, _ => return some context
  | .redirect stub, some registers => do
    -- A retry on the reserved zone resumes at the faulting instruction itself.
    if c.rule ≠ .reservedStack then
      modify fun s => if s.thread.isSome then { s with savedPc := pc } else s
    return some (some (registers.setPc stub))
  | _, _ => return none

/-- The record of a trap that cannot be recovered. -/
def unrecoverableTrap (s : ProcessState) (info : SignalCause) (context : Option Context) (pc : Word)
    (rule : TrapRule) : UnrecoverableTrap :=
  { thread := s.thread.map (·.id)
    info, pc, rule
    registers := (context.getD default).saved
    stack := s.thread.bind fun _ => s.scene.guard.map (·.layout.bounds) }

/-- Handles a signal at stack pointer `sp`: classifies it, logs it and applies the disposition to
the registers.  Tells whether the signal was handled.  A trap that cannot be recovered does not
return if `abort` is set, and else gives the caller another chance. -/
def handle (sys : Dispatcher) (services : Services) (sp : Nat) (info : SignalCause)
    (raw : Delivery) (context : Option Context) (abort : Bool) :
    TrapM (Bool × Option Context) := do
  let nested ← TrapM.enterTrap sp
  let thread := (← get).thread
  let input := Trap.ofSignal info raw context thread
  let classification ←
    if nested then
      pure { rule := .nestedFault, disposition := .escalate }
    else
      sys.classifier.classify (dispatch sys services input.info raw) input
  -- A chained handler may have written to the registers meanwhile.
  let s ← get
  let context := if nested then context else context.map (s.current raw)
  let pc := (context.getD default).pc
  let sequence ← TrapM.nextSequence
  TrapM.logTrap
    { sequence, thread := thread.map (·.id), info, pc, rule := classification.rule,
      disposition := classification.disposition }
  match ← resume classification context pc with
  | some context =>
    TrapM.leaveTrap nested
    return (true, context)
  | none =>
    if abort then
      sys.control.unblock info.signal
      escalate sys services (unrecoverableTrap (← get) info context pc classification.rule) raw
    else
      TrapM.leaveTrap nested
      return (false, context)

/-! ## Entries -/

/-- The entry for code that owns the signal actions and forwards faults: tells whether the signal
was handled, and gives back the delivered registers.  Before publication nothing is handled. -/
def forwardSignal
    (handle : SignalCause → Delivery → Option Context → Bool → TrapM (Bool × Option Context))
    (raw : Delivery) (abort : Bool) : TrapM (Bool × Option MachineContext) := do
  if (← get).publication.published.isNone then
    return (false, raw.context)
  else
    let info := SignalCause.ofDelivered raw.signo raw.info
    match ← handle info raw (raw.context.map .delivered) abort with
    | (handled, some (.delivered registers)) => return (handled, some registers)
    | (handled, _) => return (handled, raw.context)

/-- Restores the default action of a signal. -/
def resetAction (signo : Int32) : TrapM Unit :=
  modify fun s =>
    match s.actions.replace signo {} with
    | .ok (_, actions) => { s with actions }
    | .error errno => { s with os := { s.os with errno } }

/-- The handler that is installed for every trap signal.  It keeps the error number of the
interrupted code; a signal that is not handled gets its default action back, so that the faulting
instruction ends the process. -/
def enterFromKernel
    (handle : SignalCause → Delivery → Option Context → Bool → TrapM (Bool × Option Context))
    (raw : Delivery) : TrapM (Option MachineContext) := do
  let errno := (← get).os.errno
  let (handled, registers) ← forwardSignal handle raw true
  if !handled then
    resetAction raw.signo
  TrapM.modifyOs fun t => { t with errno }
  return registers

/-! ## The levels of the stack -/

/-- What can be called with room for `n` more handlers on the stack.  Handlers run at stack
pointer `n`, so each call runs below its caller. -/
def services (sys : Dispatcher) : Nat → Services
  | 0 => Services.exhausted
  | n + 1 =>
    let lower := services sys n
    let handle := handle sys lower (n + 1)
    { handle := handle
      dispatch := dispatch sys lower
      entry := fun raw => do
        let _ ← enterFromKernel handle raw }

end ManagedFaults
