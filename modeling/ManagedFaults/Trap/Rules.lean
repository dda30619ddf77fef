import ManagedFaults.Stack.Guard
import ManagedFaults.Trap.ManagedRuntime

/-!
# Classification rules

Each rule looks at a trap and either classifies it or passes.  A rule may ask the runtime, may
disable guard zones of the faulting thread and may print, but never touches the registers.  The
rules here decide by themselves; those that offer the signal to chained handlers are part of
dispatching.
-/

namespace ManagedFaults

/-- All that a rule looks at. -/
structure Trap where
  info : SignalCause
  raw : Delivery
  context : Context
  thread : Option ManagedThread

namespace Trap

/-- Where the thread was interrupted. -/
def pc (i : Trap) : Word := i.context.pc

/-- The signal that arrived. -/
def signal (i : Trap) : Signal := i.info.signal

/-- What the thread was doing, if it is a managed one. -/
def activity (i : Trap) : Option Activity := i.thread.map (·.state)

/-- The thread and the fault address, when both are known. -/
def fault? (i : Trap) : Option (ManagedThread × Word) :=
  i.thread.bind fun t => i.info.faultAddress.map fun a => (t, a)

end Trap

/-! ## What rules work on -/

/-- What a rule can change: the guard of the faulting thread, the pages under it, the console, and
the record of interactions. -/
structure Scene where
  guard : Option StackGuard := none
  pages : AddressSpace
  console : Console := {}
  interactions : List Interaction := []

instance : Inhabited Scene := ⟨{ pages := default }⟩

/-- A computation on the scene. -/
abbrev RuleM := StateM Scene

namespace Scene

/-- Keeps an interaction. -/
def record (s : Scene) (i : Interaction) : Scene :=
  { s with interactions := s.interactions ++ [i] }

/-- Prints a message. -/
def say (s : Scene) (l : Level) (text : String) : Scene :=
  { s with console := s.console.say l text }

/-- Forgets what was kept and printed so far. -/
def forget (s : Scene) : Scene :=
  { s with interactions := [], console := { s.console with printed := [] } }

/-- Chooses the verbosity of the console. -/
def setLevel (s : Scene) (l : Level) : Scene :=
  { s with console := { s.console with level := l } }

/-- Applies a change of the guarded stack, printing its warnings; nothing happens to a thread
without a guard. -/
def mapGuard {α : Type} (s : Scene) (f : GuardedStack → α × GuardedStack) : Option α × Scene :=
  match s.guard with
  | none => (none, s)
  | some guard =>
    let (a, g) := f { guard, pages := s.pages }
    let console := g.warnings.foldl (fun c w => c.say .warn w) s.console
    (some a, { s with guard := some g.guard, pages := g.pages, console })

end Scene

namespace RuleM

/-- Keeps the interaction with which an answer was obtained. -/
def ask {α : Type} (i : Interaction) (answer : α) : RuleM α := do
  modify (·.record i)
  return answer

/-- Prints a message. -/
def say (l : Level) (text : String) : RuleM Unit :=
  modify (·.say l text)

/-- Changes the guarded stack. -/
def onGuard (f : GuardedStack → GuardedStack) : RuleM Unit :=
  modify fun s => (s.mapGuard fun g => ((), f g)).2

end RuleM

/-- The rules that decide by themselves. -/
structure Classifier where
  settings : TrapSettings
  runtime : ManagedRuntime

namespace Classifier

/-- The classification that resumes the thread at a stub. -/
def redirect (rule : TrapRule) (stub : Word) : Option Classification :=
  some { rule, disposition := .redirect stub }

/-! ## Speculative reads -/

/-- A fault at a speculative read goes on where the read says. -/
def safeFetch (c : Classifier) (i : Trap) : RuleM (Option Classification) := do
  let stub ← RuleM.ask (.speculativeStub i.pc) (c.runtime.speculativeStub i.pc)
  return stub.bind (redirect .safeFetch)

/-! ## Stack overflow -/

/-- The managed frame that was testing the stack.  Compiled code tests it before it saves the
link register, so the stack and frame pointers are still those of the caller, which goes on after
the call that the link register returns to. -/
def bangingFrame (c : Classifier) (context : Context) : RuleM (Option Frame) := do
  let pc := context.pc
  if ← RuleM.ask (.interprets pc) (c.runtime.interprets pc) then
    return some (Frame.ofContext (some context))
  else
    let method ← RuleM.ask (.methodAt pc) (c.runtime.methodAt pc)
    return method.bind fun m =>
      if m.frameBuilt then
        none
      else
        context.lr.map fun lr =>
          { sp := context.sp, fp := context.fp, pc := lr - Word.instructionBytes }

/-- The activation that may be given the reserved zone. -/
def reserveHolder (c : Classifier) (thread : ManagedThread) (context : Context) :
    RuleM (Option ReserveHolder) := do
  match ← c.bangingFrame context with
  | none => return none
  | some frame =>
    RuleM.ask (.reserveHolder thread.id frame) (c.runtime.reserveHolder thread frame)

/-- The stub that raises an implicit exception. -/
def implicitException (c : Classifier) (thread : ManagedThread) (pc : Word)
    (kind : ImplicitException) : RuleM (Option Word) :=
  RuleM.ask (.raiseStub thread.id pc kind) (c.runtime.raiseStub thread pc kind)

/-- An overflow into the yellow or reserved zone of managed code: the reserved zone is handed to
an activation that needs it, else both zones are opened and the exception is raised. -/
def managedOverflow (c : Classifier) (i : Trap) (thread : ManagedThread) (guard : StackGuard)
    (address : Word) : RuleM (Option Classification) := do
  let activation ←
    if guard.layout.inReserved address && guard.reservedArmed then
      c.reserveHolder thread i.context
    else
      pure none
  match activation with
  | some activation =>
    RuleM.onGuard fun g =>
      let g := g.lendReserved
      g.withGuard (g.guard.lendTo activation.address)
    RuleM.say .debug ("reserved stack activation at " ++ activation.address.hex
      ++ " for pc " ++ i.pc.hex)
    -- The faulting instruction is tried again with the reserved zone open.
    return redirect .reservedStack i.pc
  | none =>
    RuleM.onGuard GuardedStack.openYellow
    let stub ← c.implicitException thread i.pc .stackOverflow
    return stub.bind (redirect .stackOverflow)

/-- An overflow into the red zone cannot be recovered. -/
def redOverflow : RuleM (Option Classification) := do
  RuleM.onGuard GuardedStack.openRed
  RuleM.say .error "An irrecoverable stack overflow has occurred."
  RuleM.say .error ("Please check if any of your loaded .so files has enabled executable stack "
    ++ "(see man page execstack(8))")
  return some { rule := .stackRedZone, disposition := .escalate }

/-- Stack overflow in all its forms: a segmentation fault on the stack of a guarded thread. -/
def stackGuard (c : Classifier) (i : Trap) : RuleM (Option Classification) := do
  if i.signal ≠ .segv then
    return none
  match i.fault?, (← get).guard with
  | some (thread, address), some guard =>
    -- The kernel's guard pages lie above ours.
    let address := address.saturatingSub c.settings.kernelGuardBytes
    if !guard.layout.onStack address then
      return none
    else if guard.layout.inYellowOrReserved address then
      if thread.state ≠ .managed then
        -- Native code returns and finishes in the room it has gained.
        RuleM.onGuard GuardedStack.openYellow
        return some { rule := .nativeStackOverflow, disposition := .ignore }
      else
        c.managedOverflow i thread guard address
    else if guard.layout.inRed address then
      redOverflow
    else
      return none
  | _, _ => return none

/-! ## Faults of managed code -/

/-- An access fault in a compiled method that performs unchecked accesses. -/
def uncheckedAccess (c : Classifier) (i : Trap) (thread : ManagedThread) :
    RuleM (Option Classification) := do
  match ← RuleM.ask (.methodAt i.pc) (c.runtime.methodAt i.pc) with
  | none => return none
  | some method =>
    if !method.uncheckedAccesses then
      return none
    else
      let next := i.pc + Word.instructionBytes
      let stub ← RuleM.ask (.uncheckedStub thread.id next) (c.runtime.uncheckedStub thread next)
      return redirect .unsafeAccess stub

/-- The exception of the managed language that the fault stands for, if it has a stub. -/
def implicit (c : Classifier) (i : Trap) (thread : ManagedThread) (rule : TrapRule)
    (kind : ImplicitException) : RuleM (Option Classification) := do
  let stub ← c.implicitException thread i.pc kind
  return stub.bind (redirect rule)

/-- A segmentation fault in managed code: a safepoint poll, or the use of a null reference. -/
def managedSegv (c : Classifier) (i : Trap) (thread : ManagedThread) (address : Word) :
    RuleM (Option Classification) := do
  if ← RuleM.ask (.pollAddress address) (c.runtime.isPoll address) then
    let stub ← RuleM.ask (.safepointStub i.pc) (c.runtime.safepointStub i.pc)
    return stub.bind (redirect .safepointPoll)
  else if c.settings.beyondNullPage address then
    return none
  else
    c.implicit i thread .implicitNull .null

/-- An illegal instruction or a breakpoint: the entry of an outdated method. -/
def zombieEntry (c : Classifier) (i : Trap) : RuleM (Option Classification) := do
  if ← RuleM.ask (.outdatedEntry i.pc) (c.runtime.isOutdatedEntry i.pc) then
    let stub ← RuleM.ask .resolveStub c.runtime.resolveStub
    return redirect .zombieEntry stub
  else
    return none

/-- Faults in managed code that stand for what the managed language says. -/
def managedCode (c : Classifier) (i : Trap) : RuleM (Option Classification) := do
  if i.activity ≠ some .managed then
    return none
  match i.fault? with
  | none => return none
  | some (thread, address) =>
    match i.signal with
    | .ill => c.zombieEntry i
    | .trap => c.zombieEntry i
    | .segv => c.managedSegv i thread address
    | .bus => c.uncheckedAccess i thread
    | .fpe =>
      if i.info.dividesByZero then
        c.implicit i thread .divideByZero .divideByZero
      else
        return none
    | _ => return none

/-! ## Faults of the runtime -/

/-- An access fault while the runtime performs an unchecked access. -/
def runtimeUnsafeAccess (c : Classifier) (i : Trap) : RuleM (Option Classification) := do
  match i.fault? with
  | none => return none
  | some (thread, _) =>
    if i.signal ≠ .bus ∨ thread.state ≠ .runtime ∨ !thread.inUncheckedAccess then
      return none
    else
      let next := i.pc + Word.instructionBytes
      let stub ← RuleM.ask (.uncheckedStub thread.id next) (c.runtime.uncheckedStub thread next)
      return redirect .runtimeUnsafeAccess stub

/-- Fast field accessors can fault when the heap shrinks under them. -/
def fastAccessorSlowCase (c : Classifier) (i : Trap) : RuleM (Option Classification) := do
  if i.fault?.isNone ∨ (i.signal ≠ .segv ∧ i.signal ≠ .bus) then
    return none
  else
    let stub ← RuleM.ask (.slowPath i.pc) (c.runtime.slowPath i.pc)
    return stub.bind (redirect .fastAccessorSlowCase)

/-- The safepoint protocol protects the serialization page for a short time: the thread waits
until it is writable, and tries again. -/
def serializePage (c : Classifier) (i : Trap) : RuleM (Option Classification) := do
  match i.fault? with
  | none => return none
  | some (_, address) =>
    if i.signal ≠ .segv then
      return none
    else if ← RuleM.ask (.serializePage address) (c.runtime.isSerialization address) then
      RuleM.ask .blockOnSerializePage ()
      return some { rule := .serializePage, disposition := .ignore }
    else
      return none

end Classifier

end ManagedFaults
