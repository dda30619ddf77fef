import ManagedFaults.Handler.Kept
import ManagedFaults.Handler.Registry
import ManagedFaults.RingBuffer
import ManagedFaults.Trap.Rules

/-!
# The process that traps happen in

All that handling a trap can change, and the computations on it.  Most computations return; one
that ends its thread instead says how.
-/

namespace ManagedFaults

/-! ## Threads -/

/-- The number the threads library knows a thread by; no thread has number zero. -/
abbrev OsThreadId := Nat

/-- The stack pointer at which the outermost trap handler of a thread runs; zero if none does. -/
structure NestingMark where
  recorded : Nat := 0
deriving DecidableEq, Repr, Inhabited

namespace NestingMark

/-- Enters the trap handler at stack pointer `sp`.  It is nested if it runs below the recorded
one; a record at or below `sp` is left over from a handler that never returned, and replaced. -/
def enter (m : NestingMark) (sp : Nat) : Bool × NestingMark :=
  if m.recorded ≠ 0 ∧ sp < m.recorded then (true, m) else (false, { recorded := sp })

/-- Leaves the trap handler; the outermost one clears the record. -/
def leave (m : NestingMark) (nested : Bool) : NestingMark :=
  if nested then m else {}

end NestingMark

/-- The thread that is running, as the system knows it. -/
structure OsThread where
  id : OsThreadId := 1
  mask : SignalSet := SignalSet.empty
  mark : NestingMark := {}
  errno : Int32 := 0

instance : Inhabited OsThread := ⟨{}⟩

/-- A thread that starts after this one has ended: nothing blocked, no handler active. -/
def OsThread.next (t : OsThread) : OsThread :=
  { id := t.id + 1 }

/-! ## Chained handlers -/

/-- A chained handler: foreign code, which may also run code when it is dropped, or a kept action
by its number. -/
inductive ChainedHandler where
  | script (run : SignalCause → Delivery → Script) (onDrop : Option Script)
  | previous (slot : Nat)

instance : Inhabited ChainedHandler := ⟨.previous 0⟩

/-- The lock of the registry: how many dispatches read it, and whether a change is under way. -/
structure RegistryLock where
  readers : Nat := 0
  writing : Bool := false
deriving DecidableEq, Repr, Inhabited

/-! ## The fatal error latch

Whoever claims the latch first reports the fatal error, and nobody else ever does.  Claiming and
writing down who claimed are two steps, so that between them another thread can see the claim
without the name. -/

/-- Whether a fatal error is being reported, and by which thread; zero until that is written. -/
structure FatalLatch where
  inProgress : Bool := false
  reporter : OsThreadId := 0
deriving DecidableEq, Repr, Inhabited

namespace FatalLatch

/-- Tries to claim the right to report; only the first claim succeeds. -/
def claim (l : FatalLatch) : Bool × FatalLatch :=
  (!l.inProgress, { l with inProgress := true })

/-- Writes down the thread that claimed the latch. -/
def name (l : FatalLatch) (me : OsThreadId) : FatalLatch :=
  { l with reporter := me }

/-- Whether this thread is written down as the reporting one. -/
def isMine (l : FatalLatch) (me : OsThreadId) : Bool :=
  l.reporter == me

end FatalLatch

/-! ## Publication -/

/-- Which trap system the signal entry finds.  An attempt to publish first claims the right to,
then publishes its system; a failed one withdraws it and only then gives up the claim. -/
structure Publication where
  claimed : Bool := false
  /-- The attempt whose system is published. -/
  published : Option Nat := none
deriving DecidableEq, Repr, Inhabited

namespace Publication

/-- Claims the right to publish, unless it is taken. -/
def claim (p : Publication) : Bool × Publication :=
  (!p.claimed, { p with claimed := true })

/-- Publishes the system of an attempt. -/
def publish (p : Publication) (attempt : Nat) : Publication :=
  { p with published := some attempt }

/-- Withdraws whatever is published. -/
def withdraw (p : Publication) : Publication :=
  { p with published := none }

/-- Gives up the right to publish. -/
def release (p : Publication) : Publication :=
  { p with claimed := false }

end Publication

/-! ## The process -/

/-- How many recent traps are kept. -/
abbrev trapLogSlots : Nat := 32

/-- All that handling a trap can change. -/
structure ProcessState where
  scene : Scene
  memory : Memory := fun _ => none
  /-- The managed thread that is running, if one is. -/
  thread : Option ManagedThread := none
  /-- The program counter saved for that thread before it was last redirected. -/
  savedPc : Word := 0
  /-- What foreign code has written over the delivered registers, since the outermost handler
  entered. -/
  rewritten : Option MachineContext := none
  os : OsThread := {}
  actions : ActionTable := {}
  /-- The kept actions, by their numbers. -/
  previous : List KeptAction := []
  registry : Registry ChainedHandler := {}
  lock : RegistryLock := {}
  nextHandle : HandlerHandle := firstHandle
  nextRegistrar : Registrar := firstRegistrar
  log : RingBuffer TrapRecord trapLogSlots := RingBuffer.empty
  /-- Whether somebody else is at the log: the interrupted code, or another thread. -/
  logLocked : Bool := false
  sequence : UInt64 := 0
  latch : FatalLatch := {}
  publication : Publication := {}
  /-- Whether the processor was probed before. -/
  processorProbed : Bool := false

instance : Inhabited ProcessState := ⟨{ scene := default }⟩

namespace ProcessState

/-- The log once an event was offered to it.  Rather than wait for a log that is locked, the event
is dropped. -/
def logWith (s : ProcessState) (e : TrapRecord) : RingBuffer TrapRecord trapLogSlots :=
  if s.logLocked then s.log else s.log.push e

/-- The events in the log, oldest first, unless it is locked. -/
def loggedEvents (s : ProcessState) : Option (List TrapRecord) :=
  if s.logLocked then none else some s.log.toList

/-- The registers that a handler was given, as they are now. -/
def current (s : ProcessState) (raw : Delivery) (context : Context) : Context :=
  match s.rewritten with
  | some registers => if raw.owns context then .delivered registers else context
  | none => context

end ProcessState

/-- How a thread ends in a call that does not return. -/
inductive Ending where
  /-- The reporter of fatal errors ended the process. -/
  | reported
  /-- The process was aborted. -/
  | aborted
  /-- The thread waits for another one to end the process. -/
  | parked
  /-- The stack had no room for another handler. -/
  | stackExhausted
  /-- The thread waits for a lock that is never given up. -/
  | deadlocked
  /-- The report read memory that is not there. -/
  | unreadable
deriving DecidableEq, Repr, Inhabited

/-- A computation of the trap system. -/
abbrev TrapM := EStateM Ending ProcessState

namespace TrapM

/-- Runs a computation on the scene. -/
def onScene {α : Type} (x : RuleM α) : TrapM α :=
  modifyGet fun s =>
    let (a, scene) := x.run s.scene
    (a, { s with scene })

/-- Changes the thread that is running. -/
def modifyOs (f : OsThread → OsThread) : TrapM Unit :=
  modify fun s => { s with os := f s.os }

/-- Keeps an interaction. -/
def record (i : Interaction) : TrapM Unit :=
  modify fun s => { s with scene := s.scene.record i }

/-- Prints a message. -/
def say (l : Level) (text : String) : TrapM Unit :=
  modify fun s => { s with scene := s.scene.say l text }

/-- Prints report lines. -/
def report (lines : List String) : TrapM Unit :=
  modify fun s => { s with scene := { s.scene with console := s.scene.console.report lines } }

/-- Chooses the verbosity of the console. -/
def setLevel (l : Level) : TrapM Unit :=
  modify fun s => { s with scene := s.scene.setLevel l }

/-- Blocks exactly the signals of a set. -/
def setMask (mask : SignalSet) : TrapM Unit :=
  modifyOs fun t => { t with mask := mask.stored }

/-- Whether a trap system is published. -/
def isPublished : TrapM Bool := do
  return (← get).publication.published.isSome

/-- Writes over the delivered registers. -/
def rewrite (registers : MachineContext) : TrapM Unit :=
  modify fun s => { s with rewritten := some registers }

/-- Writes an event into the log, unless that is locked. -/
def logTrap (e : TrapRecord) : TrapM Unit :=
  modify fun s => { s with log := s.logWith e }

/-- The log of the published trap system, oldest event first; there is none if no system is
published.  A log that is locked is waited for. -/
def recentTraps : TrapM (List TrapRecord) := do
  let s ← get
  if s.publication.published.isSome then
    match s.loggedEvents with
    | some events => return events
    | none => throw .deadlocked
  else
    return []

/-- The next number of an event. -/
def nextSequence : TrapM UInt64 :=
  modifyGet fun s => (s.sequence, { s with sequence := s.sequence + 1 })

/-- The next number of a handler. -/
def nextHandle : TrapM HandlerHandle :=
  modifyGet fun s => (s.nextHandle, { s with nextHandle := s.nextHandle + 1 })

/-- The next number of a registrar. -/
def nextRegistrar : TrapM Registrar :=
  modifyGet fun s => (s.nextRegistrar, { s with nextRegistrar := s.nextRegistrar + 1 })

/-- Enters the trap handler at stack pointer `sp` and tells whether it is nested.  The outermost one
finds the registers as they were delivered. -/
def enterTrap (sp : Nat) : TrapM Bool :=
  modifyGet fun s =>
    let (nested, mark) := s.os.mark.enter sp
    (nested, { s with
      os := { s.os with mark }
      rewritten := if nested then s.rewritten else none })

/-- Leaves the trap handler. -/
def leaveTrap (nested : Bool) : TrapM Unit :=
  modifyOs fun t => { t with mark := t.mark.leave nested }

end TrapM

end ManagedFaults
