import ManagedFaults.Frame.Basic
import ManagedFaults.Handler.Script
import ManagedFaults.Settings

/-!
# What the trap system asks the managed runtime

The managed runtime knows its code, its threads and the stubs at which a redirected thread goes
on.  The trap system knows none of that by itself: it asks, and each question it asks while it
handles a trap is kept as an interaction, in the order in which they were asked.
-/

namespace ManagedFaults

/-- What a thread was doing when the signal arrived. -/
inductive Activity where
  /-- Running interpreted or compiled managed code. -/
  | managed
  /-- Running code of the runtime for the managed program. -/
  | runtime
  /-- Inside a native call. -/
  | native
  /-- Parked or waiting. -/
  | blocked
deriving DecidableEq, Repr, Inhabited

namespace Activity

/-- All activities. -/
def all : List Activity := [.managed, .runtime, .native, .blocked]

/-- Whether managed code is running. -/
def isManaged (a : Activity) : Bool := a == .managed

end Activity

/-- The exceptions of the managed language that a fault can stand for. -/
inductive ImplicitException where
  | divideByZero
  | null
  | stackOverflow
deriving DecidableEq, Repr

/-- A managed thread as the trap system sees it. -/
structure ManagedThread where
  id : ThreadId
  state : Activity
  /-- Runtime code on this thread is performing an unchecked access. -/
  inUncheckedAccess : Bool := false
deriving DecidableEq, Repr, Inhabited

/-- What is known about the compiled method that contains a program counter. -/
structure CompiledMethod where
  /-- The method has built its frame by then. -/
  frameBuilt : Bool
  /-- The method performs unchecked accesses. -/
  uncheckedAccesses : Bool
deriving DecidableEq, Repr, Inhabited

/-- The frame of a method that may use the reserved zone. -/
structure ReserveHolder where
  frame : Frame
  /-- The stack pointer of a compiled method's caller, before any extension. -/
  callerSp : Word
  interpreted : Bool
deriving DecidableEq, Repr, Inhabited

/-- The address that is recorded for an activation: the first expression slot of an interpreted
frame, nine words below its frame pointer, or the stack pointer kept for a compiled one. -/
def ReserveHolder.address (a : ReserveHolder) : Word :=
  if a.interpreted then
    a.frame.fp - UInt64.ofNat (interpreterInitialSlot.natAbs) * Word.bytes
  else
    a.callerSp

/-- The answers of the managed runtime, and the foreign code that runs inside the handler. -/
structure ManagedRuntime where
  /-- Whether an address lies in the interpreter. -/
  interprets : Word → Bool
  /-- The compiled method that contains an address. -/
  methodAt : Word → Option CompiledMethod
  /-- Whether an address is the patched entry of a method that may no longer be entered. -/
  isOutdatedEntry : Word → Bool
  /-- The stub that raises an exception for a fault at an address. -/
  raiseStub : ManagedThread → Word → ImplicitException → Option Word
  /-- The stub that resolves a call of an outdated method again. -/
  resolveStub : Word
  /-- The stub for the safepoint poll at an address. -/
  safepointStub : Word → Option Word
  /-- Where to go on after an unchecked access failed, given the next instruction. -/
  uncheckedStub : ManagedThread → Word → Word
  /-- The activation that may use the reserved zone and encloses a frame. -/
  reserveHolder : ManagedThread → Frame → Option ReserveHolder
  /-- Where a speculative read at an address goes on when it faults. -/
  speculativeStub : Word → Option Word
  /-- The slow path of the fast field accessor at an address. -/
  slowPath : Word → Option Word
  /-- Whether an address is one that safepoint polls read. -/
  isPoll : Word → Bool
  /-- Whether an address lies on the serialization page. -/
  isSerialization : Word → Bool
  /-- The functions that replaced signal actions point to. -/
  foreign : Word → ForeignCall → Script
  /-- The reporter of fatal errors, which ends the process. -/
  reporter : UnrecoverableTrap → Delivery → Script

/-- Whether an address lies in managed code. -/
def ManagedRuntime.runsManaged (rt : ManagedRuntime) (pc : Word) : Bool :=
  rt.interprets pc || (rt.methodAt pc).isSome

/-! ## Interactions -/

/-- Something the trap system asked of its surroundings, or a mark left by foreign code. -/
inductive Interaction where
  | interprets (pc : Word)
  | methodAt (pc : Word)
  | outdatedEntry (pc : Word)
  | raiseStub (thread : ThreadId) (pc : Word) (kind : ImplicitException)
  | resolveStub
  | safepointStub (pc : Word)
  | uncheckedStub (thread : ThreadId) (next : Word)
  | reserveHolder (thread : ThreadId) (frame : Frame)
  | speculativeStub (pc : Word)
  | slowPath (pc : Word)
  | pollAddress (address : Word)
  | serializePage (address : Word)
  /-- Waited until the serialization page was writable again. -/
  | blockOnSerializePage
  /-- Offered a signal to the chained handlers. -/
  | dispatch (signal : Signal)
  /-- Asked the signal controller to install the trap entry. -/
  | install (signals : List Signal)
  /-- Asked the signal controller to unblock a signal. -/
  | unblock (signal : Signal)
  /-- A mark of foreign code. -/
  | mark (text : String)
deriving DecidableEq, Repr

end ManagedFaults
