import ManagedFaults.Registers.Context
import ManagedFaults.Signal.Action
import ManagedFaults.Trap.Record

/-!
# Scripts of foreign code

Chained handlers, the functions behind replaced signal actions and the fatal error reporter are
code of other modules that runs inside the trap handler.  A script is such code as the trap system
sees it: what it asks of the system, how it goes on after each answer, and whether it handled the
signal in the end.
-/

namespace ManagedFaults

/-- The arguments of a signal handler as the kernel delivered them; a trap that did not come from
the kernel has neither information nor context.  The context is the place from which the kernel will
restore the registers of the interrupted thread, here with what it put there. -/
structure Delivery where
  signo : Int32
  info : Option SigInfo := none
  context : Option MachineContext := none
deriving DecidableEq, Repr, Inhabited

/-- What foreign code does while it runs inside the trap handler. -/
inductive Script where
  /-- Returns, having handled the signal or not. -/
  | answer (handled : Bool)
  /-- Leaves a mark that an observer can read. -/
  | note (mark : String) (next : Script)
  /-- Looks at what has been written over the delivered registers of the interrupted thread. -/
  | readRegisters (next : Option MachineContext → Script)
  /-- Overwrites the delivered registers of the interrupted thread. -/
  | writeRegisters (registers : MachineContext) (next : Script)
  /-- Looks at the signals the thread blocks. -/
  | readMask (next : SignalSet → Script)
  /-- Hands a signal to the trap system from the start. -/
  | handle (info : SignalCause) (raw : Delivery) (context : Option Context) (abort : Bool)
      (next : Bool → Option Context → Script)
  /-- Offers a signal to the chained handlers. -/
  | offer (info : SignalCause) (raw : Delivery) (next : Bool → Script)
  /-- Writes an event into the log of traps. -/
  | log (event : TrapRecord) (next : Script)
  /-- Asks whether a fatal error is being reported. -/
  | askFatal (next : Bool → Script)

instance : Inhabited Script := ⟨.answer false⟩

/-- Whether a context is the one that was delivered, so that whoever writes to the delivered
registers writes to it. -/
def Delivery.owns (raw : Delivery) : Context → Bool
  | .delivered registers => raw.context == some registers
  | _ => false

/-- A call of the function behind a replaced action: the number, and the delivered arguments if
the action takes them. -/
structure ForeignCall where
  signo : Int32
  delivered : Option Delivery := none
deriving DecidableEq, Repr

end ManagedFaults
