import ManagedFaults.Registers.Saved

/-!
# Hardware contexts

The registers of an interrupted thread, as they were saved, as the kernel delivers them with
a signal, or as any other source exposes them.  Everything above this module sees a context
through the same few accessors, and changes nothing of it but the program counter.
-/

namespace ManagedFaults

/-- How many registers the kernel delivers with a signal. -/
abbrev deliveredRegisters : Nat := 23

/-- The registers the kernel delivers with a signal, in its own order. -/
structure MachineContext where
  gregs : Vector Word deliveredRegisters := Vector.replicate deliveredRegisters 0
deriving DecidableEq, Repr

instance : Inhabited MachineContext := ⟨{}⟩

namespace MachineContext

/-- Where the kernel puts the frame pointer. -/
def fpIndex : Nat := 10

/-- Where the kernel puts the stack pointer. -/
def spIndex : Nat := 15

/-- Where the kernel puts the program counter. -/
def pcIndex : Nat := 16

/-- The delivered register `i`, or zero if there is none. -/
def register (c : MachineContext) (i : Nat) : Word :=
  c.gregs[i]?.getD 0

/-- Sets the delivered register `i`, if there is one. -/
def setRegister (c : MachineContext) (i : Nat) (w : Word) : MachineContext :=
  { c with gregs := c.gregs.setIfInBounds i w }

end MachineContext

/-- Registers exposed by some other source. -/
structure ExposedRegisters where
  pc : Word
  sp : Word
  fp : Word
  lr : Option Word
  gpr : Nat → Option Word
  count : Nat

/-- The registers of an interrupted thread. -/
inductive Context where
  | portable (registers : SavedRegisters)
  | delivered (registers : MachineContext)
  | exposed (registers : ExposedRegisters)

namespace Context

instance : Inhabited Context := ⟨.portable .zero⟩

/-- The program counter. -/
def pc : Context → Word
  | .portable r => r.pc
  | .delivered c => c.register MachineContext.pcIndex
  | .exposed e => e.pc

/-- Overwrites the program counter, which is where the thread resumes. -/
def setPc : Context → Word → Context
  | .portable r, w => .portable { r with pc := w }
  | .delivered c, w => .delivered (c.setRegister MachineContext.pcIndex w)
  | .exposed e, w => .exposed { e with pc := w }

/-- The stack pointer. -/
def sp : Context → Word
  | .portable r => r.sp
  | .delivered c => c.register MachineContext.spIndex
  | .exposed e => e.sp

/-- The frame pointer. -/
def fp : Context → Word
  | .portable r => r.general framePointerIndex
  | .delivered c => c.register MachineContext.fpIndex
  | .exposed e => e.fp

/-- The link register, where the source has one. -/
def lr : Context → Option Word
  | .portable r => some (r.general linkRegisterIndex)
  | .delivered _ => none
  | .exposed e => e.lr

/-- The general register `i`, if the source has it. -/
def gpr : Context → Nat → Option Word
  | .portable r, i => r.x[i]?
  | .delivered c, i => c.gregs[i]?
  | .exposed e, i => e.gpr i

/-- How many general registers can be asked for. -/
def gprCount : Context → Nat
  | .portable _ => generalRegisters
  | .delivered _ => deliveredRegisters
  | .exposed e => e.count

/-- Copies the first `n` general registers, one after the other; what the context does not have is
zero. -/
def copyGeneral (c : Context) (n : Nat) : SavedRegisters :=
  (List.range n).foldl (fun r i => r.setGeneral i ((c.gpr i).getD 0)) .zero

/-- Copies every register the context exposes.  The frame pointer and the link register, which have
accessors of their own, are put in their places last; the processor state is not copied. -/
def copy (c : Context) : SavedRegisters :=
  let general := c.copyGeneral (min c.gprCount generalRegisters)
  let framed := general.setGeneral framePointerIndex c.fp
  let linked := c.lr.elim framed (framed.setGeneral linkRegisterIndex)
  { linked with sp := c.sp, pc := c.pc }

/-- The saved form of the context; saved registers are their own. -/
def saved : Context → SavedRegisters
  | .portable r => r
  | c => c.copy

end Context

end ManagedFaults
