import ManagedFaults.Registers.Context

/-!
# Stack frames

A frame is a stack pointer, a frame pointer and a program counter.  Frames are ordered by stack
pointer first, so on a stack that grows downwards a caller is greater than what it calls.
-/

namespace ManagedFaults

/-- A reconstructed stack frame. -/
structure Frame where
  sp : Word := 0
  fp : Word := 0
  pc : Word := 0
deriving DecidableEq, Repr, Inhabited

namespace Frame

/-- The frame past the outermost one. -/
def empty : Frame := {}

/-- Whether this is the frame past the outermost one. -/
def isEmpty (fr : Frame) : Bool :=
  fr.sp == 0 && fr.fp == 0 && fr.pc == 0

/-- The frame a context was interrupted in; without a context there is none. -/
def ofContext : Option Context → Frame
  | some c => { sp := c.sp, fp := c.fp, pc := c.pc }
  | none => empty

/-- The order of frames: by stack pointer, then frame pointer, then program counter. -/
def cmp (a b : Frame) : Ordering :=
  (compare a.sp b.sp).then ((compare a.fp b.fp).then (compare a.pc b.pc))

/-- The three addresses of a frame. -/
def text (fr : Frame) : String :=
  "[sp=" ++ fr.sp.hex ++ " fp=" ++ fr.fp.hex ++ " pc=" ++ fr.pc.hex ++ "]"

end Frame

end ManagedFaults
