import ManagedFaults.Settings

/-!
# Stacks and their guard zones

A stack is an address range that grows down.  At the low end of a managed thread's stack lie three
zones, from the stack limit upwards: red, yellow and reserved.  Yellow and reserved together start
controlled handling of an overflow, the reserved zone alone is handed to methods that need
guaranteed stack, and red is fatal.
-/

namespace ManagedFaults

/-- The address range of a thread stack: it starts at `base` and grows down by `size` bytes. -/
structure StackRange where
  base : Word
  size : Word
deriving DecidableEq, Repr, Inhabited

namespace StackRange

/-- The lowest address of the stack. -/
def low (b : StackRange) : Word := b.base - b.size

/-- Whether an address lies on the stack. -/
def contains (b : StackRange) (a : Word) : Bool :=
  decide (a < b.base) && decide (b.low ≤ a)

end StackRange

/-! ## Zones -/

/-- A stack and the sizes of its guard zones. -/
structure GuardZones where
  stackBase : Word
  stackSize : Word
  redSize : Word
  yellowSize : Word
  reservedSize : Word
deriving DecidableEq, Repr, Inhabited

namespace GuardZones

/-- The zones that the settings give a stack. -/
def ofSettings (bounds : StackRange) (c : TrapSettings) : GuardZones :=
  { stackBase := bounds.base
    stackSize := bounds.size
    redSize := c.redSize
    yellowSize := c.yellowSize
    reservedSize := c.reservedSize }

/-- The stack without its zones. -/
def bounds (l : GuardZones) : StackRange :=
  { base := l.stackBase, size := l.stackSize }

/-- The lowest address of the stack, where the red zone starts. -/
def lowest (l : GuardZones) : Word := l.stackBase - l.stackSize

/-- The top of the red zone, where the yellow zone starts. -/
def redTop (l : GuardZones) : Word := l.lowest + l.redSize

/-- The top of the yellow zone, where the reserved zone starts. -/
def yellowTop (l : GuardZones) : Word := l.redTop + l.yellowSize

/-- The top of the reserved zone and of all guard zones. -/
def reservedTop (l : GuardZones) : Word := l.yellowTop + l.reservedSize

/-- Bytes of all guard zones. -/
def guardSize (l : GuardZones) : Word := l.redSize + l.yellowSize + l.reservedSize

/-- Whether an address lies on the stack. -/
def onStack (l : GuardZones) (a : Word) : Bool :=
  decide (a < l.stackBase) && decide (l.lowest ≤ a)

/-- Whether an address lies in the red zone. -/
def inRed (l : GuardZones) (a : Word) : Bool :=
  decide (a < l.redTop) && decide (l.lowest ≤ a)

/-- Whether an address lies in the yellow or the reserved zone. -/
def inYellowOrReserved (l : GuardZones) (a : Word) : Bool :=
  decide (a < l.reservedTop) && decide (l.redTop ≤ a)

/-- Whether an address lies in the reserved zone. -/
def inReserved (l : GuardZones) (a : Word) : Bool :=
  decide (a < l.reservedTop) && decide (l.yellowTop ≤ a)

end GuardZones

end ManagedFaults
