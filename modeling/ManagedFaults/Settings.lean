import ManagedFaults.Console.Level
import ManagedFaults.Word

/-!
# Settings

Sizes the runtime is built with, and the settings of trap classification: pages per guard zone,
the base of the reference heap, and how guard zones are kept in memory.
-/

namespace ManagedFaults

/-- One kibibyte. -/
def kibi : Word := 1024

/-- One mebibyte. -/
def mebi : Word := kibi * kibi

/-- The page size assumed where the system does not tell. -/
def defaultPageSize : Word := 4 * kibi

/-- Pages of the red zone by default. -/
def defaultRedPages : Word := 1

/-- Pages of the yellow zone by default. -/
def defaultYellowPages : Word := 2

/-- Pages of the reserved zone by default. -/
def defaultReservedPages : Word := 1

/-- Words from the frame pointer down to the first expression slot of an interpreted frame. -/
def interpreterInitialSlot : Int := -9

/-! ## Thread stacks -/

/-- The kinds of threads a runtime creates. -/
inductive ThreadKind where
  | managed
  | compiler
  | runtimeInternal
deriving DecidableEq, Repr

namespace ThreadKind

/-- All kinds. -/
def all : List ThreadKind := [.managed, .compiler, .runtimeInternal]

/-- The least stack, guard zones not counted, with which a thread reaches user code. -/
def minStack : ThreadKind → Word
  | .managed => 72 * kibi
  | .compiler => 72 * kibi
  | .runtimeInternal => 72 * kibi

/-- The stack a new thread gets. -/
def defaultStack : ThreadKind → Word
  | .compiler => 4 * mebi
  | .managed => mebi
  | .runtimeInternal => mebi

end ThreadKind

/-! ## Trap settings -/

/-- How a change of a guard zone reaches memory. -/
inductive GuardMode where
  /-- The pages of the zone are closed and opened. -/
  | mprotect
  /-- The state of the zone is tracked, and its pages are left alone. -/
  | tracked
deriving DecidableEq, Repr, Inhabited

/-- What classification depends on besides the trap and the runtime. -/
structure TrapSettings where
  pageSize : Word := defaultPageSize
  redPages : Word := defaultRedPages
  yellowPages : Word := defaultYellowPages
  reservedPages : Word := defaultReservedPages
  /-- Print a line for every trap that is classified. -/
  traceTraps : Bool := false
  /-- Guard pages the kernel keeps above the runtime's own; fault addresses are lowered by them
  before they are compared with the zones. -/
  kernelGuardPages : Word := 0
  /-- Where compressed references count from, if not from zero. -/
  heapBase : Option Word := none
  guardMode : GuardMode := .mprotect
  logLevel : Level := .warn
deriving DecidableEq, Repr, Inhabited

namespace TrapSettings

/-- The page size to use when the system reports `reported`. -/
def pageSizeOf (reported : Int) : Word :=
  if 0 < reported then UInt64.ofNat reported.toNat else defaultPageSize

/-- The default settings on a system with this page size and this many kernel guard pages. -/
def detect (reportedPageSize : Int) (kernelGuardPages : Word) : TrapSettings :=
  { pageSize := pageSizeOf reportedPageSize, kernelGuardPages }

/-- Bytes of the red zone. -/
def redSize (c : TrapSettings) : Word := c.redPages * c.pageSize

/-- Bytes of the yellow zone. -/
def yellowSize (c : TrapSettings) : Word := c.yellowPages * c.pageSize

/-- Bytes of the reserved zone. -/
def reservedSize (c : TrapSettings) : Word := c.reservedPages * c.pageSize

/-- Bytes of all guard zones of one stack. -/
def guardSize (c : TrapSettings) : Word := c.redSize + c.yellowSize + c.reservedSize

/-- Bytes by which a fault address is lowered before it is compared with the zones. -/
def kernelGuardBytes (c : TrapSettings) : Word := c.kernelGuardPages * c.pageSize

/-- The distance of `address` from the heap base it lies at or above, else from zero. -/
def nullOffset (c : TrapSettings) (address : Word) : Word :=
  match c.heapBase with
  | some base => if base ≤ address then address - base else address
  | none => address

/-- Whether a fault at `address` cannot be the use of a null reference: its offset from null is
negative as a signed word, or at least a page. -/
def beyondNullPage (c : TrapSettings) (address : Word) : Bool :=
  decide (0x8000000000000000 ≤ c.nullOffset address) || decide (c.pageSize ≤ c.nullOffset address)

end TrapSettings

end ManagedFaults
