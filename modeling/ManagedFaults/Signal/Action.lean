import ManagedFaults.Signal.Basic

/-!
# Signal sets and signal actions

The signals a thread blocks, and what the process does with a delivered signal.  The kernel
refuses to change the action of some numbers, and two signals can never be blocked.
-/

namespace ManagedFaults

/-! ## Sets of signals -/

/-- Whether a number is one of the signals that programs may use; 32 and 33 belong to the
threads themselves. -/
def isUsableSignal (n : Int32) : Bool :=
  decide (1 ≤ n.toInt) && decide (n.toInt ≤ 64) && n != 32 && n != 33

/-- Signals that can neither be blocked nor handled. -/
def isUnblockable (n : Int32) : Bool :=
  n == 9 || n == 19

/-- A set of signal numbers. -/
structure SignalSet where
  has : Int32 → Bool

namespace SignalSet

instance : Inhabited SignalSet := ⟨⟨fun _ => false⟩⟩

/-- No signal. -/
def empty : SignalSet := ⟨fun _ => false⟩

/-- Every usable signal. -/
def full : SignalSet := ⟨isUsableSignal⟩

/-- Adds a signal; numbers that are no usable signal are ignored. -/
def insert (s : SignalSet) (n : Int32) : SignalSet :=
  ⟨fun m => s.has m || (m == n && isUsableSignal n)⟩

/-- Removes a signal. -/
def erase (s : SignalSet) (n : Int32) : SignalSet :=
  ⟨fun m => s.has m && m != n⟩

/-- The signals of a list. -/
def ofList (ns : List Int32) : SignalSet :=
  ns.foldl insert empty

/-- The set as the kernel stores it: without the signals that cannot be blocked. -/
def stored (s : SignalSet) : SignalSet :=
  ⟨fun m => s.has m && !isUnblockable m⟩

/-- The members among the standard signals 1 to 31. -/
def standardMembers (s : SignalSet) : List Nat :=
  ((List.range 32).drop 1).filter fun n => s.has (Int32.ofNat n)

end SignalSet

/-! ## Actions -/

/-- What runs when a signal is delivered. -/
inductive ActionHandler where
  /-- The action the system takes by default. -/
  | default
  | ignore
  /-- The entry of the trap system. -/
  | trapEntry
  /-- A function of the program. -/
  | foreign (address : Word)
deriving DecidableEq, Repr, Inhabited

/-- The word that stands for a handler in diagnostics. -/
def ActionHandler.word : ActionHandler → Word
  | .default => 0
  | .ignore => 1
  | .trapEntry => 2
  | .foreign address => address

/-- How an action is to be run. -/
structure ActionFlags where
  /-- The handler takes the delivered information and context besides the number. -/
  siginfo : Bool := false
  /-- Interrupted system calls are continued. -/
  restart : Bool := false
  /-- The handler runs on the alternate stack. -/
  onstack : Bool := false
  /-- The signal is not blocked while its handler runs. -/
  nodefer : Bool := false
  /-- The action runs once and is then the default one. -/
  resethand : Bool := false
deriving DecidableEq, Repr, Inhabited

/-- An action: its handler, its flags and the signals blocked while it runs. -/
structure SignalAction where
  handler : ActionHandler := .default
  flags : ActionFlags := {}
  mask : SignalSet := SignalSet.empty

instance : Inhabited SignalAction := ⟨{}⟩

/-- The error number of an invalid argument. -/
def invalidArgument : Int32 := 22

/-- The actions of a process, and the error with which the kernel refuses to change one. -/
structure ActionTable where
  action : Int32 → SignalAction := fun _ => {}
  refusal : Int32 → Option Int32 := fun n =>
    if isUsableSignal n && !isUnblockable n then none else some invalidArgument

instance : Inhabited ActionTable := ⟨{}⟩

namespace ActionTable

/-- Replaces the action of a signal and gives the one before, or the error number. -/
def replace (t : ActionTable) (n : Int32) (a : SignalAction) :
    Except Int32 (SignalAction × ActionTable) :=
  match t.refusal n with
  | some errno => .error errno
  | none =>
    let stored := { a with mask := a.mask.stored }
    .ok (t.action n, { t with action := fun m => if m = n then stored else t.action m })

end ActionTable

end ManagedFaults
