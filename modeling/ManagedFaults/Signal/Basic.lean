import ManagedFaults.Word

/-!
# Signals

The signals that traps arrive as, and the information the kernel delivers with them.
-/

namespace ManagedFaults

/-- The signals of hardware traps, and any other signal by its number. -/
inductive Signal where
  | segv
  | bus
  | ill
  | trap
  | fpe
  | pipe
  | xfsz
  | other (number : Int32)
deriving DecidableEq, Repr, Inhabited

namespace Signal

/-- The signals that the trap system is installed for. -/
def handled : List Signal := [.segv, .bus, .ill, .fpe, .trap, .pipe, .xfsz]

/-- The number of a signal. -/
def number : Signal → Int32
  | .segv => 11
  | .bus => 7
  | .ill => 4
  | .trap => 5
  | .fpe => 8
  | .pipe => 13
  | .xfsz => 25
  | .other n => n

/-- The signal with a number. -/
def ofNumber (n : Int32) : Signal :=
  (handled.find? fun s => s.number == n).getD (.other n)

/-- The name of a signal; signals known by number only share one. -/
def name : Signal → String
  | .segv => "SIGSEGV"
  | .bus => "SIGBUS"
  | .ill => "SIGILL"
  | .trap => "SIGTRAP"
  | .fpe => "SIGFPE"
  | .pipe => "SIGPIPE"
  | .xfsz => "SIGXFSZ"
  | .other _ => "SIG?"

/-- Signals that never carry a meaning of the managed language. -/
def isBrokenPipe (s : Signal) : Bool :=
  s == .pipe || s == .xfsz

/-- Errors of the running instruction; they stay unblocked while a trap is handled. -/
def isError (s : Signal) : Bool :=
  s == .segv || s == .bus || s == .ill || s == .fpe || s == .trap

/-- How a signal is printed: by its name, or by number if it has none. -/
def text : Signal → String
  | .other n => "signal " ++ toString n.toInt
  | s => s.name

/-- The key by which signals are ordered: the named ones as they are declared, then the others
by number. -/
def orderKey : Signal → Nat × Int
  | .segv => (0, 0)
  | .bus => (1, 0)
  | .ill => (2, 0)
  | .trap => (3, 0)
  | .fpe => (4, 0)
  | .pipe => (5, 0)
  | .xfsz => (6, 0)
  | .other n => (7, n.toInt)

/-- Whether `s` comes before `t` or is `t`. -/
def le (s t : Signal) : Bool :=
  let a := s.orderKey
  let b := t.orderKey
  decide (a.1 < b.1) || (a.1 == b.1 && decide (a.2 ≤ b.2))

end Signal

/-! ## Fault information -/

/-- The code and the address the kernel delivers with a signal. -/
structure SigInfo where
  code : Int32
  address : Word
deriving DecidableEq, Repr, Inhabited

/-- The code of an integer division by zero. -/
def intDivideCode : Int32 := 1

/-- The code of a floating-point division by zero. -/
def floatDivideCode : Int32 := 3

/-- A signal with what is known about its cause. -/
structure SignalCause where
  signal : Signal
  code : Option Int32 := none
  faultAddress : Option Word := none
deriving DecidableEq, Repr, Inhabited

namespace SignalCause

/-- The information of a delivered signal; only the signal is known if the kernel sent nothing
with it. -/
def ofDelivered (signo : Int32) (info : Option SigInfo) : SignalCause :=
  { signal := Signal.ofNumber signo
    code := info.map (·.code)
    faultAddress := info.map (·.address) }

/-- Whether the signal reports a division by zero. -/
def dividesByZero (i : SignalCause) : Bool :=
  i.signal == .fpe && (i.code == some intDivideCode || i.code == some floatDivideCode)

/-- The signal, then its code and address as far as they are known. -/
def text (i : SignalCause) : String :=
  i.signal.text
    ++ (match i.code with
      | some c => " (si_code=" ++ toString c.toInt ++ ")"
      | none => "")
    ++ (match i.faultAddress with
      | some a => " at " ++ a.hex
      | none => "")

end SignalCause

end ManagedFaults
