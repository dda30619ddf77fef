import ManagedFaults.Registers.Saved
import ManagedFaults.Signal.Basic
import ManagedFaults.Stack.Zones
import ManagedFaults.Trap.Disposition

/-!
# Records of traps

The entries of the log of recent traps, and the record of a trap that could not be recovered.
-/

namespace ManagedFaults

/-- The number a managed thread is known by. -/
abbrev ThreadId := UInt64

/-- An entry of the log of recent traps. -/
structure TrapRecord where
  sequence : UInt64 := 0
  thread : Option ThreadId := none
  info : SignalCause := { signal := .other 0 }
  pc : Word := 0
  rule : TrapRule := .unrecognized
  disposition : Disposition := .ignore
deriving DecidableEq, Repr, Inhabited

namespace TrapRecord

/-- The filler of event buffers. -/
def blank : TrapRecord := {}

/-- How bad the trap was. -/
def severity (e : TrapRecord) : Severity := e.disposition.severity

/-- An event on one line. -/
def text (e : TrapRecord) : String :=
  "#" ++ toString e.sequence.toNat ++ " " ++ e.info.text ++ " pc=" ++ e.pc.hex ++ " "
    ++ e.rule.name ++ " -> " ++ e.disposition.text

end TrapRecord

/-- All that is known about a trap that could not be recovered. -/
structure UnrecoverableTrap where
  /-- The managed thread, if the fault happened on one. -/
  thread : Option ThreadId
  info : SignalCause
  pc : Word
  rule : TrapRule
  registers : SavedRegisters
  /-- The stack of the thread, if it is known. -/
  stack : Option StackRange
deriving DecidableEq, Repr, Inhabited

namespace UnrecoverableTrap

/-- A fatal trap on one line. -/
def text (t : UnrecoverableTrap) : String :=
  t.info.signal.text ++ " at pc=" ++ t.pc.hex16
    ++ (match t.thread with
      | some id => ", thread " ++ toString id.toNat
      | none => ", non-managed thread")
    ++ (match t.info.code with
      | some c => ", si_code=" ++ toString c.toInt
      | none => "")
    ++ (match t.info.faultAddress with
      | some a => ", si_addr=" ++ a.hex16
      | none => "")
    ++ " [" ++ t.rule.name ++ "]"

end UnrecoverableTrap

end ManagedFaults
