import ManagedFaults.Word
import ManagedFaults.Trap.ManagedRuntime

/-!
# The fatal error report

What is printed about a trap that could not be recovered: the trap, its registers, the top of the
stack, what the registers point to, and the traps before it.  The stack is read only where it is
known to be the stack of the thread.
-/

namespace ManagedFaults.FatalReport

/-- Words of the stack that are shown. -/
def stackWords : Nat := 8

/-- The heading and the registers. -/
def heading (t : UnrecoverableTrap) : List String :=
  ["#", "# A fatal error has been detected by the runtime:", "#", "#  " ++ t.text, "#", "",
   "Registers:", t.registers.text, ""]

/-! ## The top of the stack -/

/-- Whether the words to show lie on the stack. -/
def showsStack (stack : StackRange) (sp : Word) : Bool :=
  sp.isAligned && stack.contains sp
    && decide (sp.saturatingAdd (UInt64.ofNat stackWords * Word.bytes) ≤ stack.base)

/-- One line with two words of the stack. -/
def stackRow (mem : Memory) (address : Word) : Option String := do
  let a ← mem address
  let b ← mem (address + Word.bytes)
  return address.hex16 ++ ":   " ++ a.hex16 ++ " " ++ b.hex16

/-- The top of the stack; `none` if it would be read where memory is not defined. -/
def topOfStack (mem : Memory) (t : UnrecoverableTrap) : Option (List String) :=
  let sp := t.registers.sp
  let title := "Top of Stack: (sp=" ++ sp.hex16 ++ ")"
  match t.stack with
  | none => some [title ++ " unavailable"]
  | some stack =>
    if showsStack stack sp then do
      let rows ← (List.range (stackWords / 2)).mapM fun row =>
        stackRow mem (sp + UInt64.ofNat (2 * row) * Word.bytes)
      return title :: rows ++ [""]
    else
      some [title ++ " outside the thread stack"]

/-! ## What the registers point to -/

/-- What a value may be the address of. -/
def describe (rt : ManagedRuntime) (stack : Option StackRange) (value : Word) : String :=
  if value = 0 then "NULL"
  else if stack.any (·.contains value) then "pointer into the thread stack"
  else if rt.interprets value then "in the interpreter"
  else if (rt.methodAt value).isSome then "in a compiled method"
  else "unknown value"

/-- Each register with what it may be the address of. -/
def registerMapping (rt : ManagedRuntime) (t : UnrecoverableTrap) : List String :=
  let line := fun (label : String) (value : Word) =>
    label ++ value.hex16 ++ " " ++ describe rt t.stack value
  ["Register to memory mapping:", ""]
    ++ t.registers.indexed.map (fun e => line (SavedRegisters.label e.1) e.2)
    ++ [line "SP =" t.registers.sp, ""]

/-! ## The traps before -/

/-- The log of recent traps, oldest first, if nobody is at it. -/
def recentTraps (events : Option (List TrapRecord)) : List String :=
  "Recent traps:" ::
    match events with
    | some events => events.map fun e => "  " ++ e.text
    | none => ["  (log busy)"]

/-- The lines of a report. -/
def lines (rt : ManagedRuntime) (mem : Memory) (events : Option (List TrapRecord))
    (t : UnrecoverableTrap) : Option (List String) := do
  let stack ← topOfStack mem t
  return heading t ++ stack ++ registerMapping rt t ++ recentTraps events

/-- The one line about a trap inside the report of another. -/
def nestedLine (t : UnrecoverableTrap) : String :=
  "[error occurred during error reporting: " ++ t.text ++ "]"

end ManagedFaults.FatalReport
