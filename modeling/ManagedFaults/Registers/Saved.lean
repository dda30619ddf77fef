import ManagedFaults.Word

/-!
# Saved registers

A copy of a register file: thirty-one general registers, the stack pointer, the program counter
and the processor state, with the layout in which the fatal report shows them.
-/

namespace ManagedFaults

/-- How many general registers are saved. -/
abbrev generalRegisters : Nat := 31

/-- The general register that holds the frame pointer. -/
def framePointerIndex : Nat := 29

/-- The general register that holds the return address of a call. -/
def linkRegisterIndex : Nat := 30

/-- A copy of the registers of a thread. -/
structure SavedRegisters where
  x : Vector Word generalRegisters := Vector.replicate generalRegisters 0
  sp : Word := 0
  pc : Word := 0
  pstate : Word := 0
deriving DecidableEq, Repr

namespace SavedRegisters

/-- All registers zero. -/
def zero : SavedRegisters := {}

instance : Inhabited SavedRegisters := ⟨zero⟩

/-- The general register `i`, or zero if there is none. -/
def general (r : SavedRegisters) (i : Nat) : Word :=
  r.x[i]?.getD 0

/-- Sets the general register `i`, if there is one. -/
def setGeneral (r : SavedRegisters) (i : Nat) (w : Word) : SavedRegisters :=
  { r with x := r.x.setIfInBounds i w }

/-- The label of a general register, filled to two digits with a blank. -/
def label (i : Nat) : String :=
  if i < 10 then "R" ++ toString i ++ " =" else "R" ++ toString i ++ "="

/-- The general registers with their indices. -/
def indexed (r : SavedRegisters) : List (Nat × Word) :=
  (List.range generalRegisters).map fun i => (i, r.general i)

/-- Four general registers on a line, then the stack pointer after the last of them, and the
program counter with the processor state on a line of its own. -/
def text (r : SavedRegisters) : String :=
  String.join (r.indexed.map fun e =>
      label e.1 ++ e.2.hex16 ++ (if e.1 % 4 = 3 then "\n" else "  "))
    ++ "SP =" ++ r.sp.hex16 ++ "\n"
    ++ "PC =" ++ r.pc.hex16
    ++ "  PSTATE=0x" ++ Word.hexDigitsPadded 8 r.pstate.toNat

end SavedRegisters

end ManagedFaults
