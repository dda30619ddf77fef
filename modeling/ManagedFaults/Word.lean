/-!
# Machine words and memory

Addresses, register values and sizes are 64-bit words whose arithmetic wraps.  The functions
here are the ones that do something else than wrap: a subtraction that stops at zero, an
addition that notices overflow, and the hexadecimal texts of the diagnostics.

Memory is a partial map from word addresses to words.  Code that reads through it says `none` as
soon as it touches an address the map does not define, so a reader that answers `some` has stayed
inside.
-/

namespace ManagedFaults

/-- An address, a register value or a size in bytes. -/
abbrev Word := UInt64

namespace Word

/-- Bytes in a word. -/
def bytes : Word := 8

/-- Bytes in an instruction: every instruction, calls included, has this one length. -/
def instructionBytes : Word := 4

/-- The largest word. -/
def max : Word := 0xffffffffffffffff

/-- Subtraction that stops at zero. -/
def saturatingSub (a b : Word) : Word :=
  if b ≤ a then a - b else 0

/-- Addition that stops at the largest word. -/
def saturatingAdd (a b : Word) : Word :=
  if a.toNat + b.toNat < UInt64.size then a + b else max

/-- Whether `w` is a multiple of the word size. -/
def isAligned (w : Word) : Bool :=
  w % bytes == 0

/-! ## Texts -/

/-- The lower-case hexadecimal digits of `n`, at least one. -/
def hexDigits (n : Nat) : String :=
  String.ofList (Nat.toDigits 16 n)

/-- The hexadecimal digits of `n`, filled with zeros on the left up to `width`. -/
def hexDigitsPadded (width n : Nat) : String :=
  let digits := Nat.toDigits 16 n
  String.ofList (List.replicate (width - digits.length) '0' ++ digits)

/-- `0x` and the digits of `w` without padding, the way addresses are printed. -/
def hex (w : Word) : String :=
  "0x" ++ hexDigits w.toNat

/-- `0x` and the sixteen digits of `w`, the way registers are printed. -/
def hex16 (w : Word) : String :=
  "0x" ++ hexDigitsPadded 16 w.toNat

end Word

/-! ## Readable memory -/

/-- The words that can be read; `none` where a read would fault. -/
abbrev Memory := Word → Option Word

namespace Memory

/-- Zeroed memory between `low` and `high`, with `stores` written over it, the last one winning. -/
def zeroed (low high : Word) (stores : List (Word × Word)) : Memory := fun a =>
  if low ≤ a ∧ a < high then
    some (((stores.reverse.find? fun s => s.1 == a).map fun s => s.2).getD 0)
  else
    none

end Memory

end ManagedFaults
