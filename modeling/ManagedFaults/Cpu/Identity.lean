import ManagedFaults.Text.Characters
import ManagedFaults.Word

/-!
# Processor identity

The identification fields of a processor, read from the packed main identification register or
from the text in which the kernel lists every core.  In the text the last core names the model;
a different part number that was listed before it is kept as the second model of a system with
two kinds of cores.
-/

namespace ManagedFaults.Cpu

/-- The identification fields of a processor. -/
structure Identity where
  implementer : UInt8 := 0
  variant : UInt32 := 0
  architecture : UInt32 := 0
  model : UInt32 := 0
  /-- Part number of the second kind of core, or 0. -/
  model2 : UInt32 := 0
  revision : UInt32 := 0
deriving DecidableEq, Repr, Inhabited

namespace Identity

/-- The bits of `w` from bit `low` on, `width` of them. -/
def bitField (w : UInt64) (low width : Nat) : Nat :=
  (w.toNat >>> low) % (1 <<< width)

/-- The fields of the packed register. -/
def ofMidr (midr : UInt64) : Identity :=
  { implementer := UInt8.ofNat (bitField midr 24 8)
    variant := UInt32.ofNat (bitField midr 20 4)
    architecture := UInt32.ofNat (bitField midr 16 4)
    model := UInt32.ofNat (bitField midr 4 12)
    revision := UInt32.ofNat (bitField midr 0 4) }

/-! ## The text that lists every core -/

/-- The value of a digit in a base up to sixteen. -/
def digit? (base : Nat) (c : Char) : Option Nat :=
  let n := c.toNat
  let value :=
    if '0'.toNat ≤ n ∧ n ≤ '9'.toNat then some (n - '0'.toNat)
    else if 'a'.toNat ≤ n ∧ n ≤ 'f'.toNat then some (n - 'a'.toNat + 10)
    else if 'A'.toNat ≤ n ∧ n ≤ 'F'.toNat then some (n - 'A'.toNat + 10)
    else none
  value.filter (· < base)

/-- The number that digits write in a base, after the value `acc` of the digits before them. -/
def digits? (base : Nat) (acc : Nat) : List Char → Option Nat
  | [] => some acc
  | c :: cs => (digit? base c).bind fun d => digits? base (acc * base + d) cs

/-- A number of at most 32 bits in a base: at least one digit, after a plus sign or none. -/
def unsigned? (base : Nat) (cs : List Char) : Option UInt32 :=
  let body := match cs with
    | '+' :: r => r
    | r => r
  if body.isEmpty then
    none
  else
    ((digits? base 0 body).filter (· < UInt32.size)).map UInt32.ofNat

/-- A number between blanks: hexadecimal after `0x` or `0X`, else decimal. -/
def number? (cs : List Char) : Option UInt32 :=
  match Text.trim cs with
  | '0' :: 'x' :: hex => unsigned? 16 hex
  | '0' :: 'X' :: hex => unsigned? 16 hex
  | decimal => unsigned? 10 decimal

/-- The keys of a core's description that identify it. -/
inductive Key where
  | implementer
  | variant
  | architecture
  | revision
  | part
deriving DecidableEq, Repr

/-- How a key is spelt. -/
def Key.text : Key → String
  | .implementer => "CPU implementer"
  | .variant => "CPU variant"
  | .architecture => "CPU architecture"
  | .revision => "CPU revision"
  | .part => "CPU part"

/-- The key with this spelling. -/
def Key.ofText? (cs : List Char) : Option Key :=
  [Key.implementer, .variant, .architecture, .revision, .part].find? fun k => k.text.toList == cs

/-- A line read as a key and its number, with the first colon between them. -/
def entry? (line : List Char) : Option (Key × UInt32) :=
  match line.dropWhile (· != ':') with
  | [] => none
  | _ :: value =>
    (number? value).bind fun n =>
      (Key.ofText? (Text.trim (line.takeWhile (· != ':')))).map fun k => (k, n)

/-- Takes over one entry.  A part number that differs from the model replaces it, and the model
it replaces becomes the second one. -/
def set (i : Identity) : Key → UInt32 → Identity
  | .implementer, n => { i with implementer := n.toUInt8 }
  | .variant, n => { i with variant := n }
  | .architecture, n => { i with architecture := n }
  | .revision, n => { i with revision := n }
  | .part, n => { i with model2 := if i.model = n then i.model2 else i.model, model := n }

/-- The identity that a list of all cores gives. -/
def ofCoreList (text : String) : Identity :=
  ((Text.lines text.toList).filterMap entry?).foldl (fun i e => i.set e.1 e.2) {}

end Identity

end ManagedFaults.Cpu
