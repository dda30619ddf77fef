import ManagedFaults.Cpu.Identity

/-!
# Processor features

What code generation needs to know about the processor: its features, among them work-arounds
that follow from its identity, the sizes of its cache lines, and the block it can clear at once.
-/

namespace ManagedFaults.Cpu

/-! ## Designers -/

/-- The designers of processors that are told apart. -/
inductive Family where
  | arm
  | broadcom
  | cavium
  | dec
  | infineon
  | motorola
  | nvidia
  | amcc
  | qualcomm
  | marvell
  | apple
  | intel
deriving DecidableEq, Repr

namespace Family

/-- All families. -/
def all : List Family :=
  [.arm, .broadcom, .cavium, .dec, .infineon, .motorola, .nvidia, .amcc, .qualcomm, .marvell,
   .apple, .intel]

/-- The implementer byte of a family. -/
def code : Family → UInt8
  | .arm => 0x41
  | .broadcom => 0x42
  | .cavium => 0x43
  | .dec => 0x44
  | .infineon => 0x49
  | .motorola => 0x4d
  | .nvidia => 0x4e
  | .amcc => 0x50
  | .qualcomm => 0x51
  | .marvell => 0x56
  | .apple => 0x61
  | .intel => 0x69

/-- The family with this implementer byte. -/
def ofCode? (implementer : UInt8) : Option Family :=
  all.find? fun f => f.code == implementer

end Family

/-! ## Feature sets -/

/-- Features by name; the last three are work-arounds derived from the identity. -/
inductive Feature where
  | fp
  | asimd
  | evtstrm
  | aes
  | pmull
  | sha1
  | sha2
  | crc32
  | lse
  | stxrPrefetch
  | a53mac
  | dmbAtomics
deriving DecidableEq, Repr

namespace Feature

/-- All features, by their bits. -/
def all : List Feature :=
  [.fp, .asimd, .evtstrm, .aes, .pmull, .sha1, .sha2, .crc32, .lse, .stxrPrefetch, .a53mac,
   .dmbAtomics]

/-- The place of a feature in a word of feature bits. -/
def bit : Feature → Nat
  | .fp => 0
  | .asimd => 1
  | .evtstrm => 2
  | .aes => 3
  | .pmull => 4
  | .sha1 => 5
  | .sha2 => 6
  | .crc32 => 7
  | .lse => 8
  | .stxrPrefetch => 29
  | .a53mac => 30
  | .dmbAtomics => 31

/-- How a feature is listed. -/
def text : Feature → String
  | .fp => "fp"
  | .asimd => "simd"
  | .evtstrm => "evtstrm"
  | .aes => "aes"
  | .pmull => "pmull"
  | .sha1 => "sha1"
  | .sha2 => "sha256"
  | .crc32 => "crc"
  | .lse => "lse"
  | .stxrPrefetch => "stxr_prefetch"
  | .a53mac => "a53mac"
  | .dmbAtomics => "dmb_atomics"

/-- Whether a feature follows from the identity and is never reported by the system. -/
def isWorkAround (f : Feature) : Bool :=
  f == .stxrPrefetch || f == .a53mac || f == .dmbAtomics

end Feature

/-- A set of features. -/
structure FeatureSet where
  has : Feature → Bool

namespace FeatureSet

/-- The features whose bits are set in `w`; bits of no feature are ignored. -/
def ofBits (w : UInt32) : FeatureSet :=
  ⟨fun f => w.toNat.testBit f.bit⟩

/-- The bits of the features in the set. -/
def bits (s : FeatureSet) : Nat :=
  (Feature.all.filter s.has).foldl (fun bits f => bits + 1 <<< f.bit) 0

/-- Whether every feature of `t` is in `s`. -/
def includes (s t : FeatureSet) : Bool :=
  Feature.all.all fun f => !t.has f || s.has f

end FeatureSet

/-! ## Cache geometry -/

/-- The registers that describe cache lines and the zeroing instruction. -/
structure CacheRegisters where
  dczid : UInt32
  ctr : UInt32
deriving DecidableEq, Repr

namespace CacheRegisters

/-- Lines of 64 bytes and no usable zeroing instruction. -/
def conservative : CacheRegisters :=
  { dczid := 0x10, ctr := 0x40004 }

/-- Whether the zeroing instruction may be used: it is not prohibited (bit 4) and its block size
is given. -/
def zeroFillEnabled (r : CacheRegisters) : Bool :=
  !r.dczid.toNat.testBit 4 && r.dczid.toNat % 16 != 0

/-- Bytes the zeroing instruction would clear. -/
def zeroFillBytes (r : CacheRegisters) : Nat :=
  4 <<< (r.dczid.toNat % 16)

/-- Bytes of an instruction cache line. -/
def instructionLineBytes (r : CacheRegisters) : Nat :=
  4 <<< (r.ctr.toNat % 16)

/-- Bytes of a data cache line. -/
def dataLineBytes (r : CacheRegisters) : Nat :=
  4 <<< ((r.ctr.toNat >>> 16) % 16)

end CacheRegisters

/-! ## The processor as a whole -/

/-- Part number of the Cortex-A53. -/
def cortexA53 : UInt32 := 0xd03

/-- Part number of the Cortex-A57. -/
def cortexA57 : UInt32 := 0xd07

/-- Part number of the ThunderX. -/
def thunderX : UInt32 := 0x0a1

namespace Identity

/-- The designer of the processor. -/
def family? (i : Identity) : Option Family :=
  Family.ofCode? i.implementer

/-- Whether one of the two models is this part. -/
def hasPart (i : Identity) (part : UInt32) : Bool :=
  i.model == part || i.model2 == part

/-- Whether the identity calls for a work-around. -/
def needs (i : Identity) : Feature → Bool
  | .dmbAtomics => i.family? == some .cavium && i.model == thunderX && i.variant == 0
  | .a53mac => i.family? == some .arm && i.hasPart cortexA53
  | .stxrPrefetch => i.family? == some .arm && i.hasPart cortexA57
  | _ => false

end Identity

/-- What is known about the processor. -/
structure Processor where
  identity : Identity
  features : FeatureSet
  registers : CacheRegisters

namespace Processor

/-- Joins the probed identity, the features the system reports and the cache registers.
Work-arounds come from the identity alone. -/
def ofParts (identity : Identity) (reported : FeatureSet) (registers : CacheRegisters) :
    Processor :=
  { identity, registers
    features := ⟨fun f => if f.isWorkAround then identity.needs f else reported.has f⟩ }

/-- What is assumed of a processor that cannot be identified. -/
def unidentified : Processor :=
  ofParts {} (FeatureSet.ofBits 0) CacheRegisters.conservative

/-- Bytes cleared by one zeroing instruction, if it may be used. -/
def zeroFill? (p : Processor) : Option Nat :=
  if p.registers.zeroFillEnabled then some p.registers.zeroFillBytes else none

/-- Whether a load of `size` bytes whose index is scaled by `scale` costs an extra cycle: the
two-byte load with doubled index does on the designs of Arm. -/
def isSlowLoad (p : Processor) (size scale : Word) : Bool :=
  p.identity.family? == some .arm && size == 2 && scale == 2

/-- Identity and features on one line. -/
def text (p : Processor) : String :=
  let i := p.identity
  let model2 :=
    if i.model2 = 0 then ""
    else "(0x" ++ Word.hexDigitsPadded 3 i.model2.toNat ++ ")"
  "0x" ++ Word.hexDigitsPadded 2 i.implementer.toNat
    ++ ":0x" ++ Word.hexDigits i.variant.toNat
    ++ ":0x" ++ Word.hexDigitsPadded 3 i.model.toNat
    ++ ":" ++ toString i.revision.toNat
    ++ model2
    ++ String.join ((Feature.all.filter p.features.has).map fun f => ", " ++ f.text)

end Processor

end ManagedFaults.Cpu
