import ManagedFaults.Cpu.Identity
import Mathlib.Algebra.Group.Nat.Defs
import Mathlib.Tactic.Lemma

/-!
# The main identification register

`MainId` has the five fields of the register side by side.  Every 32-bit value is packed from such
fields (`exists_packed`), and decoding a register gives them back, whatever stands above its low
half (`ofMidr_register`).
-/

namespace ManagedFaults.Cpu

/-- The fields of the main identification register, the highest one first. -/
structure MainId where
  implementer : BitVec 8
  variant : BitVec 4
  architecture : BitVec 4
  part : BitVec 12
  revision : BitVec 4
deriving DecidableEq, Repr

namespace MainId

/-- The fields next to each other. -/
def packed (id : MainId) : BitVec 32 :=
  id.implementer ++ id.variant ++ id.architecture ++ id.part ++ id.revision

/-- The register that holds the fields in its low half, with any bits above. -/
def register (id : MainId) (above : BitVec 32) : UInt64 :=
  UInt64.ofBitVec (above ++ id.packed)

/-- The field that a key of the core list names. -/
def field (id : MainId) : Identity.Key → UInt32
  | .implementer => UInt32.ofNat id.implementer.toNat
  | .variant => UInt32.ofNat id.variant.toNat
  | .architecture => UInt32.ofNat id.architecture.toNat
  | .revision => UInt32.ofNat id.revision.toNat
  | .part => UInt32.ofNat id.part.toNat

/-- A processor with these fields and one kind of core. -/
def identity (id : MainId) : Identity :=
  { implementer := UInt8.ofNat id.implementer.toNat
    variant := id.field .variant
    architecture := id.field .architecture
    model := id.field .part
    revision := id.field .revision }

/-- The implementer is kept as a byte. -/
lemma toUInt8_field_implementer (id : MainId) :
    (id.field .implementer).toUInt8 = UInt8.ofNat id.implementer.toNat :=
  UInt32.toUInt8_ofNat' id.implementer.toNat

lemma toNat_append {m n : Nat} (x : BitVec m) (y : BitVec n) :
    (x ++ y).toNat = x.toNat * 2 ^ n + y.toNat := by
  rw [BitVec.toNat_append, ← Nat.shiftLeft_add_eq_or_of_lt y.isLt, Nat.shiftLeft_eq]

lemma toNat_packed (id : MainId) :
    id.packed.toNat = id.implementer.toNat * 2 ^ 24 + id.variant.toNat * 2 ^ 20 +
      id.architecture.toNat * 2 ^ 16 + id.part.toNat * 2 ^ 4 + id.revision.toNat := by
  unfold packed
  simp only [toNat_append]
  omega

/-- The fields cover the low half of the register. -/
lemma exists_packed (w : BitVec 32) : ∃ id : MainId, id.packed = w := by
  refine ⟨⟨w.extractLsb' 24 8, w.extractLsb' 20 4, w.extractLsb' 16 4, w.extractLsb' 4 12,
    w.extractLsb' 0 4⟩, BitVec.eq_of_toNat_eq ?_⟩
  have hw : w.toNat < 2 ^ 32 := w.isLt
  rw [toNat_packed]
  simp only [BitVec.extractLsb'_toNat, Nat.shiftRight_eq_div_pow]
  omega

end MainId

namespace Identity

lemma bitField_eq (w : UInt64) (low width : Nat) :
    bitField w low width = w.toNat / 2 ^ low % 2 ^ width := by
  unfold bitField
  rw [Nat.shiftRight_eq_div_pow, Nat.shiftLeft_eq, Nat.one_mul]

/-- Decoding gives the packed fields back; the bits above them play no part. -/
lemma ofMidr_register (id : MainId) (above : BitVec 32) :
    ofMidr (id.register above) = id.identity := by
  have hregister : (id.register above).toNat = above.toNat * 2 ^ 32 + id.packed.toNat :=
    MainId.toNat_append above id.packed
  -- the widths keep each field from reaching into the next one
  have himplementer := id.implementer.isLt
  have hvariant := id.variant.isLt
  have harchitecture := id.architecture.isLt
  have hpart := id.part.isLt
  have hrevision := id.revision.isLt
  rw [MainId.toNat_packed] at hregister
  have hfield : ∀ low width value : Nat, value = (id.register above).toNat / 2 ^ low % 2 ^ width →
      bitField (id.register above) low width = value :=
    fun low width value h => (bitField_eq _ low width).trans h.symm
  unfold ofMidr
  rw [hfield 24 8 id.implementer.toNat (by omega), hfield 20 4 id.variant.toNat (by omega),
    hfield 16 4 id.architecture.toNat (by omega), hfield 4 12 id.part.toNat (by omega),
    hfield 0 4 id.revision.toNat (by omega)]
  rfl

end Identity
end ManagedFaults.Cpu
