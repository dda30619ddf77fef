import ManagedFaults.Word

/-!
# Page protection

Which pages of a mapped region can be accessed.  Closing or opening a range of pages fails, and
changes nothing, if the range does not start on a page, leaves the region, or the kernel refuses.
-/

namespace ManagedFaults

/-- Bytes in a page of the system. -/
def osPageBytes : Nat := 4096

/-- A mapped region, the pages of it that are closed, and the answers of the kernel to come. -/
structure AddressSpace where
  /-- The first address that is mapped. -/
  low : Word
  /-- The first address after the region. -/
  high : Word
  /-- Whether the page with this number is closed to every access. -/
  closed : Nat → Bool := fun _ => false
  /-- Whether the kernel refuses the next requests for reasons of its own; it refuses none after
  the last of them. -/
  refusals : List Bool := []

instance : Inhabited AddressSpace := ⟨{ low := 0, high := 0 }⟩

namespace AddressSpace

/-- The number of the page an address lies in. -/
def page (a : Word) : Nat := a.toNat / osPageBytes

/-- How many pages `len` bytes take. -/
def pageCount (len : Word) : Nat := (len.toNat + osPageBytes - 1) / osPageBytes

/-- Whether the pages of a range can be protected: it starts on a page and stays in the region. -/
def covers (s : AddressSpace) (a len : Word) : Bool :=
  a.toNat % osPageBytes == 0 && decide (s.low ≤ a)
    && decide (a.toNat + pageCount len * osPageBytes ≤ s.high.toNat)

/-- Closes or opens the pages of a range, and tells whether that succeeded. -/
def protect (s : AddressSpace) (a len : Word) (close : Bool) : Bool × AddressSpace :=
  let rest := { s with refusals := s.refusals.drop 1 }
  if s.refusals.headD false || !s.covers a len then
    (false, rest)
  else
    (true, { rest with
      closed := fun p =>
        if page a ≤ p ∧ p < page a + pageCount len then close else s.closed p })

/-- Whether the byte at an address can be read. -/
def readable (s : AddressSpace) (a : Word) : Bool :=
  decide (s.low ≤ a) && decide (a < s.high) && !s.closed (page a)

end AddressSpace

end ManagedFaults
