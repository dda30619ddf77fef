import ManagedFaults.Stack.Guard
import Mathlib.Tactic.Lemma

/-!
# Pages under the guard zones

Closing or opening whole pages of a mapped region does exactly that, as long as the kernel refuses
nothing (`AddressSpace.protect_spec`).  Zones whose tops do not wrap lie one after the other
(`GuardZones.Stacked`), as they do on a stack whose limit and zones are whole pages of the region
(`GuardZones.Fits`).
-/

namespace ManagedFaults

/-- An addition whose sum is a word does not wrap. -/
lemma Word.toNat_add_of_lt {a b : Word} (h : a.toNat + b.toNat < UInt64.size) :
    (a + b).toNat = a.toNat + b.toNat := by
  rw [UInt64.toNat_add, Nat.mod_eq_of_lt h]

/-- An addition that stays below some word does not wrap. -/
lemma Word.toNat_add_of_le {a b c : Word} (h : a.toNat + b.toNat ≤ c.toNat) :
    (a + b).toNat = a.toNat + b.toNat :=
  Word.toNat_add_of_lt (Nat.lt_of_le_of_lt h c.toNat_lt)

/-! ## Ranges of whole pages -/

namespace AddressSpace

/-- The kernel refuses none of the requests to come. -/
def Willing (m : AddressSpace) : Prop :=
  ∀ refused ∈ m.refusals, refused = false

/-- A range of whole pages inside the mapped region. -/
structure Spans (m : AddressSpace) (a len : Word) : Prop where
  start : osPageBytes ∣ a.toNat
  whole : osPageBytes ∣ len.toNat
  above : m.low ≤ a
  below : a.toNat + len.toNat ≤ m.high.toNat

/-- The bytes of a range are closed or opened, and no others change. -/
structure Changes (m m' : AddressSpace) (a len : Word) (close : Bool) : Prop where
  low : m'.low = m.low
  high : m'.high = m.high
  willing : m'.Willing
  inside : ∀ w : Word, a.toNat ≤ w.toNat → w.toNat < a.toNat + len.toNat →
    m'.readable w = !close
  outside : ∀ w : Word, w.toNat < a.toNat ∨ a.toNat + len.toNat ≤ w.toNat →
    m'.readable w = m.readable w

/-- Nothing has to change for an empty range. -/
lemma Changes.of_empty {m : AddressSpace} (hwilling : m.Willing) (a : Word) (close : Bool) :
    m.Changes m a 0 close where
  low := rfl
  high := rfl
  willing := hwilling
  inside := fun w hge hlt => by
    simp only [UInt64.toNat_zero] at hlt
    omega
  outside := fun _ _ => rfl

/-- A byte lies in a range of whole pages if its page does. -/
lemma page_mem_iff {a len : Word} (start : osPageBytes ∣ a.toNat)
    (whole : osPageBytes ∣ len.toNat) (w : Word) :
    (page a ≤ page w ∧ page w < page a + pageCount len) ↔
      (a.toNat ≤ w.toNat ∧ w.toNat < a.toNat + len.toNat) := by
  unfold page pageCount
  unfold osPageBytes at *
  omega

/-- The kernel finds nothing wrong with a range of whole pages. -/
lemma Spans.covers {m : AddressSpace} {a len : Word} (h : m.Spans a len) :
    m.covers a len = true := by
  have hstart := Nat.mod_eq_zero_of_dvd h.start
  have hpages : pageCount len * osPageBytes = len.toNat := by
    have hwhole := h.whole
    unfold pageCount
    unfold osPageBytes at *
    omega
  unfold AddressSpace.covers
  rw [hpages]
  simp only [hstart, h.above, h.below, decide_true, Bool.and_self, beq_self_eq_true]

lemma Willing.agrees {m : AddressSpace} (h : m.Willing) : m.refusals.headD false = false := by
  cases hrefusals : m.refusals with
  | nil => rfl
  | cons refused rest => exact h refused (by rw [hrefusals]; exact List.mem_cons_self)

/-! ### Requests that may be refused -/

section

variable {m : AddressSpace} {a len w : Word} {close : Bool}

/-- A request is granted if the kernel has no reason of its own to refuse it, and finds nothing
wrong with the range. -/
lemma granted_iff :
    (m.protect a len close).1 = true ↔
      m.refusals.headD false = false ∧ m.covers a len = true := by
  unfold protect
  cases m.refusals.headD false <;> cases m.covers a len <;> simp

lemma protect_low (m : AddressSpace) (a len : Word) (close : Bool) :
    (m.protect a len close).2.low = m.low := by
  unfold protect
  dsimp only
  split <;> rfl

lemma protect_high (m : AddressSpace) (a len : Word) (close : Bool) :
    (m.protect a len close).2.high = m.high := by
  unfold protect
  dsimp only
  split <;> rfl

lemma protect_refusals (m : AddressSpace) (a len : Word) (close : Bool) :
    (m.protect a len close).2.refusals = m.refusals.drop 1 := by
  unfold protect
  dsimp only
  split <;> rfl

/-- A request that is granted changes the pages of the range, and one that is refused changes
none. -/
lemma protect_closed (m : AddressSpace) (a len : Word) (close : Bool) (p : Nat) :
    (m.protect a len close).2.closed p =
      if (m.protect a len close).1 = true ∧ page a ≤ p ∧ p < page a + pageCount len then close
      else m.closed p := by
  unfold protect
  dsimp only
  split
  · simp
  · simp

/-- Opening pages makes no byte unreadable, whatever the range. -/
lemma readable_of_opened (h : m.readable w = true) :
    (m.protect a len false).2.readable w = true := by
  simp only [readable, Bool.and_eq_true, Bool.not_eq_true', protect_low, protect_high] at h ⊢
  refine ⟨h.1, ?_⟩
  rw [protect_closed, h.2]
  split <;> rfl

/-- A range of whole pages leaves the bytes apart from it as they were. -/
lemma readable_of_apart (start : osPageBytes ∣ a.toNat) (whole : osPageBytes ∣ len.toNat)
    (hout : w.toNat < a.toNat ∨ a.toNat + len.toNat ≤ w.toNat) :
    (m.protect a len close).2.readable w = m.readable w := by
  have hpage : ¬(page a ≤ page w ∧ page w < page a + pageCount len) := by
    rw [page_mem_iff start whole w]
    omega
  simp only [readable, protect_low, protect_high, protect_closed]
  rw [if_neg fun hin => hpage hin.2]

/-- If the request is granted, the bytes of the range are closed or opened. -/
lemma readable_of_granted (whole : osPageBytes ∣ len.toNat)
    (hgranted : (m.protect a len close).1 = true) (hge : a.toNat ≤ w.toNat)
    (hlt : w.toNat < a.toNat + len.toNat) :
    (m.protect a len close).2.readable w = !close := by
  have hcovers := (granted_iff.mp hgranted).2
  simp only [covers, Bool.and_eq_true, beq_iff_eq, decide_eq_true_eq] at hcovers
  obtain ⟨⟨hstart, hlow⟩, hhigh⟩ := hcovers
  have hpages : pageCount len * osPageBytes = len.toNat := by
    unfold pageCount
    unfold osPageBytes at *
    omega
  -- a byte of the range lies in the region, so whether it can be read is up to its page
  have habove : m.low ≤ w := by
    rw [UInt64.le_iff_toNat_le] at hlow ⊢
    omega
  have hbelow : w < m.high := by
    rw [UInt64.lt_iff_toNat_lt]
    omega
  have hpage := (page_mem_iff (Nat.dvd_of_mod_eq_zero hstart) whole w).mpr ⟨hge, hlt⟩
  simp only [readable, protect_low, protect_high, protect_closed, habove, hbelow, decide_true,
    Bool.true_and]
  rw [if_pos ⟨hgranted, hpage⟩]

end

/-- Closing or opening whole pages of the region succeeds if the kernel is willing. -/
lemma protect_spec {m : AddressSpace} {a len : Word} (h : m.Spans a len) (hwilling : m.Willing)
    (close : Bool) :
    (m.protect a len close).1 = true ∧ m.Changes (m.protect a len close).2 a len close := by
  have hgranted : (m.protect a len close).1 = true :=
    granted_iff.mpr ⟨hwilling.agrees, h.covers⟩
  refine ⟨hgranted, m.protect_low a len close, m.protect_high a len close, ?_, ?_, ?_⟩
  · intro refused hmem
    rw [protect_refusals] at hmem
    exact hwilling refused (List.mem_of_mem_drop hmem)
  · intro w hge hlt
    exact readable_of_granted h.whole hgranted hge hlt
  · intro w hout
    exact readable_of_apart h.start h.whole hout

end AddressSpace

/-! ## Zones one after the other -/

namespace GuardZones

/-- No top of a zone wraps: from the lowest address of the stack up the zones lie one after the
other, empty ones among them, whether or not the stack is large enough for them. -/
structure Stacked (l : GuardZones) : Prop where
  top : l.lowest.toNat + l.redSize.toNat + l.yellowSize.toNat + l.reservedSize.toNat < UInt64.size

namespace Stacked

variable {l : GuardZones}

lemma toNat_redTop (h : l.Stacked) : l.redTop.toNat = l.lowest.toNat + l.redSize.toNat := by
  have htop := h.top
  exact Word.toNat_add_of_lt (by omega)

lemma toNat_yellowTop (h : l.Stacked) :
    l.yellowTop.toNat = l.redTop.toNat + l.yellowSize.toNat := by
  have htop := h.top
  have hred := h.toNat_redTop
  exact Word.toNat_add_of_lt (by omega)

lemma toNat_reservedTop (h : l.Stacked) :
    l.reservedTop.toNat = l.yellowTop.toNat + l.reservedSize.toNat := by
  have htop := h.top
  have hred := h.toNat_redTop
  have hyellow := h.toNat_yellowTop
  exact Word.toNat_add_of_lt (by omega)

lemma toNat_yellowAndReserved (h : l.Stacked) :
    (l.yellowSize + l.reservedSize).toNat = l.yellowSize.toNat + l.reservedSize.toNat := by
  have htop := h.top
  exact Word.toNat_add_of_lt (by omega)

lemma toNat_guardSize (h : l.Stacked) :
    l.guardSize.toNat = l.redSize.toNat + l.yellowSize.toNat + l.reservedSize.toNat := by
  have htop := h.top
  have hlower : (l.redSize + l.yellowSize).toNat = l.redSize.toNat + l.yellowSize.toNat :=
    Word.toNat_add_of_lt (by omega)
  unfold guardSize
  rw [Word.toNat_add_of_lt (by omega), hlower]

end Stacked

/-! ## Zones of whole pages -/

/-- The stack limit and the sizes of the zones are whole pages, and the zones lie inside the
mapped region. -/
structure Fits (l : GuardZones) (m : AddressSpace) : Prop where
  limit : osPageBytes ∣ l.lowest.toNat
  red : osPageBytes ∣ l.redSize.toNat
  yellow : osPageBytes ∣ l.yellowSize.toNat
  reserved : osPageBytes ∣ l.reservedSize.toNat
  above : m.low ≤ l.lowest
  below : l.lowest.toNat + l.redSize.toNat + l.yellowSize.toNat + l.reservedSize.toNat ≤
    m.high.toNat

namespace Fits

variable {l : GuardZones} {m : AddressSpace}

lemma of_bounds (h : l.Fits m) {m' : AddressSpace} (hlow : m'.low = m.low)
    (hhigh : m'.high = m.high) : l.Fits m' where
  limit := h.limit
  red := h.red
  yellow := h.yellow
  reserved := h.reserved
  above := by rw [hlow]; exact h.above
  below := by rw [hhigh]; exact h.below

/-- Zones inside a mapped region do not wrap. -/
lemma stacked (h : l.Fits m) : l.Stacked where
  top := Nat.lt_of_le_of_lt h.below m.high.toNat_lt

/-! Each operation on the zones protects a range of whole pages. -/

lemma spans_guard (h : l.Fits m) : m.Spans l.lowest l.guardSize where
  start := h.limit
  whole := by
    rw [h.stacked.toNat_guardSize]
    exact Nat.dvd_add (Nat.dvd_add h.red h.yellow) h.reserved
  above := h.above
  below := by
    have hbelow := h.below
    rw [h.stacked.toNat_guardSize]
    omega

lemma spans_red (h : l.Fits m) : m.Spans l.lowest l.redSize where
  start := h.limit
  whole := h.red
  above := h.above
  below := by
    have hbelow := h.below
    omega

lemma spans_yellowAndReserved (h : l.Fits m) :
    m.Spans l.redTop (l.yellowSize + l.reservedSize) where
  start := by
    rw [h.stacked.toNat_redTop]
    exact Nat.dvd_add h.limit h.red
  whole := by
    rw [h.stacked.toNat_yellowAndReserved]
    exact Nat.dvd_add h.yellow h.reserved
  above := by
    have habove := UInt64.le_iff_toNat_le.mp h.above
    rw [UInt64.le_iff_toNat_le, h.stacked.toNat_redTop]
    omega
  below := by
    have hbelow := h.below
    rw [h.stacked.toNat_redTop, h.stacked.toNat_yellowAndReserved]
    omega

lemma spans_reserved (h : l.Fits m) : m.Spans l.yellowTop l.reservedSize where
  start := by
    rw [h.stacked.toNat_yellowTop, h.stacked.toNat_redTop]
    exact Nat.dvd_add (Nat.dvd_add h.limit h.red) h.yellow
  whole := h.reserved
  above := by
    have habove := UInt64.le_iff_toNat_le.mp h.above
    rw [UInt64.le_iff_toNat_le, h.stacked.toNat_yellowTop, h.stacked.toNat_redTop]
    omega
  below := by
    have hbelow := h.below
    rw [h.stacked.toNat_yellowTop, h.stacked.toNat_redTop]
    omega

end Fits

end GuardZones

end ManagedFaults
