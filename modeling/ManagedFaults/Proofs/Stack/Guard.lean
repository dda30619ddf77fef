import ManagedFaults.Proofs.Stack.Pages

/-!
# The guard state and its pages

Every operation closes or opens whole zones, whatever the guard says about them
(`GuardedStack.Closes`).  What the guard state says about the zones is what the pages under them
do: a zone is armed if and only if its bytes cannot be read (`GuardedStack.Truthful`).  Arming the
zones of a new guard makes this true, and all that handling signals does to the zones keeps it.
-/

namespace ManagedFaults

/-! ## Membership in the zones -/

namespace GuardZones

variable {l : GuardZones} {w : Word}

lemma inRed_iff : l.inRed w = true ↔ l.lowest.toNat ≤ w.toNat ∧ w.toNat < l.redTop.toNat := by
  simp only [inRed, Bool.and_eq_true, decide_eq_true_eq, UInt64.lt_iff_toNat_lt,
    UInt64.le_iff_toNat_le, and_comm]

lemma inYellowOrReserved_iff :
    l.inYellowOrReserved w = true ↔ l.redTop.toNat ≤ w.toNat ∧ w.toNat < l.reservedTop.toNat := by
  simp only [inYellowOrReserved, Bool.and_eq_true, decide_eq_true_eq, UInt64.lt_iff_toNat_lt,
    UInt64.le_iff_toNat_le, and_comm]

lemma inReserved_iff :
    l.inReserved w = true ↔ l.yellowTop.toNat ≤ w.toNat ∧ w.toNat < l.reservedTop.toNat := by
  simp only [inReserved, Bool.and_eq_true, decide_eq_true_eq, UInt64.lt_iff_toNat_lt,
    UInt64.le_iff_toNat_le, and_comm]

/-- Whether an address lies in the yellow zone itself. -/
def inYellow (l : GuardZones) (w : Word) : Bool :=
  l.inYellowOrReserved w && !l.inReserved w

lemma Stacked.inYellow_iff (h : l.Stacked) :
    l.inYellow w = true ↔ l.redTop.toNat ≤ w.toNat ∧ w.toNat < l.yellowTop.toNat := by
  have htop := h.toNat_reservedTop
  rw [inYellow, Bool.and_eq_true, Bool.not_eq_true', ← Bool.not_eq_true, inYellowOrReserved_iff,
    inReserved_iff]
  omega

/-- Whether an address lies in none of the zones. -/
def isOutside (l : GuardZones) (w : Word) : Bool :=
  !l.inRed w && !l.inYellowOrReserved w

lemma Stacked.isOutside_iff (h : l.Stacked) :
    l.isOutside w = true ↔ w.toNat < l.lowest.toNat ∨ l.reservedTop.toNat ≤ w.toNat := by
  have hred := h.toNat_redTop
  have hyellow := h.toNat_yellowTop
  have htop := h.toNat_reservedTop
  rw [isOutside, Bool.and_eq_true, Bool.not_eq_true', Bool.not_eq_true', ← Bool.not_eq_true,
    ← Bool.not_eq_true, inRed_iff, inYellowOrReserved_iff]
  omega

end GuardZones

/-! ## What the operations change -/

lemma StackGuard.reservedArmed_iff {g : StackGuard} :
    g.reservedArmed = true ↔ g.state = .enabled := by
  rw [reservedArmed, beq_iff_eq]

/-- Whether an overflow has opened zones that are to be armed again. -/
def StackGuard.isOpened (g : StackGuard) : Bool :=
  g.state == .reservedDisabled || g.state == .yellowReservedDisabled

lemma StackGuard.isOpened_iff_not {g : StackGuard} :
    g.isOpened = true ↔ ¬(g.state ≠ .yellowReservedDisabled ∧ g.state ≠ .reservedDisabled) := by
  unfold isOpened
  cases g.state <;> simp

/-- The guard once it was tried to arm again what an overflow has opened. -/
def StackGuard.rearmed (g : StackGuard) (sp : Word) : StackGuard :=
  if g.isOpened = true ∧ g.layout.reservedTop < sp then { g with state := .enabled, lentTo := 0 }
  else g

namespace GuardedStack

/-- Opens the reserved zone and records the activation that it is lent to. -/
def lendReservedTo (s : GuardedStack) (holder : Word) : GuardedStack :=
  s.lendReserved.withGuard (s.lendReserved.guard.lendTo holder)

variable (s : GuardedStack)

@[simp] lemma protect_guard (a len : Word) (close : Bool) :
    (s.protect a len close).2.guard = s.guard := by
  unfold protect
  split <;> rfl

@[simp] lemma tryProtect_guard (a len : Word) (close : Bool) :
    (s.tryProtect a len close).guard = s.guard :=
  s.protect_guard a len close

lemma armAll_guard : s.armAll.2.guard = { s.guard with redArmed := true, state := .enabled } := by
  simp only [armAll, withGuard, protect_guard]

lemma openRed_guard :
    s.openRed.guard = { s.guard with redArmed := false, openings := s.guard.openings + 1 } := by
  simp only [openRed, withGuard, tryProtect_guard, StackGuard.countOpening]

lemma openYellow_guard :
    s.openYellow.guard =
      { s.guard with state := .yellowReservedDisabled, openings := s.guard.openings + 1 } := by
  simp only [openYellow, withGuard, tryProtect_guard, StackGuard.countOpening]

lemma lendReserved_guard :
    s.lendReserved.guard =
      { s.guard with state := .reservedDisabled, openings := s.guard.openings + 1 } := by
  simp only [lendReserved, withGuard, tryProtect_guard, StackGuard.countOpening]

lemma lendReservedTo_guard (holder : Word) :
    (s.lendReservedTo holder).guard =
      { s.guard with
        state := .reservedDisabled, lentTo := holder, openings := s.guard.openings + 1 } := by
  simp only [lendReservedTo, withGuard, lendReserved_guard, StackGuard.lendTo]

lemma closeYellow_guard : s.closeYellow.guard = { s.guard with state := .enabled } := by
  simp only [closeYellow, withGuard, tryProtect_guard]

lemma reclaimReserved_guard : s.reclaimReserved.guard = { s.guard with state := .enabled } := by
  simp only [reclaimReserved, withGuard, tryProtect_guard]

/-- While `sp` is not above the zones that an overflow opened, nothing but a warning comes of an
attempt to arm them. -/
lemma rearm_of_inside {sp : Word} (hopened : s.guard.isOpened = true)
    (hsp : sp ≤ s.guard.layout.reservedTop) :
    s.rearm sp =
      (false,
        { s with warnings := s.warnings ++ [rearmWarning sp s.guard.layout.reservedTop] }) := by
  unfold rearm
  dsimp only
  rw [if_neg (by rwa [← StackGuard.isOpened_iff_not]), if_pos hsp]

/-- What arms again the zones that an overflow opened. -/
def closeOpened : GuardedStack :=
  if s.guard.state = .yellowReservedDisabled then s.closeYellow else s.reclaimReserved

lemma closeOpened_guard : s.closeOpened.guard = { s.guard with state := .enabled } := by
  unfold closeOpened
  split
  · exact s.closeYellow_guard
  · exact s.reclaimReserved_guard

/-- Once the stack has unwound, the zones that an overflow opened are armed again. -/
lemma rearm_eq_of_unwound {sp : Word} (hopened : s.guard.isOpened = true)
    (hsp : s.guard.layout.reservedTop < sp) :
    s.rearm sp = (true, s.closeOpened.withGuard s.closeOpened.guard.forgetHolder) := by
  unfold rearm
  dsimp only
  rw [if_neg (by rwa [← StackGuard.isOpened_iff_not]), if_neg (UInt64.not_le.mpr hsp)]
  rfl

/-- Once the stack has unwound, the zones that an overflow opened are armed, and lent to nobody. -/
lemma rearm_of_unwound {sp : Word} (hopened : s.guard.isOpened = true)
    (hsp : s.guard.layout.reservedTop < sp) :
    (s.rearm sp).1 = true ∧
      (s.rearm sp).2.guard = { s.guard with state := .enabled, lentTo := 0 } := by
  rw [s.rearm_eq_of_unwound hopened hsp]
  refine ⟨rfl, ?_⟩
  simp only [withGuard, closeOpened_guard, StackGuard.forgetHolder]

/-- Nothing is armed again if no overflow has opened any zones. -/
lemma rearm_of_unopened {sp : Word} (hopened : s.guard.isOpened = false) :
    s.rearm sp = (true, s) := by
  rw [← Bool.not_eq_true, StackGuard.isOpened_iff_not, Decidable.not_not] at hopened
  unfold rearm
  dsimp only
  rw [if_pos hopened]

lemma rearm_guard (sp : Word) : (s.rearm sp).2.guard = s.guard.rearmed sp := by
  unfold StackGuard.rearmed
  by_cases hopened : s.guard.isOpened = true
  · by_cases hsp : s.guard.layout.reservedTop < sp
    · rw [if_pos ⟨hopened, hsp⟩, (s.rearm_of_unwound hopened hsp).2]
    · rw [if_neg fun h => hsp h.2, s.rearm_of_inside hopened (UInt64.not_lt.mp hsp)]
  · rw [if_neg fun h => hopened h.1, s.rearm_of_unopened (by simpa using hopened)]

lemma protect_low (a len : Word) (close : Bool) :
    (s.protect a len close).2.pages.low = s.pages.low := by
  unfold protect
  split
  · rfl
  · exact s.pages.protect_low a len close

lemma protect_high (a len : Word) (close : Bool) :
    (s.protect a len close).2.pages.high = s.pages.high := by
  unfold protect
  split
  · rfl
  · exact s.pages.protect_high a len close

variable {s}

/-- Whatever becomes of a request, opening pages makes no byte unreadable. -/
lemma readable_of_opened {a len w : Word} (h : s.pages.readable w = true) :
    (s.protect a len false).2.pages.readable w = true := by
  unfold protect
  split
  · exact h
  · exact AddressSpace.readable_of_opened h

/-- Whatever becomes of a request, bytes apart from a range of whole pages are as they were. -/
lemma readable_of_apart {a len w : Word} {close : Bool} (start : osPageBytes ∣ a.toNat)
    (whole : osPageBytes ∣ len.toNat)
    (hout : w.toNat < a.toNat ∨ a.toNat + len.toNat ≤ w.toNat) :
    (s.protect a len close).2.pages.readable w = s.pages.readable w := by
  unfold protect
  split
  · rfl
  · exact AddressSpace.readable_of_apart start whole hout

/-- If a guard that protects pages is granted its request, the bytes of the range are closed or
opened. -/
lemma readable_of_granted {a len w : Word} {close : Bool} (hmode : s.guard.mode = .mprotect)
    (whole : osPageBytes ∣ len.toNat) (hgranted : (s.protect a len close).1 = true)
    (hge : a.toNat ≤ w.toNat) (hlt : w.toNat < a.toNat + len.toNat) :
    (s.protect a len close).2.pages.readable w = !close := by
  have hlen : len ≠ 0 := by
    rintro rfl
    rw [UInt64.toNat_zero] at hlt
    omega
  unfold protect at hgranted ⊢
  rw [if_neg (by simp [hmode, hlen])] at hgranted ⊢
  exact AddressSpace.readable_of_granted whole hgranted hge hlt

/-- A guard that protects pages changes those of a range as it is told. -/
lemma protect_changes {a len : Word} (hmode : s.guard.mode = .mprotect)
    (hspans : s.pages.Spans a len) (hwilling : s.pages.Willing) (close : Bool) :
    s.pages.Changes (s.protect a len close).2.pages a len close := by
  unfold protect
  by_cases hlen : len = 0
  · rw [if_pos (.inr hlen), hlen]
    exact .of_empty hwilling a close
  · rw [if_neg (by simp [hmode, hlen])]
    exact (AddressSpace.protect_spec hspans hwilling close).2

end GuardedStack

/-- A zone between two addresses follows a change of pages: either all of it was closed or opened
and its arming with it, or none of it was touched. -/
def ZoneFollows (a len : Word) (close : Bool) (low high : Word) (before after : Bool) : Prop :=
  (a.toNat ≤ low.toNat ∧ high.toNat ≤ a.toNat + len.toNat ∧ after = close) ∨
    ((high.toNat ≤ a.toNat ∨ a.toNat + len.toNat ≤ low.toNat) ∧ after = before)

/-- What is known about the bytes of a zone that follows a change. -/
lemma AddressSpace.Changes.zone {m m' : AddressSpace} {a len : Word} {close : Bool}
    (hchanges : m.Changes m' a len close) {zone : Word → Bool} {low high : Word}
    (hzone : ∀ w, zone w = true ↔ low.toNat ≤ w.toNat ∧ w.toNat < high.toNat)
    {before after : Bool} (hbefore : ∀ w, zone w = true → m.readable w = !before)
    (h : ZoneFollows a len close low high before after) :
    ∀ w, zone w = true → m'.readable w = !after := by
  intro w hw
  have hmem := (hzone w).mp hw
  rcases h with ⟨hlow, hhigh, rfl⟩ | ⟨hapart, rfl⟩
  · exact hchanges.inside w (by omega) (by omega)
  · rw [hchanges.outside w (by omega), hbefore w hw]

/-! ## Which zones are closed -/

/-- Which of the zones are closed to every access. -/
structure ClosedZones where
  red : Bool
  yellow : Bool
  reserved : Bool

/-- The zones that are closed according to the guard. -/
def StackGuard.armedZones (g : StackGuard) : ClosedZones :=
  { red := g.redArmed, yellow := g.yellowArmed, reserved := g.reservedArmed }

/-- The zones that are closed once it was tried to arm again what an overflow has opened. -/
def StackGuard.closedByRearm (g : StackGuard) (sp : Word) (z : ClosedZones) : ClosedZones :=
  if g.isOpened = true ∧ g.layout.reservedTop < sp then
    { z with yellow := z.yellow || g.state == .yellowReservedDisabled, reserved := true }
  else z

/-- A stack with zones `l`, the pages of which were those of `m`, has these zones closed: a byte of
a zone can be read if and only if the zone is not closed, and no other byte has changed. -/
structure GuardedStack.Closes (l : GuardZones) (m : AddressSpace) (s : GuardedStack)
    (z : ClosedZones) : Prop where
  layout : s.guard.layout = l
  mode : s.guard.mode = .mprotect
  low : s.pages.low = m.low
  high : s.pages.high = m.high
  willing : s.pages.Willing
  red : ∀ w, l.inRed w = true → s.pages.readable w = !z.red
  yellow : ∀ w, l.inYellow w = true → s.pages.readable w = !z.yellow
  reserved : ∀ w, l.inReserved w = true → s.pages.readable w = !z.reserved
  outside : ∀ w, l.isOutside w = true → s.pages.readable w = m.readable w

namespace GuardedStack.Closes

variable {l : GuardZones} {m : AddressSpace} {s t : GuardedStack} {z z' : ClosedZones}

/-- The state of the guard makes no difference to which zones are closed. -/
lemma congr (h : s.Closes l m z) (hlayout : t.guard.layout = s.guard.layout)
    (hmode : t.guard.mode = s.guard.mode) (hpages : t.pages = s.pages) : t.Closes l m z := by
  obtain ⟨guard, pages, warnings⟩ := t
  cases hpages
  exact ⟨hlayout.trans h.layout, hmode.trans h.mode, h.low, h.high, h.willing, h.red, h.yellow,
    h.reserved, h.outside⟩

/-- Bytes outside of the zones are as they were, however far back that was. -/
lemma trans (h : s.Closes l m z) (ht : t.Closes l s.pages z') : t.Closes l m z' where
  layout := ht.layout
  mode := ht.mode
  low := ht.low.trans h.low
  high := ht.high.trans h.high
  willing := ht.willing
  red := ht.red
  yellow := ht.yellow
  reserved := ht.reserved
  outside := fun w hw => (ht.outside w hw).trans (h.outside w hw)

/-- A change of pages that every zone follows. -/
private lemma of_changes (hstacked : l.Stacked) (h : s.Closes l m z) {a len : Word} {close : Bool}
    (hchanges : s.pages.Changes t.pages a len close)
    (hwithin : l.lowest.toNat ≤ a.toNat ∧ a.toNat + len.toNat ≤ l.reservedTop.toNat)
    (hguard : t.guard.layout = s.guard.layout ∧ t.guard.mode = s.guard.mode)
    (hred : ZoneFollows a len close l.lowest l.redTop z.red z'.red)
    (hyellow : ZoneFollows a len close l.redTop l.yellowTop z.yellow z'.yellow)
    (hreserved : ZoneFollows a len close l.yellowTop l.reservedTop z.reserved z'.reserved) :
    t.Closes l m z' where
  layout := hguard.1.trans h.layout
  mode := hguard.2.trans h.mode
  low := hchanges.low.trans h.low
  high := hchanges.high.trans h.high
  willing := hchanges.willing
  red := hchanges.zone (fun _ => GuardZones.inRed_iff) h.red hred
  yellow := hchanges.zone (fun _ => hstacked.inYellow_iff) h.yellow hyellow
  reserved := hchanges.zone (fun _ => GuardZones.inReserved_iff) h.reserved hreserved
  outside := by
    intro w hw
    have hout := hstacked.isOutside_iff.mp hw
    rw [hchanges.outside w (by omega), h.outside w hw]

/-- The red zone is opened, and the other two lie above it. -/
lemma openRed (hfits : l.Fits m) (h : s.Closes l m z) :
    s.openRed.Closes l m { z with red := false } := by
  obtain rfl := h.layout
  have hchanges : s.pages.Changes s.openRed.pages _ _ false :=
    protect_changes h.mode (hfits.of_bounds h.low h.high).spans_red h.willing false
  have hred := hfits.stacked.toNat_redTop
  have hyellow := hfits.stacked.toNat_yellowTop
  have htop := hfits.stacked.toNat_reservedTop
  refine h.of_changes hfits.stacked hchanges (by omega) (by rw [s.openRed_guard]; exact ⟨rfl, rfl⟩)
    ?_ ?_ ?_
  · exact .inl ⟨by omega, by omega, rfl⟩
  · exact .inr ⟨by omega, rfl⟩
  · exact .inr ⟨by omega, rfl⟩

/-- One range makes up the yellow and reserved zones, whichever of them was closed. -/
lemma openYellow (hfits : l.Fits m) (h : s.Closes l m z) :
    s.openYellow.Closes l m { z with yellow := false, reserved := false } := by
  obtain rfl := h.layout
  have hchanges : s.pages.Changes s.openYellow.pages _ _ false :=
    protect_changes h.mode (hfits.of_bounds h.low h.high).spans_yellowAndReserved h.willing false
  have hsize := hfits.stacked.toNat_yellowAndReserved
  have hred := hfits.stacked.toNat_redTop
  have hyellow := hfits.stacked.toNat_yellowTop
  have htop := hfits.stacked.toNat_reservedTop
  refine h.of_changes hfits.stacked hchanges (by omega)
    (by rw [s.openYellow_guard]; exact ⟨rfl, rfl⟩) ?_ ?_ ?_
  · exact .inr ⟨by omega, rfl⟩
  · exact .inl ⟨by omega, by omega, rfl⟩
  · exact .inl ⟨by omega, by omega, rfl⟩

lemma closeYellow (hfits : l.Fits m) (h : s.Closes l m z) :
    s.closeYellow.Closes l m { z with yellow := true, reserved := true } := by
  obtain rfl := h.layout
  have hchanges : s.pages.Changes s.closeYellow.pages _ _ true :=
    protect_changes h.mode (hfits.of_bounds h.low h.high).spans_yellowAndReserved h.willing true
  have hsize := hfits.stacked.toNat_yellowAndReserved
  have hred := hfits.stacked.toNat_redTop
  have hyellow := hfits.stacked.toNat_yellowTop
  have htop := hfits.stacked.toNat_reservedTop
  refine h.of_changes hfits.stacked hchanges (by omega)
    (by rw [s.closeYellow_guard]; exact ⟨rfl, rfl⟩) ?_ ?_ ?_
  · exact .inr ⟨by omega, rfl⟩
  · exact .inl ⟨by omega, by omega, rfl⟩
  · exact .inl ⟨by omega, by omega, rfl⟩

/-- Lending the reserved zone does not touch the yellow zone, be it closed or not. -/
lemma lendReserved (hfits : l.Fits m) (h : s.Closes l m z) :
    s.lendReserved.Closes l m { z with reserved := false } := by
  obtain rfl := h.layout
  have hchanges : s.pages.Changes s.lendReserved.pages _ _ false :=
    protect_changes h.mode (hfits.of_bounds h.low h.high).spans_reserved h.willing false
  have hred := hfits.stacked.toNat_redTop
  have hyellow := hfits.stacked.toNat_yellowTop
  have htop := hfits.stacked.toNat_reservedTop
  refine h.of_changes hfits.stacked hchanges (by omega)
    (by rw [s.lendReserved_guard]; exact ⟨rfl, rfl⟩) ?_ ?_ ?_
  · exact .inr ⟨by omega, rfl⟩
  · exact .inr ⟨by omega, rfl⟩
  · exact .inl ⟨by omega, by omega, rfl⟩

/-- Taking the reserved zone back does not touch the yellow zone, be it closed or not. -/
lemma reclaimReserved (hfits : l.Fits m) (h : s.Closes l m z) :
    s.reclaimReserved.Closes l m { z with reserved := true } := by
  obtain rfl := h.layout
  have hchanges : s.pages.Changes s.reclaimReserved.pages _ _ true :=
    protect_changes h.mode (hfits.of_bounds h.low h.high).spans_reserved h.willing true
  have hred := hfits.stacked.toNat_redTop
  have hyellow := hfits.stacked.toNat_yellowTop
  have htop := hfits.stacked.toNat_reservedTop
  refine h.of_changes hfits.stacked hchanges (by omega)
    (by rw [s.reclaimReserved_guard]; exact ⟨rfl, rfl⟩) ?_ ?_ ?_
  · exact .inr ⟨by omega, rfl⟩
  · exact .inr ⟨by omega, rfl⟩
  · exact .inl ⟨by omega, by omega, rfl⟩

/-- Arming closes all zones, whatever could be read before. -/
lemma armAll (hfits : s.guard.layout.Fits s.pages) (hmode : s.guard.mode = .mprotect)
    (hwilling : s.pages.Willing) :
    s.armAll.2.Closes s.guard.layout s.pages { red := true, yellow := true, reserved := true } := by
  have hchanges : s.pages.Changes s.armAll.2.pages _ _ true :=
    protect_changes hmode hfits.spans_guard hwilling true
  have hsize := hfits.stacked.toNat_guardSize
  have hred := hfits.stacked.toNat_redTop
  have hyellow := hfits.stacked.toNat_yellowTop
  have htop := hfits.stacked.toNat_reservedTop
  refine ⟨by rw [s.armAll_guard], by rw [s.armAll_guard, hmode], hchanges.low, hchanges.high,
    hchanges.willing, ?_, ?_, ?_, ?_⟩
  · intro w hw
    rw [GuardZones.inRed_iff] at hw
    exact hchanges.inside w (by omega) (by omega)
  · intro w hw
    rw [hfits.stacked.inYellow_iff] at hw
    exact hchanges.inside w (by omega) (by omega)
  · intro w hw
    rw [GuardZones.inReserved_iff] at hw
    exact hchanges.inside w (by omega) (by omega)
  · intro w hw
    rw [hfits.stacked.isOutside_iff] at hw
    exact hchanges.outside w (by omega)

/-- Arming again closes the yellow zone only if the guard says that it is open. -/
lemma rearm (hfits : l.Fits m) (h : s.Closes l m z) (sp : Word) :
    (s.rearm sp).2.Closes l m (s.guard.closedByRearm sp z) := by
  unfold StackGuard.closedByRearm
  by_cases hopened : s.guard.isOpened = true
  · by_cases hsp : s.guard.layout.reservedTop < sp
    · rw [if_pos ⟨hopened, hsp⟩, s.rearm_eq_of_unwound hopened hsp]
      unfold GuardedStack.closeOpened
      by_cases hboth : s.guard.state = .yellowReservedDisabled
      · rw [if_pos hboth, hboth, beq_self_eq_true, Bool.or_true]
        exact (h.closeYellow hfits).congr rfl rfl rfl
      · rw [if_neg hboth, beq_eq_false_iff_ne.mpr hboth, Bool.or_false]
        exact (h.reclaimReserved hfits).congr rfl rfl rfl
    · rw [if_neg fun hboth => hsp hboth.2, s.rearm_of_inside hopened (UInt64.not_lt.mp hsp)]
      exact h.congr rfl rfl rfl
  · rw [if_neg fun hboth => hopened hboth.1, s.rearm_of_unopened (by simpa using hopened)]
    exact h

end GuardedStack.Closes

/-! ## The truth about the pages -/

/-- The guard of a stack with zones `l`, the pages of which were those of `m`, tells the truth
about them: a byte of a zone can be read if and only if the zone is not armed, no other byte has
changed, and the reserved zone is lent to nobody while it is armed. -/
structure GuardedStack.Truthful (l : GuardZones) (m : AddressSpace) (s : GuardedStack) : Prop where
  layout : s.guard.layout = l
  mode : s.guard.mode = .mprotect
  low : s.pages.low = m.low
  high : s.pages.high = m.high
  willing : s.pages.Willing
  red : ∀ w, l.inRed w = true → s.pages.readable w = !s.guard.redArmed
  yellow : ∀ w, l.inYellow w = true → s.pages.readable w = !s.guard.yellowArmed
  reserved : ∀ w, l.inReserved w = true → s.pages.readable w = !s.guard.reservedArmed
  outside : ∀ w, l.isOutside w = true → s.pages.readable w = m.readable w
  idle : s.guard.state = .enabled → s.guard.holder = none

namespace GuardedStack.Truthful

variable {l : GuardZones} {m : AddressSpace} {s : GuardedStack}

/-- The zones that are closed are those that the guard says are. -/
lemma closes (h : s.Truthful l m) : s.Closes l m s.guard.armedZones :=
  ⟨h.layout, h.mode, h.low, h.high, h.willing, h.red, h.yellow, h.reserved, h.outside⟩

/-- A guard tells the truth if it says of the zones that are closed that they are. -/
lemma of_closes {z : ClosedZones} (h : s.Closes l m z) (hz : z = s.guard.armedZones)
    (hidle : s.guard.state = .enabled → s.guard.holder = none) : s.Truthful l m := by
  subst hz
  exact ⟨h.layout, h.mode, h.low, h.high, h.willing, h.red, h.yellow, h.reserved, h.outside, hidle⟩

lemma congr {t : GuardedStack} (h : s.Truthful l m) (hguard : t.guard = s.guard)
    (hpages : t.pages = s.pages) : t.Truthful l m := by
  obtain ⟨guard, pages, warnings⟩ := t
  cases hguard
  cases hpages
  exact ⟨h.1, h.2, h.3, h.4, h.5, h.6, h.7, h.8, h.9, h.10⟩

/-- Opening the red zone keeps the truth. -/
lemma openRed (hfits : l.Fits m) (h : s.Truthful l m) : s.openRed.Truthful l m := by
  refine of_closes (h.closes.openRed hfits) ?_ ?_ <;> rw [s.openRed_guard]
  · rfl
  · exact h.idle

/-- Opening the yellow and reserved zones keeps the truth. -/
lemma openYellow (hfits : l.Fits m) (h : s.Truthful l m) : s.openYellow.Truthful l m := by
  refine of_closes (h.closes.openYellow hfits) ?_ ?_ <;> rw [s.openYellow_guard]
  · rfl
  · intro hstate
    simp at hstate

/-- Lending the reserved zone while it is armed keeps the truth. -/
lemma lendReservedTo (hfits : l.Fits m) (h : s.Truthful l m)
    (harmed : s.guard.reservedArmed = true) (holder : Word) :
    (s.lendReservedTo holder).Truthful l m := by
  -- the yellow zone is not touched, and the new phase has to say that it is still armed
  have hyellow : s.guard.yellowArmed = true := by
    rw [StackGuard.yellowArmed, StackGuard.reservedArmed_iff.mp harmed]
    rfl
  have hcloses : (s.lendReservedTo holder).Closes l m _ :=
    (h.closes.lendReserved hfits).congr rfl rfl rfl
  refine of_closes hcloses ?_ ?_ <;> rw [s.lendReservedTo_guard]
  · rw [StackGuard.armedZones, hyellow]
    rfl
  · intro hstate
    simp at hstate

/-- Arming what an overflow disabled keeps the truth, also if it is refused. -/
theorem rearm (hfits : l.Fits m) (h : s.Truthful l m) (sp : Word) :
    (s.rearm sp).2.Truthful l m := by
  refine of_closes (h.closes.rearm hfits sp) ?_ ?_ <;> rw [s.rearm_guard] <;>
    unfold StackGuard.rearmed
  · unfold StackGuard.closedByRearm
    split
    · next hrearmed =>
      -- of an opened guard yellow is armed, or arming again closes it
      have hyellow : (s.guard.yellowArmed || s.guard.state == .yellowReservedDisabled) = true := by
        have hopened := hrearmed.1
        rw [StackGuard.isOpened, Bool.or_eq_true] at hopened
        rw [StackGuard.yellowArmed, Bool.or_eq_true, Bool.or_eq_true]
        exact hopened.imp .inr id
      rw [StackGuard.armedZones, hyellow]
      rfl
    · rfl
  · split
    · exact fun _ => rfl
    · exact h.idle

/-- Arming a new guard makes it tell the truth, whatever could be read before. -/
theorem armAll (hfits : l.Fits m) (hwilling : m.Willing) :
    (GuardedStack.armAll { guard := { layout := l, mode := .mprotect }, pages := m }).2.Truthful
      l m := by
  have hcloses := Closes.armAll (s := { guard := { layout := l, mode := .mprotect }, pages := m })
    hfits rfl hwilling
  refine of_closes hcloses ?_ ?_ <;> rw [armAll_guard]
  · rfl
  · exact fun _ => rfl

end GuardedStack.Truthful

end ManagedFaults
