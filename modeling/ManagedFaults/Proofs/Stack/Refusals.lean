import ManagedFaults.Proofs.Stack.Retries

/-!
# Requests that the kernel refuses

A guard says of a zone that it is armed from when closing the zone was requested, whether or not the
kernel has granted the request: a refusal shows in what arming the zones answers, or in a warning,
and nowhere else.  So whatever is refused, an armed zone is closed if the last request to close it
was granted (`armed_closed_of_granted`), and it may be open if that was refused
(`open_of_refused`).
-/

namespace ManagedFaults

/-! ## Zones of whole pages, mapped or not -/

/-- The stack limit and the sizes of the zones are whole pages, wherever they are mapped. -/
structure GuardZones.WholePages (l : GuardZones) : Prop extends l.Stacked where
  limit : osPageBytes ∣ l.lowest.toNat
  red : osPageBytes ∣ l.redSize.toNat
  yellow : osPageBytes ∣ l.yellowSize.toNat
  reserved : osPageBytes ∣ l.reservedSize.toNat

namespace GuardZones.WholePages

variable {l : GuardZones} (h : l.WholePages)
include h

lemma redTop : osPageBytes ∣ l.redTop.toNat := by
  rw [h.toNat_redTop]
  exact Nat.dvd_add h.limit h.red

lemma yellowTop : osPageBytes ∣ l.yellowTop.toNat := by
  rw [h.toNat_yellowTop]
  exact Nat.dvd_add h.redTop h.yellow

lemma yellowAndReserved : osPageBytes ∣ (l.yellowSize + l.reservedSize).toNat := by
  rw [h.toNat_yellowAndReserved]
  exact Nat.dvd_add h.yellow h.reserved

lemma guardSize : osPageBytes ∣ l.guardSize.toNat := by
  rw [h.toNat_guardSize]
  exact Nat.dvd_add (Nat.dvd_add h.red h.yellow) h.reserved

end GuardZones.WholePages

/-! ## What was granted -/

/-- For each zone, whether the kernel has granted the last request to close it. -/
structure ZoneGrants where
  red : Bool := false
  yellow : Bool := false
  reserved : Bool := false

/-- One request is made to close all zones. -/
def GuardedStack.grantsArm (s : GuardedStack) : ZoneGrants :=
  { red := s.armAll.1, yellow := s.armAll.1, reserved := s.armAll.1 }

/-- Whether the kernel grants the request that is made when zones are armed again. -/
def GuardedStack.grantsReclosing (s : GuardedStack) : Bool :=
  let l := s.guard.layout
  if s.guard.state = .yellowReservedDisabled then
    (s.protect l.redTop (l.yellowSize + l.reservedSize) true).1
  else
    (s.protect l.yellowTop l.reservedSize true).1

/-- What is granted of arming zones again: the reserved zone is closed, and the yellow zone with it
if it was open too, unless no zone was open or the stack has not unwound. -/
def GuardedStack.grantsRearm (s : GuardedStack) (sp : Word) (z : ZoneGrants) : ZoneGrants :=
  if s.guard.isOpened = true ∧ s.guard.layout.reservedTop < sp then
    { z with
      yellow := if s.guard.state = .yellowReservedDisabled then s.grantsReclosing else z.yellow
      reserved := s.grantsReclosing }
  else z

namespace GuardEvent

/-- What is granted once an event has happened; only arming zones, now or again, requests to close
any. -/
def grants (s : ProcessState) (z : ZoneGrants) (event : GuardEvent) : ZoneGrants :=
  match event, s.scene.guard with
  | .arm, some guard => GuardedStack.grantsArm { guard, pages := s.scene.pages }
  | .moved (.rearm sp), some guard =>
    GuardedStack.grantsRearm { guard, pages := s.scene.pages } sp z
  | _, _ => z

/-- What is granted after some events. -/
def grantsAfter (s : ProcessState) (z : ZoneGrants) : List GuardEvent → ZoneGrants
  | [] => z
  | event :: events => grantsAfter (event.step s) (event.grants s z) events

end GuardEvent

/-! ## Zones that are closed if that was granted -/

/-- No byte of a zone can be read. -/
def AddressSpace.Shuts (m : AddressSpace) (zone : Word → Bool) : Prop :=
  ∀ w, zone w = true → m.readable w = false

/-- The zones that are armed are closed, as far as closing them was granted. -/
structure GuardedStack.Sealed (l : GuardZones) (z : ZoneGrants) (s : GuardedStack) : Prop where
  layout : s.guard.layout = l
  mode : s.guard.mode = .mprotect
  red : s.guard.redArmed = true → z.red = true → s.pages.Shuts l.inRed
  yellow : s.guard.yellowArmed = true → z.yellow = true → s.pages.Shuts l.inYellow
  reserved : s.guard.reservedArmed = true → z.reserved = true → s.pages.Shuts l.inReserved

/-- How a zone between two addresses fares when pages are closed or opened: it is not armed after
that, the pages are apart from it, or it is closed with them if the kernel grants that. -/
inductive ZoneFares (a len : Word) (close ok : Bool) (low high : Word) :
    (armed granted armed' granted' : Bool) → Prop
  | disarmed {armed granted granted' : Bool} :
      ZoneFares a len close ok low high armed granted false granted'
  | apart {armed granted armed' : Bool}
      (apart : high.toNat ≤ a.toNat ∨ a.toNat + len.toNat ≤ low.toNat)
      (armed_of : armed' = true → armed = true) :
      ZoneFares a len close ok low high armed granted armed' granted
  | closed {armed granted armed' : Bool} (closing : close = true)
      (within : a.toNat ≤ low.toNat ∧ high.toNat ≤ a.toNat + len.toNat) :
      ZoneFares a len close ok low high armed granted armed' ok

namespace GuardedStack

variable {l : GuardZones} {z z' : ZoneGrants} {s t : GuardedStack}

/-- What was closed if it was armed and granted is so after a request about whole pages. -/
lemma shuts_of_fares {a len low high : Word} {close armed granted armed' granted' : Bool}
    {zone : Word → Bool} (hmode : s.guard.mode = .mprotect) (start : osPageBytes ∣ a.toNat)
    (whole : osPageBytes ∣ len.toNat)
    (hzone : ∀ w, zone w = true ↔ low.toNat ≤ w.toNat ∧ w.toNat < high.toNat)
    (hfares : ZoneFares a len close (s.protect a len close).1 low high armed granted armed'
      granted')
    (h : armed = true → granted = true → s.pages.Shuts zone) (harmed : armed' = true)
    (hgranted : granted' = true) : (s.protect a len close).2.pages.Shuts zone := by
  intro w hw
  have hmem := (hzone w).mp hw
  cases hfares with
  | disarmed => cases harmed
  | apart hapart harmed_of =>
    rw [readable_of_apart start whole (by omega)]
    exact h (harmed_of harmed) hgranted w hw
  | closed hclosing hwithin =>
    subst hclosing
    exact readable_of_granted hmode whole hgranted (by omega) (by omega)

namespace Sealed

/-- It makes no difference to whom the reserved zone is lent. -/
lemma congr (h : s.Sealed l z) (holder : Word) (hguard : t.guard = s.guard.lendTo holder)
    (hpages : t.pages = s.pages) : t.Sealed l z := by
  obtain ⟨guard, pages, warnings⟩ := t
  cases hguard
  cases hpages
  exact ⟨h.layout, h.mode, h.red, h.yellow, h.reserved⟩

/-- A request about whole pages after which every zone fares as its state says. -/
private lemma of_request (hwhole : l.WholePages) (h : s.Sealed l z) {a len : Word} {close : Bool}
    (start : osPageBytes ∣ a.toNat) (whole : osPageBytes ∣ len.toNat)
    (hguard : t.guard.layout = s.guard.layout ∧ t.guard.mode = s.guard.mode)
    (hpages : t.pages = (s.protect a len close).2.pages)
    (hred : ZoneFares a len close (s.protect a len close).1 l.lowest l.redTop s.guard.redArmed z.red
      t.guard.redArmed z'.red)
    (hyellow : ZoneFares a len close (s.protect a len close).1 l.redTop l.yellowTop
      s.guard.yellowArmed z.yellow t.guard.yellowArmed z'.yellow)
    (hreserved : ZoneFares a len close (s.protect a len close).1 l.yellowTop l.reservedTop
      s.guard.reservedArmed z.reserved t.guard.reservedArmed z'.reserved) : t.Sealed l z' where
  layout := hguard.1.trans h.layout
  mode := hguard.2.trans h.mode
  red := by
    rw [hpages]
    exact shuts_of_fares h.mode start whole (fun _ => GuardZones.inRed_iff) hred h.red
  yellow := by
    rw [hpages]
    exact shuts_of_fares h.mode start whole (fun _ => hwhole.inYellow_iff) hyellow h.yellow
  reserved := by
    rw [hpages]
    exact shuts_of_fares h.mode start whole (fun _ => GuardZones.inReserved_iff) hreserved
      h.reserved

/-- Opening the red zone, granted or not, leaves the other two as they are. -/
lemma openRed (hwhole : l.WholePages) (h : s.Sealed l z) : s.openRed.Sealed l z := by
  obtain rfl := h.layout
  have hred := hwhole.toNat_redTop
  have hyellow := hwhole.toNat_yellowTop
  refine h.of_request hwhole hwhole.limit hwhole.red (by rw [s.openRed_guard]; exact ⟨rfl, rfl⟩)
    rfl ?_ ?_ ?_ <;> rw [s.openRed_guard]
  · exact .disarmed
  · exact .apart (by omega) id
  · exact .apart (by omega) id

/-- Opening the yellow and reserved zones, granted or not, leaves the red zone as it is. -/
lemma openYellow (hwhole : l.WholePages) (h : s.Sealed l z) : s.openYellow.Sealed l z := by
  obtain rfl := h.layout
  refine h.of_request hwhole hwhole.redTop hwhole.yellowAndReserved
    (by rw [s.openYellow_guard]; exact ⟨rfl, rfl⟩) rfl ?_ ?_ ?_ <;> rw [s.openYellow_guard]
  · exact .apart (by omega) id
  · exact .disarmed
  · exact .disarmed

/-- Lending the reserved zone leaves the zones below it as they are. -/
lemma lendReservedTo (hwhole : l.WholePages) (h : s.Sealed l z)
    (harmed : s.guard.reservedArmed = true) (holder : Word) :
    (s.lendReservedTo holder).Sealed l z := by
  obtain rfl := h.layout
  have hyellow := hwhole.toNat_yellowTop
  have hyellowArmed : s.guard.yellowArmed = true := by
    rw [StackGuard.yellowArmed, StackGuard.reservedArmed_iff.mp harmed]
    rfl
  refine h.of_request hwhole hwhole.yellowTop hwhole.reserved
    (by rw [s.lendReservedTo_guard]; exact ⟨rfl, rfl⟩) rfl ?_ ?_ ?_ <;>
    rw [s.lendReservedTo_guard]
  · exact .apart (by omega) id
  · exact .apart (by omega) fun _ => hyellowArmed
  · exact .disarmed

/-- Handling signals leaves closed what is still armed. -/
lemma evolves (hwhole : l.WholePages) :
    GuardedStack.Evolves fun g g' => g.Sealed l z → g'.Sealed l z where
  same {g _} hguard hpages h := h.congr g.guard.lentTo hguard hpages
  trans hgm hmg h := hmg (hgm h)
  openYellow _ h := h.openYellow hwhole
  openRed _ h := h.openRed hwhole
  lendReservedTo _ holder harmed h := h.lendReservedTo hwhole harmed holder

/-- Arming all zones closes them if that is granted, whatever was before. -/
lemma armAll (hwhole : l.WholePages) (h : s.Sealed l z) : s.armAll.2.Sealed l s.grantsArm := by
  obtain rfl := h.layout
  have hred := hwhole.toNat_redTop
  have hyellow := hwhole.toNat_yellowTop
  have htop := hwhole.toNat_reservedTop
  have hsize := hwhole.toNat_guardSize
  refine h.of_request hwhole hwhole.limit hwhole.guardSize
    (by rw [s.armAll_guard]; exact ⟨rfl, rfl⟩) rfl ?_ ?_ ?_
  · exact .closed rfl (by omega)
  · exact .closed rfl (by omega)
  · exact .closed rfl (by omega)

lemma closeYellow (hwhole : l.WholePages) (h : s.Sealed l z) :
    s.closeYellow.Sealed l
      { z with
        yellow := (s.protect l.redTop (l.yellowSize + l.reservedSize) true).1
        reserved := (s.protect l.redTop (l.yellowSize + l.reservedSize) true).1 } := by
  obtain rfl := h.layout
  have hyellow := hwhole.toNat_yellowTop
  have htop := hwhole.toNat_reservedTop
  have hsize := hwhole.toNat_yellowAndReserved
  refine h.of_request hwhole hwhole.redTop hwhole.yellowAndReserved
    (by rw [s.closeYellow_guard]; exact ⟨rfl, rfl⟩) rfl ?_ ?_ ?_
  · rw [s.closeYellow_guard]
    exact .apart (by omega) id
  · exact .closed rfl (by omega)
  · exact .closed rfl (by omega)

/-- Taking the reserved zone back relies on the yellow zone being armed all the time. -/
lemma reclaimReserved (hwhole : l.WholePages) (h : s.Sealed l z)
    (harmed : s.guard.yellowArmed = true) :
    s.reclaimReserved.Sealed l
      { z with reserved := (s.protect l.yellowTop l.reservedSize true).1 } := by
  obtain rfl := h.layout
  have hyellow := hwhole.toNat_yellowTop
  have htop := hwhole.toNat_reservedTop
  refine h.of_request hwhole hwhole.yellowTop hwhole.reserved
    (by rw [s.reclaimReserved_guard]; exact ⟨rfl, rfl⟩) rfl ?_ ?_ ?_
  · rw [s.reclaimReserved_guard]
    exact .apart (by omega) id
  · exact .apart (by omega) fun _ => harmed
  · exact .closed rfl (by omega)

/-- Arming zones again closes those that were open if that is granted. -/
theorem rearm (hwhole : l.WholePages) (h : s.Sealed l z) (sp : Word) :
    (s.rearm sp).2.Sealed l (s.grantsRearm sp z) := by
  unfold grantsRearm
  by_cases hopened : s.guard.isOpened = true
  · by_cases hsp : s.guard.layout.reservedTop < sp
    · rw [if_pos ⟨hopened, hsp⟩, s.rearm_eq_of_unwound hopened hsp]
      unfold GuardedStack.closeOpened grantsReclosing
      rw [h.layout]
      by_cases hboth : s.guard.state = .yellowReservedDisabled
      · simp only [if_pos hboth]
        exact (h.closeYellow hwhole).congr 0 rfl rfl
      · -- only the reserved zone was opened
        have hyellow : s.guard.yellowArmed = true := by
          have hlent : s.guard.state = .reservedDisabled := by
            unfold StackGuard.isOpened at hopened
            simpa [hboth] using hopened
          rw [StackGuard.yellowArmed, hlent]
          rfl
        simp only [if_neg hboth]
        exact (h.reclaimReserved hwhole hyellow).congr 0 rfl rfl
    · rw [if_neg fun hboth => hsp hboth.2, s.rearm_of_inside hopened (UInt64.not_lt.mp hsp)]
      exact h.congr _ rfl rfl
  · rw [if_neg fun hboth => hopened hboth.1, s.rearm_of_unopened (by simpa using hopened)]
    exact h

end Sealed

end GuardedStack

/-! ## Runs -/

namespace GuardEvent

variable {l : GuardZones} {z : ZoneGrants} {s : ProcessState} {g : GuardedStack}

/-- What is armed is closed after an event, as far as closing it was granted. -/
lemma step_sealed (hwhole : l.WholePages) (hshows : s.scene.Shows g) (h : g.Sealed l z)
    (event : GuardEvent) :
    ∃ g', (event.step s).scene.Shows g' ∧ g'.Sealed l (event.grants s z) := by
  have hsealed : GuardedStack.Sealed l z { guard := g.guard, pages := s.scene.pages } :=
    h.congr g.guard.lentTo rfl hshows.2
  cases event with
  | arm =>
    have hgrants : grants s z .arm =
        GuardedStack.grantsArm { guard := g.guard, pages := s.scene.pages } := by
      unfold grants
      rw [hshows.1]
    rw [hgrants]
    exact ⟨_, ProcessState.shows_mapStack hshows.1 _, hsealed.armAll hwhole⟩
  | moved move =>
    by_cases hmove : ∃ sp, move = .rearm sp
    · obtain ⟨sp, rfl⟩ := hmove
      have hgrants : grants s z (.moved (.rearm sp)) =
          GuardedStack.grantsRearm { guard := g.guard, pages := s.scene.pages } sp z := by
        unfold grants
        rw [hshows.1]
      rw [hgrants]
      exact ⟨_, ProcessState.shows_mapStack hshows.1 _, hsealed.rearm hwhole sp⟩
    · have hgrants : grants s z (.moved move) = z := by
        cases move with
        | rearm sp => exact absurd ⟨sp, rfl⟩ hmove
        | _ => rfl
      obtain ⟨g', hshows', hkept⟩ := StackMove.step_evolves
        (GuardedStack.Sealed.evolves (z := z) hwhole) s (fun sp heq => hmove ⟨sp, heq⟩) g hshows
      rw [hgrants]
      exact ⟨g', hshows', hkept h⟩

/-- What is armed is closed at every point of a run, as far as closing it was granted. -/
theorem run_sealed (hwhole : l.WholePages) (hshows : s.scene.Shows g) (h : g.Sealed l z)
    (events : List GuardEvent) :
    ∃ g', (run s events).scene.Shows g' ∧ g'.Sealed l (grantsAfter s z events) := by
  induction events generalizing s z g with
  | nil => exact ⟨g, hshows, h⟩
  | cons event events ih =>
    obtain ⟨g₁, hshows₁, h₁⟩ := step_sealed hwhole hshows h event
    exact ih hshows₁ h₁

end GuardEvent

/-- The zones of a new guard are whole pages, mapped or not, and the kernel refuses any requests
that it is made.  After any run of arming the zones, handling signals and arming again, each zone
that is said to be armed is closed if the last request to close it was granted.  Arming all zones
answers whether they are closed; arming again what was opened closes it if the request for that is
granted, but answers only that it was made. -/
theorem armed_closed_of_granted {l : GuardZones} {s : ProcessState} (hwhole : l.WholePages)
    (hnew : s.scene.guard = some { layout := l, mode := .mprotect }) (events : List GuardEvent) :
    ∃ g, (GuardEvent.run s events).scene.Shows g ∧
      g.Sealed l (GuardEvent.grantsAfter s {} events) ∧
      (g.armAll.1 = true →
        g.armAll.2.pages.Shuts l.inRed ∧ g.armAll.2.pages.Shuts l.inYellow ∧
          g.armAll.2.pages.Shuts l.inReserved) ∧
      ∀ sp, g.guard.isOpened = true → (g.rearm sp).1 = true → g.grantsReclosing = true →
        (g.rearm sp).2.pages.Shuts l.inReserved ∧
          (g.guard.state = .yellowReservedDisabled → (g.rearm sp).2.pages.Shuts l.inYellow) := by
  have hstart : GuardedStack.Sealed l {}
      { guard := { layout := l, mode := .mprotect }, pages := s.scene.pages } :=
    ⟨rfl, rfl, by simp, by simp [StackGuard.yellowArmed], by simp⟩
  obtain ⟨g, hshows, hsealed⟩ :=
    GuardEvent.run_sealed hwhole (g := { guard := _, pages := _ }) ⟨hnew, rfl⟩ hstart events
  refine ⟨g, hshows, hsealed, fun harmed => ?_, fun sp hopened hanswer hgranted => ?_⟩
  · have harm := hsealed.armAll hwhole
    have hguard := g.armAll_guard
    have hred : g.armAll.2.guard.redArmed = true := by rw [hguard]
    have hyellow : g.armAll.2.guard.yellowArmed = true := by
      rw [hguard]
      rfl
    have hreserved : g.armAll.2.guard.reservedArmed = true := by
      rw [hguard]
      rfl
    exact ⟨harm.red hred harmed, harm.yellow hyellow harmed, harm.reserved hreserved harmed⟩
  · have hsp : g.guard.layout.reservedTop < sp := by
      refine UInt64.not_le.mp fun hinside => ?_
      rw [g.rearm_of_inside hopened hinside] at hanswer
      cases hanswer
    have hrearm := hsealed.rearm hwhole sp
    have hguard := (g.rearm_of_unwound hopened hsp).2
    have hyellow : (g.rearm sp).2.guard.yellowArmed = true := by
      rw [hguard]
      rfl
    have hreserved : (g.rearm sp).2.guard.reservedArmed = true := by
      rw [hguard]
      rfl
    unfold GuardedStack.grantsRearm at hrearm
    rw [if_pos ⟨hopened, hsp⟩] at hrearm
    refine ⟨hrearm.reserved hreserved hgranted, fun hboth => hrearm.yellow hyellow ?_⟩
    simp only [if_pos hboth]
    exact hgranted

/-- A thread with a new guard, under a kernel that grants two requests and refuses the third. -/
def ProcessState.refusedThread : ProcessState :=
  { ProcessState.unarmedThread with
    scene :=
      { ProcessState.unarmedThread.scene with
        pages :=
          { ProcessState.unarmedThread.scene.pages with refusals := [false, false, true] } } }

/-- The zones are armed, the reserved zone is lent, and taking it back is refused: it is said to be
armed again and can be read, while the zones below it are closed. -/
theorem reserved_open_of_refused :
    ∃ g, (GuardEvent.run .refusedThread
        [.arm, .moved (.handle .inReserve), .moved (.rearm 0x1000008000)]).scene.Shows g ∧
      g.guard.reservedArmed = true ∧ g.pages.readable 0x1000003000 = true ∧
      g.pages.readable 0x1000000000 = false ∧ g.pages.readable 0x1000001000 = false := by
  obtain ⟨g, hshows, hsealed, -⟩ := armed_closed_of_granted (s := .refusedThread)
    ⟨⟨by decide⟩, by decide, by decide, by decide, by decide⟩ rfl
    [.arm, .moved (.handle .inReserve), .moved (.rearm 0x1000008000)]
  have hguard : (GuardEvent.run .refusedThread
      [.arm, .moved (.handle .inReserve), .moved (.rearm 0x1000008000)]).scene.guard = some _ := rfl
  have hsame := Option.some.inj (hshows.1.symm.trans hguard)
  refine ⟨g, hshows, ?_, ?_, ?_, ?_⟩
  · rw [hsame]
    rfl
  · rw [← hshows.2]
    rfl
  · exact hsealed.red (by rw [hsame]; rfl) rfl _ (by decide)
  · exact hsealed.yellow (by rw [hsame]; rfl) rfl _ (by decide)

/-- A thread whose stack reaches below the mapped region: of its zones only the reserved one is
mapped, and every request that concerns another zone as well is refused. -/
def ProcessState.halfMappedThread : ProcessState :=
  { scene :=
      { pages := { low := 0x1000000000, high := 0x1000100000 }
        guard := some
          { layout :=
              { stackBase := 0x1000100000, stackSize := 0x103000, redSize := 0x1000
                yellowSize := 0x2000, reservedSize := 0x1000 }
            mode := .mprotect } }
    thread := some { id := 7, state := .native } }

/-- Its zones are armed, which is refused: all are said to be armed, and the reserved zone can be
read.  Then native code hits the yellow zone, the zones are armed again, and the answer is that
this was done; all are said to be armed once more, and the reserved zone can still be read. -/
theorem open_of_refused :
    ∃ g g' : GuardedStack,
      (GuardEvent.run .halfMappedThread [.arm]).scene.Shows g ∧
      g.guard.layout.WholePages ∧ g.guard.mode = .mprotect ∧
      g.guard.redArmed = true ∧ g.guard.yellowArmed = true ∧ g.guard.reservedArmed = true ∧
      g.guard.layout.inReserved 0x1000000800 = true ∧ g.pages.readable 0x1000000800 = true ∧
      (GuardEvent.run .halfMappedThread
        [.arm, .moved (.handle
          { SignalCall.inReserve with
            info := { signal := .segv, faultAddress := some 0xffffff800 } })]).scene.Shows g' ∧
      g'.guard.state = .yellowReservedDisabled ∧ (g'.rearm 0x1000050000).1 = true ∧
      (g'.rearm 0x1000050000).2.guard.reservedArmed = true ∧
      (g'.rearm 0x1000050000).2.pages.readable 0x1000000800 = true := by
  refine ⟨{ guard := _, pages := _ }, { guard := _, pages := _ }, ⟨rfl, rfl⟩,
    ⟨⟨by decide⟩, by decide, by decide, by decide, by decide⟩, rfl, rfl, rfl, rfl, by decide, rfl,
    ⟨rfl, rfl⟩, rfl, rfl, rfl, rfl⟩

end ManagedFaults
