import ManagedFaults.Proofs.Trap.Overflow

/-!
# The red zone

The red zone ends where the yellow zone starts, so it makes no difference that the yellow and
reserved zones are tested first.  A fault in the red zone is fatal whatever the thread was doing,
and nobody is asked what to do about it (`red_zone_fatal`).
-/

namespace ManagedFaults

/-! ## One zone for every address -/

namespace GuardZones

variable {l : GuardZones} {w : Word}

/-- The red zone ends where the yellow one starts. -/
lemma not_inYellowOrReserved_of_inRed (hred : l.inRed w = true) :
    l.inYellowOrReserved w = false := by
  rw [← Bool.not_eq_true, inYellowOrReserved_iff]
  rw [inRed_iff] at hred
  omega

/-- The reserved zone starts where the yellow one ends, which is not below the red zone. -/
lemma Stacked.inYellowOrReserved_of_inReserved (h : l.Stacked)
    (hreserved : l.inReserved w = true) : l.inYellowOrReserved w = true := by
  have hyellow := h.toNat_yellowTop
  rw [inYellowOrReserved_iff]
  rw [inReserved_iff] at hreserved
  omega

/-- From the lowest address of the stack up to the top of the zones, every address is in exactly
one of them. -/
lemma Stacked.count_zones (h : l.Stacked) (hlow : l.lowest ≤ w) (htop : w < l.reservedTop) :
    [l.inRed w, l.inYellow w, l.inReserved w].count true = 1 := by
  have hred := h.toNat_redTop
  have hyellow := h.toNat_yellowTop
  rw [UInt64.le_iff_toNat_le] at hlow
  rw [UInt64.lt_iff_toNat_lt] at htop
  -- up through the zones: below red's top, below yellow's top, or above both
  by_cases hbelow : w.toNat < l.redTop.toNat
  · have hin : l.inRed w = true := inRed_iff.mpr ⟨hlow, hbelow⟩
    have hout : l.inYellow w = false := by
      rw [← Bool.not_eq_true, h.inYellow_iff]
      omega
    have hout' : l.inReserved w = false := by
      rw [← Bool.not_eq_true, inReserved_iff]
      omega
    rw [hin, hout, hout']
    rfl
  · have hout : l.inRed w = false := by
      rw [← Bool.not_eq_true, inRed_iff]
      omega
    by_cases habove : w.toNat < l.yellowTop.toNat
    · have hin : l.inYellow w = true := h.inYellow_iff.mpr ⟨by omega, habove⟩
      have hout' : l.inReserved w = false := by
        rw [← Bool.not_eq_true, inReserved_iff]
        omega
      rw [hin, hout, hout']
      rfl
    · have hin : l.inReserved w = true := inReserved_iff.mpr ⟨by omega, htop⟩
      have hout' : l.inYellow w = false := by
        rw [← Bool.not_eq_true, h.inYellow_iff]
        omega
      rw [hin, hout, hout']
      rfl

end GuardZones

/-! ## The order of the tests -/

namespace Classifier

variable {c : Classifier} {i : Trap}

/-- The red zone is tested before the yellow and reserved zones. -/
def redFirst (c : Classifier) (i : Trap) (thread : ManagedThread) (guard : StackGuard)
    (address : Word) : RuleM (Option Classification) :=
  if guard.layout.inRed address then redOverflow
  else if guard.layout.inYellowOrReserved address then c.yellowOverflow i thread guard address
  else return none

/-- Either order leads to the same zone. -/
lemma redFirst_eq_yellowFirst (c : Classifier) (i : Trap) : c.redFirst i = c.yellowFirst i := by
  funext thread guard address
  unfold redFirst yellowFirst
  by_cases hred : guard.layout.inRed address = true
  · rw [if_pos hred, if_pos hred, GuardZones.not_inYellowOrReserved_of_inRed hred]
    rfl
  · rw [if_neg hred, if_neg hred]

/-- Classifies a trap by a stack-guard rule that tests the red zone first. -/
def classifyRedFirst (c : Classifier) (offer : TrapM Bool) (i : Trap) : TrapM Classification :=
  c.classifyWith (c.onStackFault i (c.redFirst i)) offer i

/-! ## Faults in the red zone -/

/-- An overflow into the red zone opens the zone, and asks nobody. -/
lemma run_redOverflow {s : Scene} {g : StackGuard} (hguarded : s.guard = some g) :
    ∃ t, redOverflow.run s = (some { rule := .stackRedZone, disposition := .escalate }, t) ∧
      t.Shows (GuardedStack.openRed { guard := g, pages := s.pages }) ∧
      t.interactions = s.interactions := by
  refine ⟨_, rfl, (RuleM.shows_onGuard hguarded _).congr rfl rfl, ?_⟩
  show (s.mapGuard fun g => ((), g.openRed)).2.interactions = s.interactions
  unfold Scene.mapGuard
  rw [hguarded]

/-- A fault in the red zone is fatal, and no stage comes after it. -/
lemma run_classify_of_red {s : ProcessState} {thread : ManagedThread} {address : Word}
    {g : StackGuard} (fault : c.StackFault i s.scene thread address g)
    (hfetch : c.runtime.speculativeStub i.pc = none)
    (hred : g.layout.inRed (c.lowered address) = true) :
    ∃ t, (∀ offer, (c.classify offer i).run s =
        .ok { rule := .stackRedZone, disposition := .escalate } { s with scene := t }) ∧
      t.Shows (GuardedStack.openRed { guard := g, pages := s.scene.pages }) ∧
      t.interactions = s.scene.interactions ++ [.speculativeStub i.pc] := by
  obtain ⟨t, hrun, hshows, hasked⟩ :=
    run_redOverflow (fault.record (.speculativeStub i.pc)).guarded
  have hzones : (c.yellowFirst i thread g (c.lowered address)).run
      (s.scene.record (.speculativeStub i.pc)) =
        redOverflow.run (s.scene.record (.speculativeStub i.pc)) := by
    -- with red tested first, the other zones need not be ruled out
    rw [← redFirst_eq_yellowFirst]
    unfold redFirst
    rw [if_pos hred]
  obtain ⟨t', hclassify, hguard, hpages, hasked'⟩ :=
    run_classify_of_decided fault hfetch (hzones.trans hrun)
  exact ⟨t', hclassify, hshows.congr hguard hpages, hasked'.trans hasked⟩

end Classifier

/-- The zones of a stack do not overlap: no address is in the red zone and in the yellow or
reserved zone, the reserved zone is part of the two, and every address up to the top of the zones
is in exactly one of red, yellow and reserved.  So a trap is classified as if the red zone were
tested first.  A fault in the red zone is fatal: red is opened, nothing else about the guard
changes, and nobody is asked anything but whether it was a speculative read. -/
theorem red_zone_fatal {l : GuardZones} (hstacked : l.Stacked) :
    (∀ w, ¬(l.inRed w = true ∧ l.inYellowOrReserved w = true)) ∧
    (∀ w, l.inReserved w = true → l.inYellowOrReserved w = true) ∧
    (∀ w, l.lowest ≤ w → w < l.reservedTop →
      [l.inRed w, l.inYellow w, l.inReserved w].count true = 1) ∧
    (∀ (c : Classifier) (offer : TrapM Bool) (i : Trap),
      c.classifyRedFirst offer i = c.classify offer i) ∧
    ∀ (c : Classifier) (i : Trap) (s : ProcessState) (thread : ManagedThread) (address : Word)
      (g : StackGuard), c.StackFault i s.scene thread address g → g.layout = l →
      c.runtime.speculativeStub i.pc = none → l.inRed (c.lowered address) = true →
      ∃ t, (∀ offer, (c.classify offer i).run s =
          .ok { rule := .stackRedZone, disposition := .escalate } { s with scene := t }) ∧
        t.Shows
          { guard := { g with redArmed := false, openings := g.openings + 1 }
            pages := (GuardedStack.openRed { guard := g, pages := s.scene.pages }).pages } ∧
        t.interactions = s.scene.interactions ++ [.speculativeStub i.pc] := by
  refine ⟨?_, ?_, ?_, ?_, ?_⟩
  · rintro w ⟨hred, hyellow⟩
    rw [GuardZones.not_inYellowOrReserved_of_inRed hred] at hyellow
    cases hyellow
  · exact fun w => hstacked.inYellowOrReserved_of_inReserved
  · exact fun w => hstacked.count_zones
  · intro c offer i
    unfold Classifier.classifyRedFirst
    rw [c.redFirst_eq_yellowFirst, ← c.stackGuard_eq, c.classify_eq_with]
  · rintro c i s thread address g fault rfl hfetch hred
    obtain ⟨t, hclassify, hshows, hasked⟩ := Classifier.run_classify_of_red fault hfetch hred
    refine ⟨t, hclassify, ⟨?_, hshows.2⟩, hasked⟩
    rw [hshows.1, GuardedStack.openRed_guard]

/-- A fault of native code in the red zone. -/
def Trap.inRed : Trap :=
  { info := { signal := .segv, faultAddress := some 0x1000000010 }
    raw := { signo := 11 }
    context := .portable { pc := 0x60000000, sp := 0x1000000020 }
    thread := some { id := 7, state := .native } }

/-- Native code is not spared: its fault is escalated, and the yellow zone stays armed. -/
theorem native_fault_fatal :
    ∃ t, (∀ offer, (Classifier.interpreting.classify offer .inRed).run .armedThread =
        .ok { rule := .stackRedZone, disposition := .escalate }
          { ProcessState.armedThread with scene := t }) ∧
      (t.guard.map fun g => (g.state, g.redArmed)) = some (.enabled, false) := by
  have fault : Classifier.interpreting.StackFault .inRed ProcessState.armedThread.scene _ _ _ :=
    ⟨rfl, rfl, rfl, rfl⟩
  have hstacked : GuardZones.Stacked
    { stackBase := 0x1000010000, stackSize := 0x10000, redSize := 0x1000, yellowSize := 0x2000
      reservedSize := 0x1000 } := ⟨by decide⟩
  obtain ⟨t, hclassify, hshows, -⟩ :=
    (red_zone_fatal hstacked).2.2.2.2 _ _ _ _ _ _ fault rfl rfl (by decide)
  exact ⟨t, hclassify, by rw [hshows.1]; rfl⟩

end ManagedFaults
