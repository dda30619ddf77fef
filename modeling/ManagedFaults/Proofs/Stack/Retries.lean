import ManagedFaults.Proofs.Stack.Episode
import ManagedFaults.Proofs.Stack.Openings

/-!
# Faulting instructions that are tried again

A fault on a guard page is answered by opening the zone that the page lies in, so that the
instruction can be tried again: every byte of the page can be read and written, and stays so until
zones are armed (`retried_page_open`).  Where the zones lie never changes, whatever is armed,
opened and armed again in whatever order, and whether or not the kernel has done as it was asked.
-/

namespace ManagedFaults

/-! ## Events -/

/-- What can happen to the stack of a thread with a guard. -/
inductive GuardEvent where
  /-- All zones are armed. -/
  | arm
  /-- Anything that can happen to an armed stack. -/
  | moved (move : StackMove)

namespace GuardEvent

/-- The process after an event. -/
def step (s : ProcessState) : GuardEvent → ProcessState
  | .arm => s.mapStack (·.armAll)
  | .moved move => move.step s

/-- The process after some events. -/
def run (s : ProcessState) (events : List GuardEvent) : ProcessState :=
  events.foldl step s

end GuardEvent

/-! ## What stays where it is -/

/-- The zones stay where they are, and so does the region that is mapped. -/
structure GuardedStack.StaysPut (s s' : GuardedStack) : Prop where
  layout : s'.guard.layout = s.guard.layout
  mode : s'.guard.mode = s.guard.mode
  low : s'.pages.low = s.pages.low
  high : s'.pages.high = s.pages.high

/-- Besides, what could be read still can. -/
structure GuardedStack.ClosesNothing (s s' : GuardedStack) : Prop extends s.StaysPut s' where
  readable : ∀ w, s.pages.readable w = true → s'.pages.readable w = true

namespace GuardedStack

lemma StaysPut.trans {s t u : GuardedStack} (hst : s.StaysPut t) (htu : t.StaysPut u) :
    s.StaysPut u :=
  ⟨htu.layout.trans hst.layout, htu.mode.trans hst.mode, htu.low.trans hst.low,
    htu.high.trans hst.high⟩

/-- A request about pages moves nothing. -/
lemma StaysPut.of_protect {s s' : GuardedStack} {a len : Word} {close : Bool}
    (hlayout : s'.guard.layout = s.guard.layout) (hmode : s'.guard.mode = s.guard.mode)
    (hpages : s'.pages = (s.protect a len close).2.pages) : s.StaysPut s' where
  layout := hlayout
  mode := hmode
  low := by
    rw [hpages]
    exact s.protect_low a len close
  high := by
    rw [hpages]
    exact s.protect_high a len close

/-- Opening pages closes nothing. -/
lemma ClosesNothing.of_protect {s s' : GuardedStack} {a len : Word}
    (hlayout : s'.guard.layout = s.guard.layout) (hmode : s'.guard.mode = s.guard.mode)
    (hpages : s'.pages = (s.protect a len false).2.pages) : s.ClosesNothing s' where
  toStaysPut := .of_protect hlayout hmode hpages
  readable := by
    intro w hw
    rw [hpages]
    exact s.readable_of_opened hw

variable (s : GuardedStack)

lemma staysPut_armAll : s.StaysPut s.armAll.2 := by
  refine .of_protect ?_ ?_ rfl <;> rw [s.armAll_guard]

lemma staysPut_closeOpened : s.StaysPut s.closeOpened := by
  unfold closeOpened
  split
  · refine .of_protect ?_ ?_ rfl <;> rw [s.closeYellow_guard]
  · refine .of_protect ?_ ?_ rfl <;> rw [s.reclaimReserved_guard]

lemma staysPut_rearm (sp : Word) : s.StaysPut (s.rearm sp).2 := by
  cases hopened : s.guard.isOpened with
  | false =>
    rw [s.rearm_of_unopened hopened]
    exact ⟨rfl, rfl, rfl, rfl⟩
  | true =>
    by_cases hsp : s.guard.layout.reservedTop < sp
    · have hput := s.staysPut_closeOpened
      rw [s.rearm_eq_of_unwound hopened hsp]
      exact ⟨hput.layout, hput.mode, hput.low, hput.high⟩
    · rw [s.rearm_of_inside hopened (UInt64.not_lt.mp hsp)]
      exact ⟨rfl, rfl, rfl, rfl⟩

/-- Handling signals closes nothing. -/
lemma closesNothing_evolves : GuardedStack.Evolves GuardedStack.ClosesNothing where
  same hguard hpages := by
    refine ⟨⟨by rw [hguard], by rw [hguard], by rw [hpages], by rw [hpages]⟩, fun w hw => ?_⟩
    rw [hpages]
    exact hw
  trans hgm hmg :=
    { toStaysPut := hgm.toStaysPut.trans hmg.toStaysPut
      readable := fun w hw => hmg.readable w (hgm.readable w hw) }
  openYellow s := by
    refine .of_protect ?_ ?_ rfl <;> rw [s.openYellow_guard]
  openRed s := by
    refine .of_protect ?_ ?_ rfl <;> rw [s.openRed_guard]
  lendReservedTo s holder _ := by
    refine .of_protect ?_ ?_ rfl <;> rw [s.lendReservedTo_guard]

end GuardedStack

namespace GuardEvent

open ProcessState

variable {s : ProcessState}

/-- An operation that leaves the zones where they are, on the stack that the process shows. -/
private lemma staysPut_mapStack {α : Type} {f : GuardedStack → α × GuardedStack}
    (h : ∀ g : GuardedStack, g.StaysPut (f g).2) :
    StackStep GuardedStack.StaysPut s (s.mapStack f) := by
  intro g hg
  have hf := h { guard := g.guard, pages := s.scene.pages }
  refine ⟨_, shows_mapStack hg.1 f, hf.layout, hf.mode, ?_, ?_⟩
  · rw [hf.low, hg.2]
  · rw [hf.high, hg.2]

lemma step_staysPut (s : ProcessState) (event : GuardEvent) :
    StackStep GuardedStack.StaysPut s (event.step s) := by
  cases event with
  | arm => exact staysPut_mapStack GuardedStack.staysPut_armAll
  | moved move =>
    by_cases hmove : ∃ sp, move = .rearm sp
    · obtain ⟨sp, rfl⟩ := hmove
      exact staysPut_mapStack fun g => g.staysPut_rearm sp
    · intro g hg
      obtain ⟨g', hg', hstep⟩ := StackMove.step_evolves GuardedStack.closesNothing_evolves s
        (fun sp heq => hmove ⟨sp, heq⟩) g hg
      exact ⟨g', hg', hstep.toStaysPut⟩

/-- The zones stay where they are along a run. -/
theorem run_staysPut (s : ProcessState) (events : List GuardEvent) :
    StackStep GuardedStack.StaysPut s (run s events) := by
  induction events generalizing s with
  | nil => exact fun g hg => ⟨g, hg, rfl, rfl, rfl, rfl⟩
  | cons event events ih =>
    intro g hg
    obtain ⟨g₁, hg₁, hstep⟩ := step_staysPut s event g hg
    obtain ⟨g', hg', hrest⟩ := ih (event.step s) g₁ hg₁
    exact ⟨g', hg', hstep.trans hrest⟩

end GuardEvent

/-! ## The page that was hit -/

/-- The bytes of a page are all in a range of whole pages, or none of them is. -/
lemma AddressSpace.Spans.mem_of_page {m : AddressSpace} {a len v w : Word} (h : m.Spans a len)
    (hpage : page w = page v) (hv : a.toNat ≤ v.toNat ∧ v.toNat < a.toNat + len.toNat) :
    a.toNat ≤ w.toNat ∧ w.toNat < a.toNat + len.toNat := by
  rw [← AddressSpace.page_mem_iff h.start h.whole] at hv ⊢
  rw [hpage]
  exact hv

namespace GuardedStack

variable {s s' : GuardedStack} {a len v w : Word}

/-- Unless the kernel refuses, opening a range of whole pages opens the page of each byte in it. -/
lemma page_opened (hmode : s.guard.mode = .mprotect) (hspans : s.pages.Spans a len)
    (hgranted : s.pages.refusals.headD false = false)
    (hv : a.toNat ≤ v.toNat ∧ v.toNat < a.toNat + len.toNat)
    (hpage : AddressSpace.page w = AddressSpace.page v) :
    (s.protect a len false).2.pages.readable w = true := by
  have hok : (s.protect a len false).1 = true := by
    unfold protect
    split
    · rfl
    · exact AddressSpace.granted_iff.mpr ⟨hgranted, hspans.covers⟩
  have hw := hspans.mem_of_page hpage hv
  exact readable_of_granted hmode hspans.whole hok hw.1 hw.2

/-- Each operation that opens a zone opens the page that was hit. -/
lemma Opens.page_readable {address : Word} (h : s.Opens address s')
    (hmode : s.guard.mode = .mprotect) (hfits : s.guard.layout.Fits s.pages)
    (hgranted : s.pages.refusals.headD false = false)
    (hpage : AddressSpace.page w = AddressSpace.page address) :
    s'.pages.readable w = true := by
  have hred := hfits.stacked.toNat_redTop
  have hyellow := hfits.stacked.toNat_yellowTop
  have htop := hfits.stacked.toNat_reservedTop
  have hsize := hfits.stacked.toNat_yellowAndReserved
  cases h with
  | red hit =>
    rw [GuardZones.inRed_iff] at hit
    exact page_opened hmode hfits.spans_red hgranted (by omega) hpage
  | yellow hit =>
    rw [GuardZones.inYellowOrReserved_iff] at hit
    exact page_opened hmode hfits.spans_yellowAndReserved hgranted (by omega) hpage
  | reserved hit =>
    rw [GuardZones.inReserved_iff] at hit
    exact page_opened hmode hfits.spans_reserved hgranted (by omega) hpage

end GuardedStack

/-! ## Answers of the stack-guard rule -/

/-- The instruction at this program counter is tried again if native code has gained room, or if the
reserved zone was lent. -/
structure Classification.TriesAgain (cl : Classification) (pc : Word) : Prop where
  native : cl.rule = .nativeStackOverflow → cl.disposition = .ignore
  reserved : cl.rule = .reservedStack → cl.disposition = .redirect pc

namespace Classifier

variable {c : Classifier} {i : Trap} {s u : Scene} {cl : Classification}

/-- Without guard pages of the kernel a fault address is taken as it is. -/
lemma lowered_of_no_kernelGuard (h : c.settings.kernelGuardPages = 0) (a : Word) :
    c.lowered a = a := by
  unfold lowered TrapSettings.kernelGuardBytes Word.saturatingSub
  rw [h]
  simp

/-- If the stack-guard rule answers, a zone was hit and has been opened. -/
lemma opens_of_stackGuard (hrun : (c.stackGuard i).run s = (some cl, u)) :
    cl.TriesAgain i.pc ∧ ∃ thread address g g', c.StackFault i s thread address g ∧
      GuardedStack.Opens (c.lowered address) { guard := g, pages := s.pages } g' ∧ u.Shows g' := by
  have houtcome := c.stackGuard_outcome i s
  rw [hrun] at houtcome
  generalize hanswer : some cl = r at houtcome
  cases houtcome with
  | passed => cases hanswer
  | native fault hit _ hshows =>
    obtain rfl := Option.some.inj hanswer
    refine ⟨⟨fun _ => rfl, by simp⟩, _, _, _, _, fault, .yellow ?_, hshows⟩
    exact hit
  | lent fault _ _ reserved _ holder hshows =>
    obtain rfl := Option.some.inj hanswer
    refine ⟨⟨by simp, fun _ => rfl⟩, _, _, _, _, fault, .reserved ?_ holder.address, hshows⟩
    exact reserved
  | overflow fault hit _ hshows =>
    obtain ⟨stub, -, hredirect⟩ := Option.bind_eq_some_iff.mp hanswer.symm
    obtain rfl := Option.some.inj hredirect
    refine ⟨⟨by simp, by simp⟩, _, _, _, _, fault, .yellow ?_, hshows⟩
    exact hit
  | red fault hit hshows =>
    obtain rfl := Option.some.inj hanswer
    refine ⟨⟨by simp, by simp⟩, _, _, _, _, fault, .red ?_, hshows⟩
    exact hit

end Classifier

namespace StackMove

open ProcessState

variable {s : ProcessState} {move : StackMove} {cl : Classification}

/-- The trap that a move classifies, and the rules that it goes by. -/
def trap (s : ProcessState) : StackMove → Option (Classifier × Trap)
  | .elsewhere _ => none
  | .classify sys _ i => some (sys.classifier, i)
  | .handle call => some (call.sys.classifier, call.input s.thread)
  | .rearm _ => none

/-- If a move arrives at a rule of the stack-guard stage, that stage has answered, and nothing was
closed after that. -/
lemma stackGuard_of_verdict (hverdict : move.verdict s = some cl)
    (hrule : cl.rule ∈ Stage.stackGuard.rules) :
    ∃ c i u, move.trap s = some (c, i) ∧
      (c.stackGuard i).run (s.scene.record (.speculativeStub i.pc)) = (some cl, u) ∧
      StackStep GuardedStack.ClosesNothing { s with scene := u } (move.step s) := by
  have hevolves := GuardedStack.closesNothing_evolves
  cases move with
  | elsewhere world => cases hverdict
  | rearm sp => cases hverdict
  | classify sys room i =>
    obtain ⟨u, hguard, hsame⟩ :=
      Classifier.stackGuard_of_classify (TrapM.returned_eq_some_iff.mp hverdict) hrule
    exact ⟨_, _, u, rfl, hguard, .of_same hevolves hsame.guard hsame.pages⟩
  | handle call =>
    have hrun := TrapM.returned_eq_some_iff.mp hverdict
    cases hmark : (s.os.mark.enter call.sp).1 with
    | true =>
      rw [SignalCall.verdict_run_nested hmark] at hrun
      obtain ⟨rfl, -⟩ := EStateM.Result.ok.inj hrun
      exact absurd hrule (by decide)
    | false =>
      have hallows := hevolves.allowsHandling.within
      have hconclude := conclude_has hallows (services_have hallows call.sys call.room) call.sys
        call.info call.raw
        (registersAt call.raw call.context (s.os.mark.enter call.sp).1 (call.verdict.stateAfter s))
        call.abort (s.os.mark.enter call.sp).1 s.thread cl
      have hafter : step s (.handle call) = _ := SignalCall.stateAfter_of_verdict hrun
      rw [hafter]
      rw [SignalCall.verdict_run hmark] at hrun
      obtain ⟨u, hguard, hsame⟩ := Classifier.stackGuard_of_classify hrun hrule
      have hclassified : StackStep GuardedStack.ClosesNothing { s with scene := u }
          (call.verdict.stateAfter s) := .of_same hevolves hsame.guard hsame.pages
      exact ⟨_, _, u, rfl, hguard, hclassified.trans hevolves (hconclude.stateAfter _)⟩

/-- As long as no zones are armed again, what can be read stays so. -/
lemma run_closesNothing {moves : List StackMove} (hmoves : ∀ move ∈ moves, ∀ sp, move ≠ .rearm sp) :
    StackStep GuardedStack.ClosesNothing s (run s moves) := by
  have hevolves := GuardedStack.closesNothing_evolves
  induction moves generalizing s with
  | nil => exact .of_same hevolves rfl rfl
  | cons move moves ih =>
    have hrest := ih (s := move.step s) fun m hm => hmoves m (List.mem_cons_of_mem _ hm)
    exact (step_evolves hevolves s (hmoves move List.mem_cons_self)).trans hevolves hrest

end StackMove

/-- The zones of a guard are whole pages of mapped memory, and have been armed, opened and armed
again by any events.  If a trap is then answered by a rule of the stack-guard stage, its address is
known, and unless the kernel refuses to open the zone, every byte on the page of this address can be
read and written after the call, and until zones are armed again, whatever happens; so the
instruction cannot fault there again when it is tried again. -/
theorem retried_page_open {l : GuardZones} {s : ProcessState} (hfits : l.Fits s.scene.pages)
    (hnew : s.scene.guard = some { layout := l, mode := .mprotect }) (events : List GuardEvent)
    {move : StackMove} {c : Classifier} {i : Trap} {cl : Classification}
    (htrap : move.trap (GuardEvent.run s events) = some (c, i))
    (hverdict : move.verdict (GuardEvent.run s events) = some cl)
    (hrule : cl.rule ∈ Stage.stackGuard.rules) (hkernel : c.settings.kernelGuardPages = 0)
    (hgranted : (GuardEvent.run s events).scene.pages.refusals.headD false = false) :
    cl.TriesAgain i.pc ∧ ∃ thread address, i.fault? = some (thread, address) ∧
      ∀ later : List StackMove, (∀ m ∈ later, ∀ sp, m ≠ .rearm sp) →
        ∀ w, AddressSpace.page w = AddressSpace.page address →
          (StackMove.run (move.step (GuardEvent.run s events)) later).scene.pages.readable w =
            true := by
  obtain ⟨g, hg, hput⟩ :=
    GuardEvent.run_staysPut s events { guard := _, pages := s.scene.pages } ⟨hnew, rfl⟩
  generalize GuardEvent.run s events = t at htrap hverdict hgranted hg ⊢
  obtain ⟨c', i', u, htrap', hguard, hafter⟩ := StackMove.stackGuard_of_verdict hverdict hrule
  obtain ⟨rfl, rfl⟩ := Prod.mk.inj (Option.some.inj (htrap'.symm.trans htrap))
  obtain ⟨hagain, thread, address, g₁, g', fault, hopens, hshows⟩ :=
    Classifier.opens_of_stackGuard hguard
  obtain rfl : g₁ = g.guard := Option.some.inj (fault.guarded.symm.trans hg.1)
  refine ⟨hagain, thread, address, fault.known, fun later hlater w hw => ?_⟩
  have hopened : g'.pages.readable w = true := by
    have hfits' : g.guard.layout.Fits t.scene.pages := by
      rw [hput.layout, hg.2]
      exact hfits.of_bounds hput.low hput.high
    refine hopens.page_readable hput.mode hfits' hgranted ?_
    rw [Classifier.lowered_of_no_kernelGuard hkernel]
    exact hw
  -- nothing is closed from when the zone is opened until zones are armed again
  have hlater' := hafter.trans GuardedStack.closesNothing_evolves
    (StackMove.run_closesNothing hlater)
  obtain ⟨g'', hg'', hkept⟩ := hlater' g' hshows
  rw [hg''.2]
  exact hkept.readable w hopened

/-- After the fault in the reserved zone every byte of its page can be read, while the page below
it, in the yellow zone, is still closed. -/
theorem lent_page_open :
    ∃ t, StackMove.step (GuardEvent.run .unarmedThread [.arm]) (.handle .inReserve) = t ∧
      t.scene.pages.readable 0x1000002fff = false ∧
      ∀ w, AddressSpace.page w = 0x1000003 → t.scene.pages.readable w = true := by
  have hverdict : StackMove.verdict (GuardEvent.run .unarmedThread [.arm]) (.handle .inReserve) =
      some { rule := .reservedStack, disposition := .redirect 0x10000040 } := rfl
  obtain ⟨-, thread, address, hknown, hopen⟩ := retried_page_open (s := .unarmedThread)
    ⟨by decide, by decide, by decide, by decide, by decide, by decide⟩ rfl [.arm] rfl hverdict
    (by decide) rfl rfl
  obtain ⟨-, rfl⟩ := Prod.mk.inj (Option.some.inj hknown)
  exact ⟨_, rfl, rfl, hopen [] (by simp)⟩

end ManagedFaults
