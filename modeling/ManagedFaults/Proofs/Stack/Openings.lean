import ManagedFaults.Proofs.Stack.Runs
import ManagedFaults.Proofs.Trap.Application
import ManagedFaults.Proofs.Trap.RuleOrder

/-!
# Counting opened zones

A fault in a guard zone opens one zone, by one operation, whatever becomes of the trap after that;
no other trap touches the stack (`Classifier.classify_opensIfHit`).  So a guard counts the faults
in its zones: along any run of signals and attempts to arm the zones again, the number of openings
grows by the number of outermost faults that hit a zone (`zones_opened_by_faults`).  They are
counted in a machine word, so after its largest value the count starts anew.
-/

namespace ManagedFaults

/-! ## Faults in guard zones -/

/-- Whether a trap is a segmentation fault in a guard zone of the thread, its address lowered past
the guard pages of the kernel, and no speculative read. -/
def Classifier.hitsZone (c : Classifier) (i : Trap) (s : Scene) : Bool :=
  i.signal == .segv && (c.runtime.speculativeStub i.pc).isNone &&
    match i.fault?, s.guard with
    | some (_, address), some g =>
      g.layout.onStack (c.lowered address) &&
        (g.layout.inRed (c.lowered address) || g.layout.inYellowOrReserved (c.lowered address))
    | _, _ => false

/-- The operations on the guarded stack that open a zone, by the address that was hit. -/
inductive GuardedStack.Opens (address : Word) (s : GuardedStack) : GuardedStack → Prop
  | red (hit : s.guard.layout.inRed address = true) : Opens address s s.openRed
  | yellow (hit : s.guard.layout.inYellowOrReserved address = true) :
      Opens address s s.openYellow
  | reserved (hit : s.guard.layout.inReserved address = true) (holder : Word) :
      Opens address s (s.lendReservedTo holder)

/-- Each of them is counted once. -/
lemma GuardedStack.Opens.openings {address : Word} {s s' : GuardedStack}
    (h : s.Opens address s') : s'.guard.openings = s.guard.openings + 1 := by
  cases h with
  | red => rw [s.openRed_guard]
  | yellow => rw [s.openYellow_guard]
  | reserved _ holder => rw [s.lendReservedTo_guard]

/-- A zone is opened if one was hit, and the stack is left alone if none was. -/
structure Classifier.OpensIfHit (c : Classifier) (i : Trap) (s t : Scene) : Prop where
  opened : c.hitsZone i s = true → ∃ thread address g g', c.StackFault i s thread address g ∧
    GuardedStack.Opens (c.lowered address) { guard := g, pages := s.pages } g' ∧ t.Shows g'
  kept : c.hitsZone i s = false → s.SameStack t

namespace Classifier

variable {c : Classifier} {i : Trap} {s t u : Scene}

lemma hitsZone_iff :
    c.hitsZone i s = true ↔ c.runtime.speculativeStub i.pc = none ∧
      ∃ thread address g, c.StackFault i s thread address g ∧
        (g.layout.inRed (c.lowered address) = true ∨
          g.layout.inYellowOrReserved (c.lowered address) = true) := by
  unfold hitsZone
  constructor
  · intro h
    simp only [Bool.and_eq_true, beq_iff_eq, Option.isNone_iff_eq_none] at h
    obtain ⟨⟨hsignal, hfetch⟩, hzone⟩ := h
    split at hzone
    · next thread address g hknown hguard =>
      simp only [Bool.and_eq_true, Bool.or_eq_true] at hzone
      exact ⟨hfetch, thread, address, g, ⟨hsignal, hknown, hguard, hzone.1⟩, hzone.2⟩
    · cases hzone
  · rintro ⟨hfetch, thread, address, g, fault, hhit⟩
    simp [hfetch, fault.signal, fault.known, fault.guarded, fault.onStack, hhit]

/-- What is hit depends on the stack alone. -/
lemma hitsZone_congr (h : t.guard = s.guard) : c.hitsZone i t = c.hitsZone i s := by
  unfold hitsZone
  rw [h]

namespace OpensIfHit

/-- A trap that hits nothing is to leave the stack alone. -/
lemma of_sameStack (hmiss : c.hitsZone i s = false) (h : s.SameStack t) :
    c.OpensIfHit i s t where
  opened := by
    rw [hmiss]
    intro hfalse
    cases hfalse
  kept _ := h

/-- A trap that hits a zone is to open one. -/
lemma of_opens (hfetch : c.runtime.speculativeStub i.pc = none) {thread : ManagedThread}
    {address : Word} {g : StackGuard} (fault : c.StackFault i s thread address g)
    (hhit : g.layout.inRed (c.lowered address) = true ∨
      g.layout.inYellowOrReserved (c.lowered address) = true) {g' : GuardedStack}
    (hopens : GuardedStack.Opens (c.lowered address) { guard := g, pages := s.pages } g')
    (hshows : t.Shows g') : c.OpensIfHit i s t where
  opened _ := ⟨thread, address, g, g', fault, hopens, hshows⟩
  kept := by
    rw [hitsZone_iff.mpr ⟨hfetch, thread, address, g, fault, hhit⟩]
    intro hfalse
    cases hfalse

/-- What comes before and after may do anything but touch the stack. -/
lemma congr (h : c.OpensIfHit i s t) {s' t' : Scene} (hs : s'.SameStack s) (ht : t.SameStack t') :
    c.OpensIfHit i s' t' where
  opened := by
    rw [← hitsZone_congr hs.guard]
    intro hhit
    obtain ⟨thread, address, g, g', fault, hopens, hshows⟩ := h.opened hhit
    have fault' : c.StackFault i s' thread address g :=
      ⟨fault.signal, fault.known, hs.guard.symm.trans fault.guarded, fault.onStack⟩
    rw [hs.pages] at hopens
    exact ⟨thread, address, g, g', fault', hopens, ht.shows hshows⟩
  kept := by
    rw [← hitsZone_congr hs.guard]
    intro hmiss
    exact hs.trans ((h.kept hmiss).trans ht)

end OpensIfHit

/-- The stack-guard rule opens one zone if one was hit. -/
lemma stackGuard_opensIfHit (hfetch : c.runtime.speculativeStub i.pc = none) (s : Scene) :
    c.OpensIfHit i s ((c.stackGuard i).run s).2 := by
  have houtcome := c.stackGuard_outcome i s
  generalize (c.stackGuard i).run s = out at houtcome ⊢
  obtain ⟨r, t⟩ := out
  cases houtcome with
  | passed hmiss =>
    refine .of_sameStack ?_ (.refl _)
    rw [← Bool.not_eq_true, hitsZone_iff]
    rintro ⟨-, thread, address, g, fault, hhit⟩
    have hzones := hmiss thread address g fault
    simp [hzones] at hhit
  | native fault hit _ hshows =>
    refine .of_opens hfetch fault (.inr hit) (.yellow ?_) hshows
    exact hit
  | lent fault hit _ reserved _ holder hshows =>
    refine .of_opens hfetch fault (.inr hit) (.reserved ?_ holder.address) hshows
    exact reserved
  | overflow fault hit _ hshows =>
    refine .of_opens hfetch fault (.inr hit) (.yellow ?_) hshows
    exact hit
  | red fault hit hshows =>
    refine .of_opens hfetch fault (.inl hit) (.red ?_) hshows
    exact hit

/-- Of the rules before handlers are asked, no other opens anything. -/
lemma ownRules_opensIfHit (c : Classifier) (i : Trap) (s : Scene) :
    c.OpensIfHit i s ((c.ownRules i).run s).2 := by
  cases hpipe : i.signal.isBrokenPipe with
  | true =>
    rw [run_ownRules_of_pipe hpipe]
    refine .of_sameStack ?_ (.refl s)
    rw [← Bool.not_eq_true, hitsZone_iff]
    rintro ⟨-, _, _, _, fault, -⟩
    rw [fault.signal] at hpipe
    cases hpipe
  | false =>
    cases hfetch : c.runtime.speculativeStub i.pc with
    | some stub =>
      rw [run_ownRules_of_fetch hpipe hfetch]
      refine .of_sameStack ?_ ⟨rfl, rfl⟩
      rw [← Bool.not_eq_true, hitsZone_iff]
      rintro ⟨hnone, -⟩
      rw [hfetch] at hnone
      cases hnone
    | none =>
      have hrecorded : s.SameStack (s.record (.speculativeStub i.pc)) := ⟨rfl, rfl⟩
      exact (stackGuard_opensIfHit hfetch _).congr hrecorded (ownRules_sameStack hpipe hfetch s)

/-- Classification opens one zone if one was hit, unless a handler that is asked touches the
stack. -/
theorem classify_opensIfHit {offer : TrapM Bool} {s : ProcessState}
    (hoffer : ∀ scene : Scene, scene.SameStack (offer.stateAfter { s with scene }).scene) :
    c.OpensIfHit i s.scene ((c.classify offer i).stateAfter s).scene :=
  (c.ownRules_opensIfHit i s.scene).congr (.refl _) (classify_sameStack hoffer)

/-- However large a count is, one more is another count. -/
private lemma toNat_ne_toNat_add_one (n : Word) : n.toNat ≠ (n + 1).toNat := by
  have hbound := n.toNat_lt
  rw [UInt64.toNat_add]
  show n.toNat ≠ (n.toNat + 1) % 2 ^ 64
  omega

/-- A guard changes if and only if a zone is opened, since each opening is counted. -/
lemma OpensIfHit.guard_ne_iff (h : c.OpensIfHit i s t) :
    t.guard ≠ s.guard ↔ c.hitsZone i s = true := by
  constructor
  · intro hchanged
    cases hhit : c.hitsZone i s with
    | true => rfl
    | false => exact absurd (h.kept hhit).guard hchanged
  · intro hhit hsame
    obtain ⟨_, _, g, g', fault, hopens, hshows⟩ := h.opened hhit
    have hguard : g'.guard = g := by
      rw [hshows.1, fault.guarded, Option.some.injEq] at hsame
      exact hsame
    have hopenings := hopens.openings
    rw [hguard] at hopenings
    exact absurd (congrArg UInt64.toNat hopenings) (toNat_ne_toNat_add_one g.openings)

/-- The openings that are counted. -/
lemma OpensIfHit.openings (h : c.OpensIfHit i s t) {g : StackGuard} (hg : s.guard = some g) :
    ∃ g', t.guard = some g' ∧ g'.openings = g.openings + UInt64.ofNat (c.hitsZone i s).toNat := by
  cases hhit : c.hitsZone i s with
  | true =>
    obtain ⟨_, _, g₁, g', fault, hopens, hshows⟩ := h.opened hhit
    have hsame : g₁ = g := by
      rw [fault.guarded, Option.some.injEq] at hg
      exact hg
    exact ⟨g'.guard, hshows.1, hsame ▸ hopens.openings⟩
  | false => exact ⟨g, (h.kept hhit).guard.trans hg, (UInt64.add_zero g.openings).symm⟩

end Classifier

/-! ## Signals that arrive -/

namespace SignalCall

open ProcessState

variable {call : SignalCall} {s m : ProcessState} {cl : Classification}

/-- Handlers that run below an outermost handler leave the stack alone when they are asked. -/
lemma offer_sameStack (hroom : call.room < call.sp) (hmark : s.os.mark.recorded = call.sp)
    (thread : Option ManagedThread) (scene : Scene) :
    scene.SameStack ((call.offer thread).stateAfter { s with scene }).scene := by
  have hactive : call.room < { s with scene }.os.mark.recorded := by
    rw [← hmark] at hroom
    exact hroom
  have hsame := (call.offer_holds thread).stateAfter { s with scene } hactive
  exact ⟨congrArg HeldPart.guard hsame, congrArg HeldPart.pages hsame⟩

/-- Finding the verdict of an outermost handler opens one zone if one was hit. -/
lemma verdict_opensIfHit (hroom : call.room < call.sp)
    (houter : (s.os.mark.enter call.sp).1 = false) :
    call.sys.classifier.OpensIfHit (call.input s.thread) s.scene
      (call.verdict.stateAfter s).scene := by
  have hmark : (s.entered call.sp).os.mark.recorded = call.sp := by
    rw [mark_entered houter]
  have hclassify := Classifier.classify_opensIfHit (c := call.sys.classifier)
    (i := call.input s.thread) (offer_sameStack hroom hmark s.thread)
  unfold TrapM.stateAfter at hclassify ⊢
  rw [call.verdict_run houter]
  exact hclassify

/-- Applying the verdict leaves the stack alone. -/
lemma applied_sameStack {context : Option Context}
    {result : EStateM.Result Ending ProcessState (Bool × Option Context)}
    (happlied : Applied call context cl m result) (hroom : call.room < m.os.mark.recorded) :
    TrapM.EndsIn (fun t => m.scene.SameStack t.scene) (fun t => m.scene.SameStack t.scene)
      result := by
  cases happlied with
  | ignored => exact .refl _
  | redirected => exact .refl _
  | declined => exact .refl _
  | @escalated _ _ _ u t e trap unblocks _ _ _ _ _ _ _ ends =>
    have hescalate := call.escalate_holds trap u
    rw [ends] at hescalate
    have hheld : u.held = m.held := unblocks.held
    have hactive : call.room < u.os.mark.recorded := by
      rw [mark_of_held hheld]
      exact hroom
    have hsame : t.held = m.held := (hescalate hactive).trans hheld
    exact ⟨congrArg HeldPart.guard hsame, congrArg HeldPart.pages hsame⟩

/-- Handling a signal outermost opens one zone if one was hit. -/
lemma run_opensIfHit (hroom : call.room < call.sp)
    (houter : (s.os.mark.enter call.sp).1 = false) :
    call.sys.classifier.OpensIfHit (call.input s.thread) s.scene (call.run.stateAfter s).scene := by
  have hopens := verdict_opensIfHit hroom houter
  unfold TrapM.stateAfter at hopens ⊢
  cases hverdict : call.verdict.run s with
  | error e t =>
    rw [hverdict] at hopens
    rw [run_of_verdict_error hverdict]
    exact hopens
  | ok cl m =>
    rw [hverdict] at hopens
    have hmark := (verdict_undisturbed hroom houter hverdict).mark
    have hactive : call.room < m.os.mark.recorded := by
      rw [hmark]
      exact hroom
    have happlied := applied_sameStack (applied_of_verdict hroom houter hverdict) hactive
    cases hrun : call.run.run s with
    | error e t =>
      rw [hrun] at happlied
      exact hopens.congr (.refl _) happlied
    | ok r t =>
      rw [hrun] at happlied
      exact hopens.congr (.refl _) happlied

/-- A nested handler leaves the stack alone. -/
lemma run_sameStack_of_nested (hroom : call.room < call.sp)
    (hnested : (s.os.mark.enter call.sp).1 = true) :
    s.scene.SameStack (call.run.stateAfter s).scene := by
  have hwithin : call.run.Within (QuietBelow call.sp) (HoldsBelow call.sp) :=
    handle_nested_within (services_nested call.sys (Nat.le_of_lt hroom)) (Nat.le_refl call.sp)
      call.info call.raw call.context call.abort
  have hheld := TrapM.Within.stateAfter
    (hwithin.mono (fun _ _ hst h => held_of_quiet (hst h)) fun _ _ hst => hst) s
  have hsame := hheld ((s.os.mark.nested_iff call.sp).mp hnested)
  exact ⟨congrArg HeldPart.guard hsame, congrArg HeldPart.pages hsame⟩

end SignalCall

/-! ## Runs -/

namespace StackMove

variable {s : ProcessState} {g : StackGuard}

/-- A move that comes from outside of the handlers: a signal arrives, and whatever is called while
it is handled runs below its handler, or zones are to be armed again. -/
def Arrives : StackMove → Prop
  | .elsewhere _ => True
  | .classify _ _ _ => False
  | .handle call => call.room < call.sp
  | .rearm _ => True

/-- Whether a move is a fault in a guard zone that arrives at an outermost handler. -/
def hitsZone (s : ProcessState) : StackMove → Bool
  | .handle call =>
    !(s.os.mark.enter call.sp).1 &&
      call.sys.classifier.hitsZone (call.input s.thread) s.scene
  | _ => false

/-- How many of the moves of a run are such faults. -/
def zoneHits (s : ProcessState) : List StackMove → Nat
  | [] => 0
  | move :: moves => (move.hitsZone s).toNat + zoneHits (move.step s) moves

/-- A move opens as many zones as it hits. -/
lemma step_openings {move : StackMove} (harrives : move.Arrives) (hg : s.scene.guard = some g) :
    ∃ g', (move.step s).scene.guard = some g' ∧
      g'.openings = g.openings + UInt64.ofNat (move.hitsZone s).toNat := by
  have hnone : g.openings = g.openings + UInt64.ofNat 0 := (UInt64.add_zero g.openings).symm
  cases move with
  | elsewhere world => exact ⟨g, hg, hnone⟩
  | classify sys room i => exact harrives.elim
  | handle call =>
    have hhits : hitsZone s (.handle call) = (!(s.os.mark.enter call.sp).1 &&
        call.sys.classifier.hitsZone (call.input s.thread) s.scene) := rfl
    rw [hhits]
    cases hmark : (s.os.mark.enter call.sp).1 with
    | true =>
      exact ⟨g, (SignalCall.run_sameStack_of_nested harrives hmark).guard.trans hg, hnone⟩
    | false => exact (SignalCall.run_opensIfHit harrives hmark).openings hg
  | rearm sp =>
    have hshows := ProcessState.shows_mapStack hg (·.rearm sp)
    refine ⟨_, hshows.1, ?_⟩
    rw [GuardedStack.rearm_guard]
    unfold StackGuard.rearmed
    split <;> exact hnone

/-- Along a run every zone that was hit is opened once. -/
theorem run_openings {moves : List StackMove} (harrive : ∀ move ∈ moves, move.Arrives)
    (hg : s.scene.guard = some g) :
    ∃ g', (run s moves).scene.guard = some g' ∧
      g'.openings = g.openings + UInt64.ofNat (zoneHits s moves) := by
  induction moves generalizing s g with
  | nil => exact ⟨g, hg, (UInt64.add_zero g.openings).symm⟩
  | cons move moves ih =>
    obtain ⟨g₁, hg₁, hstep⟩ := step_openings (harrive move List.mem_cons_self) hg
    obtain ⟨g', hg', hrest⟩ := ih (fun m hm => harrive m (List.mem_cons_of_mem _ hm)) hg₁
    refine ⟨g', hg', ?_⟩
    rw [hrest, hstep, zoneHits, UInt64.ofNat_add, UInt64.add_assoc]

end StackMove

/-- A count that has grown, in a machine word. -/
private lemma toNat_add_ofNat (n : Word) (k : Nat) :
    (n + UInt64.ofNat k).toNat = (n.toNat + k) % UInt64.size := by
  rw [UInt64.toNat_add, UInt64.toNat_ofNat', Nat.add_mod_mod]

/-- A computation that leaves the stack alone, however it ends. -/
def TrapM.LeavesStack {α : Type} (x : TrapM α) : Prop :=
  ∀ s : ProcessState, s.scene.SameStack (x.stateAfter s).scene

/-- As long as the handlers that are asked leave the stack alone, a trap changes the guard if and
only if it is a fault in a guard zone, and no speculative read.  Then one zone is opened, by one
operation, and counted, also if there is no stub and a later rule decides; otherwise neither the
guard nor its pages are touched.

So along a run of signals and attempts to arm zones again the count of openings grows by the number
of outermost faults that hit a zone, modulo the numbers that a machine word has. -/
theorem zones_opened_by_faults (s : ProcessState) :
    (∀ (c : Classifier) (offer : TrapM Bool) (i : Trap), offer.LeavesStack →
      (((c.classify offer i).stateAfter s).scene.guard ≠ s.scene.guard ↔
        c.hitsZone i s.scene = true) ∧
      (c.hitsZone i s.scene = true →
        ∃ thread address g g', c.StackFault i s.scene thread address g ∧
          ((c.classify offer i).stateAfter s).scene.Shows g' ∧
          GuardedStack.Opens (c.lowered address) { guard := g, pages := s.scene.pages } g' ∧
          g'.guard.openings = g.openings + 1) ∧
      (c.hitsZone i s.scene = false →
        s.scene.SameStack ((c.classify offer i).stateAfter s).scene)) ∧
    ∀ (moves : List StackMove) (g : StackGuard), (∀ move ∈ moves, move.Arrives) →
      s.scene.guard = some g →
      ∃ g', (StackMove.run s moves).scene.guard = some g' ∧
        g'.openings.toNat = (g.openings.toNat + StackMove.zoneHits s moves) % UInt64.size := by
  refine ⟨fun c offer i hoffer => ?_, fun moves g harrive hg => ?_⟩
  · have hopens := Classifier.classify_opensIfHit (c := c) (i := i) (s := s)
      fun scene => hoffer { s with scene }
    refine ⟨hopens.guard_ne_iff, fun hhit => ?_, hopens.kept⟩
    obtain ⟨thread, address, g, g', fault, hop, hshows⟩ := hopens.opened hhit
    exact ⟨thread, address, g, g', fault, hshows, hop, hop.openings⟩
  · obtain ⟨g', hg', hopenings⟩ := StackMove.run_openings harrive hg
    refine ⟨g', hg', ?_⟩
    rw [hopenings, toNat_add_ofNat]

/-- The process, the guard of which has counted to the largest number. -/
def ProcessState.countedOut (s : ProcessState) : ProcessState :=
  s.mapStack fun stack =>
    ((), { stack with guard := { stack.guard with openings := 0xffffffffffffffff } })

/-- A fault in the reserved zone changes the guard.  Along a run with two of them, one after the
zone is armed again, two openings are counted; the use of a null reference in between is none.  If
as many as there can be were counted before, the count is then one. -/
theorem two_openings_counted :
    ((Classifier.interpreting.classify (return false) .inReserve).stateAfter
        .armedThread).scene.guard ≠ ProcessState.armedThread.scene.guard ∧
      (∃ g', (StackMove.run (ProcessState.unarmedThread.mapStack (·.armAll))
          [.handle .inReserve, .rearm 0x1000008000, .handle .nullUse,
            .handle .inReserve]).scene.guard = some g' ∧
        g'.openings.toNat = 2) ∧
      ∃ g', (StackMove.run (ProcessState.unarmedThread.mapStack (·.armAll)).countedOut
          [.handle .inReserve, .rearm 0x1000008000, .handle .nullUse,
            .handle .inReserve]).scene.guard = some g' ∧
        g'.openings.toNat = 1 := by
  refine ⟨?_, ?_, ?_⟩
  · have hclassify := (zones_opened_by_faults .armedThread).1 .interpreting (return false)
      .inReserve fun s => .refl s.scene
    exact hclassify.1.mpr rfl
  · obtain ⟨g', hg', hopenings⟩ :=
      (zones_opened_by_faults (ProcessState.unarmedThread.mapStack (·.armAll))).2
        [.handle .inReserve, .rearm 0x1000008000, .handle .nullUse, .handle .inReserve] _
        (by simp [StackMove.Arrives, SignalCall.inReserve, SignalCall.nullUse]) rfl
    exact ⟨g', hg', hopenings⟩
  · obtain ⟨g', hg', hopenings⟩ :=
      (zones_opened_by_faults (ProcessState.unarmedThread.mapStack (·.armAll)).countedOut).2
        [.handle .inReserve, .rearm 0x1000008000, .handle .nullUse, .handle .inReserve] _
        (by simp [StackMove.Arrives, SignalCall.inReserve, SignalCall.nullUse]) rfl
    exact ⟨g', hg', hopenings⟩

end ManagedFaults
