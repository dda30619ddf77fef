import ManagedFaults.Proofs.Trap.Justification
import ManagedFaults.Proofs.Trap.Offering

/-!
# Overflows of managed code

A fault in the yellow or reserved zone of a thread that runs managed code is tried again with the
reserved zone open if and only if the zone is armed and the frame that was testing the stack
belongs to an activation that may use it; otherwise both zones are opened, and the exception is
raised (`reserve_lent_iff`).
-/

namespace ManagedFaults

/-! ## Up to the stack-guard rule -/

/-- The stages after the stack-guard rule. -/
def Stage.afterGuard : List Stage :=
  [.managedCode, .runtimeUnsafeAccess, .fastAccessorSlowCase, .serializePage, .chained,
   .unrecognized]

namespace Classifier

/-- Tries one stage, with some rule in the place of the stack-guard rule. -/
def attemptWith (c : Classifier) (guardRule : RuleM (Option Classification)) (offer : TrapM Bool)
    (i : Trap) : Stage → TrapM (Option Classification)
  | .stackGuard => TrapM.onScene guardRule
  | stage => c.attempt offer i stage

/-- Classifies a trap with some rule in the place of the stack-guard rule. -/
def classifyWith (c : Classifier) (guardRule : RuleM (Option Classification))
    (offer : TrapM Bool) (i : Trap) : TrapM Classification := do
  let found ← Stage.order.findSomeM? (c.attemptWith guardRule offer i)
  c.announce i (found.getD unrecognized)

lemma classify_eq_with (c : Classifier) (offer : TrapM Bool) (i : Trap) :
    c.classify offer i = c.classifyWith (c.stackGuard i) offer i := by
  have hattempt : c.attemptWith (c.stackGuard i) offer i = c.attempt offer i := by
    funext stage
    cases stage <;> rfl
  unfold classifyWith
  rw [hattempt]
  rfl

/-- Goes on after the stack-guard rule: the later stages are tried if it has passed. -/
def afterGuard (c : Classifier) (offer : TrapM Bool) (i : Trap) :
    Option Classification → TrapM Classification
  | some cl => c.announce i cl
  | none => do
    let found ← Stage.afterGuard.findSomeM? (c.attempt offer i)
    c.announce i (found.getD unrecognized)

/-- The rule in the place of the stack-guard rule is all that matters, unless a speculative read or
a signal of the broken-pipe class comes first. -/
lemma run_classifyWith {c : Classifier} {i : Trap} (hpipe : i.signal.isBrokenPipe = false)
    (hfetch : c.runtime.speculativeStub i.pc = none)
    (guardRule : RuleM (Option Classification)) (offer : TrapM Bool) (s : ProcessState) :
    (c.classifyWith guardRule offer i).run s =
      (c.afterGuard offer i (guardRule.run (s.scene.record (.speculativeStub i.pc))).1).run
        { s with scene := (guardRule.run (s.scene.record (.speculativeStub i.pc))).2 } := by
  have horder : Stage.order = .brokenPipe :: .safeFetch :: .stackGuard :: Stage.afterGuard := rfl
  have hlater : Stage.afterGuard.findSomeM? (c.attemptWith guardRule offer i) =
      Stage.afterGuard.findSomeM? (c.attempt offer i) := rfl
  have hfirst : (c.attemptWith guardRule offer i .brokenPipe).run s = .ok none s := by
    show (brokenPipe offer i).run s = _
    unfold brokenPipe
    rw [hpipe]
    rfl
  have hsecond : (c.attemptWith guardRule offer i .safeFetch).run s =
      .ok none { s with scene := s.scene.record (.speculativeStub i.pc) } := by
    show (TrapM.onScene (c.safeFetch i)).run s = _
    unfold safeFetch
    rw [hfetch]
    rfl
  -- the rule itself may do anything to the scene, so this is for any state it is reached in
  have hthird (s : ProcessState) : (c.attemptWith guardRule offer i .stackGuard).run s =
      .ok (guardRule.run s.scene).1 { s with scene := (guardRule.run s.scene).2 } := rfl
  unfold classifyWith
  rw [horder, List.findSomeM?_cons, List.findSomeM?_cons, List.findSomeM?_cons, hlater, bind_assoc,
    TrapM.run_bind_of_ok hfirst]
  dsimp only
  rw [bind_assoc, TrapM.run_bind_of_ok hsecond]
  dsimp only
  rw [bind_assoc, TrapM.run_bind_of_ok (hthird _)]
  dsimp only
  cases (guardRule.run (s.scene.record (.speculativeStub i.pc))).1 <;> rfl

variable {c : Classifier} {i : Trap} {s : ProcessState} {thread : ManagedThread} {address : Word}
  {g : StackGuard}

/-- The question about a speculative read does not change what a fault is about. -/
lemma StackFault.record {s : Scene} (fault : c.StackFault i s thread address g)
    (q : Interaction) : c.StackFault i (s.record q) thread address g :=
  ⟨fault.signal, fault.known, fault.guarded, fault.onStack⟩

/-- A fault on the stack is classified by the zone that was hit, if by any. -/
lemma run_classify_of_stackFault (fault : c.StackFault i s.scene thread address g)
    (hfetch : c.runtime.speculativeStub i.pc = none) {r : Option Classification} {t : Scene}
    (hzones : (c.yellowFirst i thread g (c.lowered address)).run
      (s.scene.record (.speculativeStub i.pc)) = (r, t)) (offer : TrapM Bool) :
    (c.classify offer i).run s = (c.afterGuard offer i r).run { s with scene := t } := by
  have hpipe : i.signal.isBrokenPipe = false := by
    rw [fault.signal]
    rfl
  have hrun : (c.stackGuard i).run (s.scene.record (.speculativeStub i.pc)) = (r, t) := by
    rw [stackGuard_eq, run_onStackFault (fault.record _), hzones]
  rw [classify_eq_with, run_classifyWith hpipe hfetch, hrun]

/-- If the zone decides, no stage comes after it. -/
lemma run_classify_of_decided (fault : c.StackFault i s.scene thread address g)
    (hfetch : c.runtime.speculativeStub i.pc = none) {cl : Classification} {t : Scene}
    (hzones : (c.yellowFirst i thread g (c.lowered address)).run
      (s.scene.record (.speculativeStub i.pc)) = (some cl, t)) :
    ∃ t', (∀ offer, (c.classify offer i).run s = .ok cl { s with scene := t' }) ∧
      t'.guard = t.guard ∧ t'.pages = t.pages ∧ t'.interactions = t.interactions := by
  obtain ⟨t', hannounce, hkept⟩ := c.run_announce i cl { s with scene := t }
  exact ⟨t', fun offer => (run_classify_of_stackFault fault hfetch hzones offer).trans hannounce,
    hkept⟩

/-- In the yellow or reserved zone managed code overflows. -/
lemma run_yellowFirst_of_managed (managed : thread.state = .managed)
    (hit : g.layout.inYellowOrReserved address = true) {s : Scene} :
    (c.yellowFirst i thread g address).run s = (c.managedOverflow i thread g address).run s := by
  unfold yellowFirst yellowOverflow
  rw [if_pos hit, if_neg (not_not_intro managed)]

/-- Announcing a classification returns it. -/
lemma returns_announce (c : Classifier) (i : Trap) (cl : Classification) :
    (c.announce i cl).Returns (· = cl) := by
  intro s cl' t hrun
  obtain ⟨t', hannounce, -⟩ := c.run_announce i cl s
  rw [hannounce, EStateM.Result.ok.injEq] at hrun
  exact hrun.1.symm

/-- No stage after the stack-guard rule lends the reserved zone. -/
lemma returns_afterGuard (c : Classifier) (offer : TrapM Bool) (i : Trap)
    {r : Option Classification} (hr : ∀ cl, r = some cl → cl.rule ≠ .reservedStack) :
    (c.afterGuard offer i r).Returns fun cl => cl.rule ≠ .reservedStack := by
  have hstages : ∀ stage ∈ Stage.afterGuard, TrapRule.reservedStack ∉ stage.rules := by decide
  have hfound : (Stage.afterGuard.findSomeM? (c.attempt offer i)).Returns
      fun r => ∀ cl, r = some cl → cl.rule ≠ .reservedStack := by
    refine TrapM.returns_findSomeM? _ fun stage hstage => ?_
    refine (c.returns_attempt i offer stage).mono fun _ hanswer cl hcl hrule => ?_
    exact hstages stage hstage (hrule ▸ (hanswer cl hcl).2)
  cases r with
  | some cl => exact (c.returns_announce i cl).mono fun _ heq => heq ▸ hr cl rfl
  | none =>
    refine TrapM.returns_bind hfound fun found hfound => ?_
    refine (c.returns_announce i _).mono fun _ heq => heq ▸ ?_
    cases found with
    | some cl => exact hfound cl rfl
    | none => exact nofun

end Classifier

/-! ## Lending the reserved zone -/

open Classifier

/-- The runtime answers with one activation at most. -/
lemma Classifier.Lends.unique {c : Classifier} {i : Trap} {thread : ManagedThread} {g : StackGuard}
    {address : Word} {holder holder' : ReserveHolder} (h : c.Lends i thread g address holder)
    (h' : c.Lends i thread g address holder') : holder = holder' := by
  have hfound := (c.reserveHolder_iff thread i.context default holder).mpr h.holds
  have hfound' := (c.reserveHolder_iff thread i.context default holder').mpr h'.holds
  rwa [hfound, Option.some.injEq] at hfound'

section

variable {c : Classifier} {i : Trap} {s : ProcessState} {thread : ManagedThread} {address : Word}
  {g : StackGuard} (fault : c.StackFault i s.scene thread address g)
  (managed : thread.state = .managed) (hfetch : c.runtime.speculativeStub i.pc = none)
  (hit : g.layout.inYellowOrReserved (c.lowered address) = true)
include fault managed hfetch hit

/-- An activation that may use the reserved zone is lent it, and tries again. -/
lemma run_classify_of_lends {holder : ReserveHolder}
    (hlends : c.Lends i thread g (c.lowered address) holder) :
    ∃ t, (∀ offer, (c.classify offer i).run s =
        .ok { rule := .reservedStack, disposition := .redirect i.pc } { s with scene := t }) ∧
      t.Shows (GuardedStack.lendReservedTo { guard := g, pages := s.scene.pages }
        holder.address) := by
  have fault' := fault.record (.speculativeStub i.pc)
  obtain ⟨r, t, hrun, ⟨holder', hlends', rfl, hshows⟩ | ⟨hnone, -⟩⟩ :=
    run_managedOverflow fault'.guarded thread (c.lowered address)
  · -- what the runtime has answered is the activation that was asked about
    obtain rfl := hlends.unique hlends'
    rw [← run_yellowFirst_of_managed managed hit] at hrun
    obtain ⟨t', hclassify, hguard, hpages, -⟩ := run_classify_of_decided fault hfetch hrun
    exact ⟨t', hclassify, hshows.congr hguard hpages⟩
  · exact absurd hlends (hnone holder)

/-- Without such an activation both zones are opened, whatever comes after that. -/
lemma run_classify_of_not_lends
    (hnone : ∀ holder, ¬c.Lends i thread g (c.lowered address) holder) :
    ∃ t, t.Shows (GuardedStack.openYellow { guard := g, pages := s.scene.pages }) ∧
      ∀ offer, (c.classify offer i).run s = (c.afterGuard offer i
        ((c.runtime.raiseStub thread i.pc .stackOverflow).bind (redirect .stackOverflow))).run
          { s with scene := t } := by
  have fault' := fault.record (.speculativeStub i.pc)
  obtain ⟨r, t, hrun, ⟨holder', hlends', -⟩ | ⟨-, rfl, hshows⟩⟩ :=
    run_managedOverflow fault'.guarded thread (c.lowered address)
  · exact absurd hlends' (hnone holder')
  · rw [← run_yellowFirst_of_managed managed hit] at hrun
    exact ⟨t, hshows, run_classify_of_stackFault fault hfetch hrun⟩

end

/-- A fault of managed code in the yellow or reserved zone, lowered past the guard pages of the
kernel.  The reserved zone is lent if and only if it was hit and is armed, and the runtime has an
activation for the frame that was testing the stack; then yellow stays armed, the activation is
recorded, and the thread tries again.  Otherwise both zones are opened, whoever the reserved zone
was lent to stays recorded, and the thread goes on at the stub that raises the exception; without
such a stub the later stages decide. -/
theorem reserve_lent_iff {c : Classifier} {i : Trap} {s : ProcessState} {thread : ManagedThread}
    {address : Word} {g : StackGuard} (fault : c.StackFault i s.scene thread address g)
    (managed : thread.state = .managed) (hfetch : c.runtime.speculativeStub i.pc = none)
    (hit : g.layout.inYellowOrReserved (c.lowered address) = true) :
    (∀ offer, (∃ cl t, (c.classify offer i).run s = .ok cl t ∧ cl.rule = .reservedStack) ↔
      ∃ holder, c.Lends i thread g (c.lowered address) holder) ∧
    (∀ holder, c.Lends i thread g (c.lowered address) holder →
      ∃ t, (∀ offer, (c.classify offer i).run s =
          .ok { rule := .reservedStack, disposition := .redirect i.pc } { s with scene := t }) ∧
        t.Shows
          { guard :=
              { g with
                state := .reservedDisabled
                lentTo := if holder.interpreted then holder.frame.fp - 72 else holder.callerSp
                openings := g.openings + 1 }
            pages := (GuardedStack.lendReserved { guard := g, pages := s.scene.pages }).pages }) ∧
    ((∀ holder, ¬c.Lends i thread g (c.lowered address) holder) →
      (∀ stub, c.runtime.raiseStub thread i.pc .stackOverflow = some stub →
        ∃ t, (∀ offer, (c.classify offer i).run s =
            .ok { rule := .stackOverflow, disposition := .redirect stub } { s with scene := t }) ∧
          t.Shows
            { guard := { g with state := .yellowReservedDisabled, openings := g.openings + 1 }
              pages := (GuardedStack.openYellow { guard := g, pages := s.scene.pages }).pages }) ∧
      (c.runtime.raiseStub thread i.pc .stackOverflow = none →
        ∃ t, (∀ offer, (c.classify offer i).run s =
            (c.afterGuard offer i none).run { s with scene := t }) ∧
          t.Shows
            { guard := { g with state := .yellowReservedDisabled, openings := g.openings + 1 }
              pages :=
                (GuardedStack.openYellow { guard := g, pages := s.scene.pages }).pages })) := by
  refine ⟨fun offer => ⟨?_, ?_⟩, fun holder hlends => ?_, fun hnone => ⟨fun stub hstub => ?_,
    fun hstub => ?_⟩⟩
  · rintro ⟨cl, t, hrun, hrule⟩
    by_cases hlends : ∃ holder, c.Lends i thread g (c.lowered address) holder
    · exact hlends
    · -- neither an overflow nor a later stage answers with the rule of the reserved zone
      obtain ⟨u, -, hclassify⟩ :=
        run_classify_of_not_lends fault managed hfetch hit (not_exists.mp hlends)
      have hoverflow : ∀ cl, (c.runtime.raiseStub thread i.pc .stackOverflow).bind
          (redirect .stackOverflow) = some cl → cl.rule ≠ .reservedStack := by
        intro cl hcl
        obtain ⟨stub, -, hredirect⟩ := Option.bind_eq_some_iff.mp hcl
        obtain rfl := Option.some.inj hredirect
        exact nofun
      have hnever := c.returns_afterGuard offer i hoverflow
      exact absurd hrule (hnever _ _ _ ((hclassify offer).symm.trans hrun))
  · rintro ⟨holder, hlends⟩
    obtain ⟨t, hclassify, -⟩ := run_classify_of_lends fault managed hfetch hit hlends
    exact ⟨_, _, hclassify offer, rfl⟩
  · obtain ⟨t, hclassify, hguard, hpages⟩ :=
      run_classify_of_lends fault managed hfetch hit hlends
    refine ⟨t, hclassify, ?_, hpages⟩
    rw [hguard, GuardedStack.lendReservedTo_guard]
    rfl
  · obtain ⟨t, ⟨hguard, hpages⟩, hclassify⟩ :=
      run_classify_of_not_lends fault managed hfetch hit hnone
    obtain ⟨u, hannounce, hguard', hpages', -⟩ := c.run_announce i
      { rule := .stackOverflow, disposition := .redirect stub } { s with scene := t }
    refine ⟨u, fun offer => ?_, ?_, hpages'.trans hpages⟩
    · rw [hclassify, hstub]
      exact hannounce
    · rw [hguard', hguard, GuardedStack.openYellow_guard]
  · obtain ⟨t, ⟨hguard, hpages⟩, hclassify⟩ :=
      run_classify_of_not_lends fault managed hfetch hit hnone
    refine ⟨t, fun offer => ?_, ?_, hpages⟩
    · rw [hclassify, hstub]
      rfl
    · rw [hguard, GuardedStack.openYellow_guard]

/-- The rules for a runtime that interprets everything. -/
def Classifier.interpreting : Classifier :=
  { settings := {}, runtime := .interpreter 0x10000000 0x10010000 0x60000100 }

/-- The interpreter hits the reserved zone twice: its activation is lent the zone, which is then no
longer armed, so that the exception is raised. -/
theorem lent_once :
    ∃ t u,
      (∀ offer, (Classifier.interpreting.classify offer .inReserve).run .armedThread =
        .ok { rule := .reservedStack, disposition := .redirect 0x10000040 }
          { ProcessState.armedThread with scene := t }) ∧
      (t.guard.map fun g => (g.state, g.lentTo)) =
        some (.reservedDisabled, 0xffffffffffffffb8) ∧
      ∀ offer, (Classifier.interpreting.classify offer .inReserve).run
          { ProcessState.armedThread with scene := t } =
        .ok { rule := .stackOverflow, disposition := .redirect 0x60000100 }
          { ProcessState.armedThread with scene := u } := by
  have fault : Classifier.interpreting.StackFault .inReserve ProcessState.armedThread.scene _ _ _ :=
    ⟨rfl, rfl, rfl, rfl⟩
  obtain ⟨t, hlent, hguard, -⟩ := (reserve_lent_iff fault rfl rfl (by decide)).2.1 _
    ⟨by decide, rfl, _, .interpreted rfl, rfl⟩
  have fault' : Classifier.interpreting.StackFault .inReserve
      { ProcessState.armedThread with scene := t }.scene _ _ _ := ⟨rfl, rfl, hguard, rfl⟩
  obtain ⟨u, hraised, -⟩ := ((reserve_lent_iff fault' rfl rfl (by decide)).2.2
    fun holder hlends => absurd hlends.armed (by decide)).1 _ rfl
  exact ⟨t, u, hlent, by rw [hguard]; rfl, hraised⟩

end ManagedFaults
