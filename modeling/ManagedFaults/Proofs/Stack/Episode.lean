import ManagedFaults.Proofs.Stack.Runs
import ManagedFaults.Proofs.Trap.Visible

/-!
# Overflow episodes

From when a guard is armed until it is armed again its zones are only opened: `StackGuard.WearsTo`
holds between the guard before a run and the guard after it.  Which rules a run arrives at is
bounded by how far the guard has worn, so that the reserved zone is lent at most once.  Arming the
zones again ends the episode, and the guard is then as good as new (`overflow_episode`).
-/

namespace ManagedFaults

/-! ## Wear -/

/-- How far the zones of a guard have been opened. -/
def GuardPhase.depth : GuardPhase → Nat
  | .unused => 0
  | .enabled => 1
  | .reservedDisabled => 2
  | .yellowReservedDisabled => 3

/-- An armed guard that has worn has zones to be armed again. -/
lemma StackGuard.isOpened_of_depth {g : StackGuard}
    (hdepth : GuardPhase.enabled.depth ≤ g.state.depth) (hstate : g.state ≠ .enabled) :
    g.isOpened = true := by
  unfold isOpened
  cases hphase : g.state with
  | unused =>
    rw [hphase] at hdepth
    exact absurd hdepth (by decide)
  | enabled => exact absurd hphase hstate
  | reservedDisabled => rfl
  | yellowReservedDisabled => rfl

lemma GuardPhase.depth_le (phase : GuardPhase) :
    phase.depth ≤ GuardPhase.yellowReservedDisabled.depth := by
  cases phase <;> decide

/-- How a guard may change until it is armed again: its zones stay where they are, they are opened
further and further, and a red zone that was opened stays open. -/
structure StackGuard.WearsTo (g g' : StackGuard) : Prop where
  layout : g'.layout = g.layout
  mode : g'.mode = g.mode
  depth : g.state.depth ≤ g'.state.depth
  red : g'.redArmed = true → g.redArmed = true

namespace StackGuard.WearsTo

variable {g m g' : StackGuard}

lemma refl (g : StackGuard) : g.WearsTo g :=
  ⟨rfl, rfl, Nat.le_refl _, id⟩

lemma trans (hgm : g.WearsTo m) (hmg : m.WearsTo g') : g.WearsTo g' :=
  ⟨hmg.layout.trans hgm.layout, hmg.mode.trans hgm.mode, Nat.le_trans hgm.depth hmg.depth,
    fun h => hgm.red (hmg.red h)⟩

end StackGuard.WearsTo

/-- Handling signals only wears a guard. -/
lemma GuardedStack.wears_evolves : GuardedStack.Evolves fun s s' => s.guard.WearsTo s'.guard where
  same hguard _ := hguard ▸ .refl _
  trans hgm hmg := hgm.trans hmg
  openYellow s := by
    rw [s.openYellow_guard]
    exact ⟨rfl, rfl, s.guard.state.depth_le, id⟩
  openRed s := by
    rw [s.openRed_guard]
    exact ⟨rfl, rfl, Nat.le_refl _, fun h => absurd h (by simp)⟩
  lendReservedTo s holder harmed := by
    rw [s.lendReservedTo_guard]
    refine ⟨rfl, rfl, ?_, id⟩
    rw [StackGuard.reservedArmed_iff.mp harmed]
    exact Nat.le_succ _

/-! ## Wear by rule -/

/-- How far a guard has worn at least, once a rule has applied. -/
def TrapRule.reach : TrapRule → Nat
  | .reservedStack => 2
  | .stackOverflow => 3
  | .nativeStackOverflow => 3
  | _ => 0

lemma TrapRule.reach_le (rule : TrapRule) :
    rule.reach ≤ GuardPhase.yellowReservedDisabled.depth := by
  cases rule <;> decide

/-- The rules of all stages but one open no zones. -/
lemma Stage.reach_of_rules {stage : Stage} (h : stage ≠ .stackGuard) :
    ∀ rule ∈ stage.rules, rule.reach = 0 := by
  cases stage with
  | stackGuard => exact absurd rfl h
  | _ => decide

/-- How a guard changes in a call that arrives at a rule.  It wears as far as the rule says, and
the reserved zone is lent only while the guard has not worn at all. -/
structure TrapRule.Wears (rule : TrapRule) (g g' : StackGuard) : Prop where
  wears : g.WearsTo g'
  reached : rule.reach ≤ g'.state.depth
  whole : rule = .reservedStack → g.state.depth ≤ 1

namespace TrapRule.Wears

variable {rule : TrapRule} {g m g' : StackGuard}

/-- A rule that opens no zone says nothing about them. -/
lemma of_reach (hrule : rule.reach = 0) (h : g.WearsTo g') : rule.Wears g g' where
  wears := h
  reached := by rw [hrule]; exact Nat.zero_le _
  whole heq := by
    rw [heq] at hrule
    simp [reach] at hrule

lemma after (hgm : g.WearsTo m) (hmg : rule.Wears m g') : rule.Wears g g' :=
  ⟨hgm.trans hmg.wears, hmg.reached, fun h => Nat.le_trans hgm.depth (hmg.whole h)⟩

lemma before (hgm : rule.Wears g m) (hmg : m.WearsTo g') : rule.Wears g g' :=
  ⟨hgm.wears.trans hmg, Nat.le_trans hgm.reached hmg.depth, hgm.whole⟩

/-- Opening the yellow and reserved zones goes as far as any rule says. -/
lemma openYellow (hrule : rule ≠ .reservedStack) (s : GuardedStack) :
    rule.Wears s.guard s.openYellow.guard where
  wears := GuardedStack.wears_evolves.openYellow s
  reached := by
    rw [s.openYellow_guard]
    exact rule.reach_le
  whole heq := absurd heq hrule

/-- Lending the reserved zone takes a guard that has not worn. -/
lemma lendReservedTo {s : GuardedStack} (harmed : s.guard.reservedArmed = true) (holder : Word) :
    TrapRule.reservedStack.Wears s.guard (s.lendReservedTo holder).guard where
  wears := GuardedStack.wears_evolves.lendReservedTo s holder harmed
  reached := by
    rw [s.lendReservedTo_guard]
    exact Nat.le_refl _
  whole _ := by
    rw [StackGuard.reservedArmed_iff.mp harmed]
    exact Nat.le_refl _

end TrapRule.Wears

/-- A process with a guard keeps one, and the two are related. -/
def ProcessState.GuardStep (S : StackGuard → StackGuard → Prop) (s t : ProcessState) : Prop :=
  ∀ g, s.scene.guard = some g → ∃ g', t.scene.guard = some g' ∧ S g g'

namespace ProcessState

variable {A B C : StackGuard → StackGuard → Prop} {s m t : ProcessState}

lemma StackStep.guardStep (h : StackStep (fun g g' => A g.guard g'.guard) s t) :
    GuardStep A s t := by
  intro g hg
  obtain ⟨g', hshows, hA⟩ := h { guard := g, pages := s.scene.pages } ⟨hg, rfl⟩
  exact ⟨g'.guard, hshows.1, hA⟩

/-- Steps are composed as their relations are. -/
lemma GuardStep.comp (hsm : GuardStep A s m) (hmt : GuardStep B m t)
    (hC : ∀ {g m g'}, A g m → B m g' → C g g') : GuardStep C s t := by
  intro g hg
  obtain ⟨gm, hgm, hA⟩ := hsm g hg
  obtain ⟨g', hg', hB⟩ := hmt gm hgm
  exact ⟨g', hg', hC hA hB⟩

lemma GuardStep.of_guards {g g' : StackGuard} (hs : s.scene.guard = some g)
    (ht : t.scene.guard = some g') (h : A g g') : GuardStep A s t := by
  intro g₁ hg₁
  rw [hs, Option.some.injEq] at hg₁
  exact ⟨g', ht, hg₁ ▸ h⟩

lemma GuardStep.mono (h : GuardStep A s t) (hAB : ∀ {g g'}, A g g' → B g g') :
    GuardStep B s t := by
  intro g hg
  obtain ⟨g', hg', hA⟩ := h g hg
  exact ⟨g', hg', hAB hA⟩

/-- The guard of the process only wears. -/
def Worn : ProcessState → ProcessState → Prop :=
  StackStep fun g g' => g.guard.WearsTo g'.guard

lemma Worn.guardStep (h : Worn s t) : GuardStep StackGuard.WearsTo s t :=
  StackStep.guardStep h

lemma allowsHandling_worn : TrapM.AllowsHandling fun x => x.Within Worn Worn :=
  GuardedStack.wears_evolves.allowsHandling.within

end ProcessState

/-! ## Classification -/

namespace Classifier

open ProcessState

variable {offer : TrapM Bool} {s t : ProcessState}

/-- The stack-guard rule wears the guard as far as its answer says. -/
private lemma stackGuard_wears (c : Classifier) (i : Trap) (s : ProcessState)
    {cl : Classification} (hanswer : ((c.stackGuard i).run s.scene).1 = some cl) :
    GuardStep cl.rule.Wears s { s with scene := ((c.stackGuard i).run s.scene).2 } := by
  have houtcome := c.stackGuard_outcome i s.scene
  generalize (c.stackGuard i).run s.scene = out at houtcome hanswer ⊢
  obtain ⟨r, scene⟩ := out
  cases houtcome with
  | passed => simp at hanswer
  | native fault _ _ hshows =>
    obtain rfl := Option.some.inj hanswer
    exact .of_guards fault.guarded hshows.1
      (.openYellow (by decide) { guard := _, pages := s.scene.pages })
  | lent fault _ _ _ harmed holder hshows =>
    obtain rfl := Option.some.inj hanswer
    exact .of_guards fault.guarded hshows.1
      (.lendReservedTo (s := { guard := _, pages := s.scene.pages }) harmed holder.address)
  | overflow fault _ _ hshows =>
    obtain ⟨stub, -, hredirect⟩ := Option.bind_eq_some_iff.mp hanswer
    obtain rfl := Option.some.inj hredirect
    exact .of_guards fault.guarded hshows.1
      (.openYellow (by simp) { guard := _, pages := s.scene.pages })
  | red fault _ hshows =>
    obtain rfl := Option.some.inj hanswer
    exact .of_guards fault.guarded hshows.1
      (.of_reach rfl (GuardedStack.wears_evolves.openRed { guard := _, pages := s.scene.pages }))

/-- A stage wears the guard, and as far as its answer says if it has one. -/
private lemma attempt_wears (c : Classifier) (i : Trap)
    (hoffer : offer.Within Worn Worn) (stage : Stage) {r : Option Classification}
    (hrun : (c.attempt offer i stage).run s = .ok r t) :
    GuardStep StackGuard.WearsTo s t ∧ ∀ cl, r = some cl → GuardStep cl.rule.Wears s t := by
  have hworn : GuardStep StackGuard.WearsTo s t := by
    have hstage := attempt_has allowsHandling_worn.toAllowsRules c i hoffer stage s
    rw [hrun] at hstage
    exact Worn.guardStep hstage
  refine ⟨hworn, fun cl hcl => ?_⟩
  by_cases hstage : stage = .stackGuard
  · subst hstage
    have hscene : EStateM.Result.ok ((c.stackGuard i).run s.scene).1
        { s with scene := ((c.stackGuard i).run s.scene).2 } = .ok r t := hrun
    rw [EStateM.Result.ok.injEq] at hscene
    rw [← hscene.2]
    exact c.stackGuard_wears i s (hscene.1.trans hcl)
  · have hrule := (c.returns_attempt i offer stage s r t hrun cl hcl).2
    exact hworn.mono (.of_reach (Stage.reach_of_rules hstage _ hrule))

/-- Classification wears the guard as far as its answer says. -/
lemma classify_wears (c : Classifier) (i : Trap) (hoffer : offer.Within Worn Worn)
    {cl : Classification} (hrun : (c.classify offer i).run s = .ok cl t) :
    GuardStep cl.rule.Wears s t := by
  have hrefl : ∀ s, GuardStep StackGuard.WearsTo s s := fun s g hg => ⟨g, hg, .refl g⟩
  cases hstages : (Stage.order.findSomeM? (c.attempt offer i)).run s with
  | error e m =>
    unfold classify at hrun
    rw [TrapM.run_bind_of_error hstages] at hrun
    simp at hrun
  | ok found m =>
    -- what the stages led to: an answer wears the guard by its rule
    have hled : GuardStep StackGuard.WearsTo s m ∧
        ∀ cl, found = some cl → GuardStep cl.rule.Wears s m :=
      TrapM.findSomeM?_leads
        (L := fun found s t => GuardStep StackGuard.WearsTo s t ∧
          ∀ cl : Classification, found = some cl → GuardStep cl.rule.Wears s t)
        (fun s => ⟨hrefl s, by simp⟩)
        (fun hsm hmt => ⟨hsm.1.comp hmt.1 .trans, fun cl hcl => hsm.1.comp (hmt.2 cl hcl) .after⟩)
        (fun stage _ _ _ hrun => c.attempt_wears i hoffer stage hrun) Stage.order hstages
    have hfound : GuardStep (found.getD unrecognized).rule.Wears s m := by
      cases found with
      | none => exact hled.1.mono (.of_reach rfl)
      | some cl => exact hled.2 cl rfl
    unfold classify at hrun
    rw [TrapM.run_bind_of_ok hstages] at hrun
    -- printing the classification leaves the guard alone
    obtain ⟨rfl, hguard⟩ : found.getD unrecognized = cl ∧ t.scene.guard = m.scene.guard := by
      dsimp only at hrun
      split at hrun
      · rw [TrapM.run_get_bind, TrapM.run_bind_of_ok (TrapM.run_say _ _), EStateM.run_pure,
          EStateM.Result.ok.injEq] at hrun
        exact ⟨hrun.1, hrun.2 ▸ rfl⟩
      · rw [EStateM.run_pure, EStateM.Result.ok.injEq] at hrun
        exact ⟨hrun.1, hrun.2 ▸ rfl⟩
    intro g hg
    rw [hguard]
    exact hfound g hg

end Classifier

/-! ## Runs -/

/-- The verdict that a call arrives at, unless it is cut short.  Handlers that are nested in the
call classify nothing. -/
def StackMove.verdict (s : ProcessState) : StackMove → Option Classification
  | .elsewhere _ => none
  | .classify sys room i =>
    (sys.classifier.classify (dispatch sys (services sys room) i.info i.raw) i).returned s
  | .handle call => call.verdict.returned s
  | .rearm _ => none

/-- The verdicts that the calls of a run arrive at, in their order. -/
def StackMove.verdicts (s : ProcessState) : List StackMove → List Classification
  | [] => []
  | move :: moves => (move.verdict s).toList ++ verdicts (move.step s) moves

/-- The rules that the calls of a run arrive at, in their order. -/
def StackMove.rules (s : ProcessState) (moves : List StackMove) : List TrapRule :=
  (verdicts s moves).map (·.rule)

namespace SignalCall

open ProcessState

variable {call : SignalCall} {s : ProcessState} {cl : Classification}

/-- Finding a verdict wears the guard as far as the verdict says. -/
lemma verdict_wears {m : ProcessState} (hrun : call.verdict.run s = .ok cl m) :
    GuardStep cl.rule.Wears s m := by
  cases hmark : (s.os.mark.enter call.sp).1 with
  | true =>
    rw [verdict_run_nested hmark, EStateM.Result.ok.injEq] at hrun
    obtain ⟨rfl, rfl⟩ := hrun
    exact fun g hg => ⟨g, hg, .of_reach rfl (.refl g)⟩
  | false =>
    rw [verdict_run hmark] at hrun
    have hoffer : (call.offer s.thread).Within Worn Worn :=
      dispatch_has allowsHandling_worn.toAllowsForeign
        (services_have allowsHandling_worn call.sys call.room) call.sys _ call.raw
    have hclassified := call.sys.classifier.classify_wears (call.input s.thread) hoffer hrun
    exact fun g hg => hclassified g hg

/-- A call ends where concluding by its verdict ends. -/
lemma stateAfter_of_verdict {m : ProcessState} (hrun : call.verdict.run s = .ok cl m) :
    call.run.stateAfter s =
      (conclude call.sys call.below call.info call.raw
        (registersAt call.raw call.context (s.os.mark.enter call.sp).1 m) call.abort
        (s.os.mark.enter call.sp).1 s.thread cl).stateAfter m := by
  unfold SignalCall.verdict at hrun
  unfold TrapM.stateAfter SignalCall.run
  rw [handle_run, hrun]

/-- Handling a signal wears the guard as far as its verdict says. -/
lemma run_wears (hverdict : call.verdict.returned s = some cl) :
    GuardStep cl.rule.Wears s (call.run.stateAfter s) := by
  obtain ⟨m, hrun⟩ : ∃ m, call.verdict.run s = .ok cl m :=
    ⟨_, TrapM.returned_eq_some_iff.mp hverdict⟩
  have hconclude := conclude_has allowsHandling_worn
    (services_have allowsHandling_worn call.sys call.room) call.sys call.info call.raw
    (registersAt call.raw call.context (s.os.mark.enter call.sp).1 m) call.abort
    (s.os.mark.enter call.sp).1 s.thread cl
  rw [stateAfter_of_verdict hrun]
  exact (verdict_wears hrun).comp (Worn.guardStep (hconclude.stateAfter m)) .before

end SignalCall

namespace StackMove

open ProcessState

variable {s t : ProcessState} {g : StackGuard} {moves : List StackMove}

lemma run_append (s : ProcessState) (before after : List StackMove) :
    run s (before ++ after) = run (run s before) after :=
  List.foldl_append

/-- Whatever happens but arming the zones again only wears the guard. -/
lemma step_worn (s : ProcessState) {move : StackMove} (hmove : ∀ sp, move ≠ .rearm sp) :
    GuardStep StackGuard.WearsTo s (move.step s) :=
  Worn.guardStep (step_evolves GuardedStack.wears_evolves s hmove)

/-- Without arming them again, zones are only opened along a run. -/
lemma run_worn (hmoves : ∀ move ∈ moves, ∀ sp, move ≠ .rearm sp) :
    GuardStep StackGuard.WearsTo s (run s moves) := by
  induction moves generalizing s with
  | nil => exact fun g hg => ⟨g, hg, .refl g⟩
  | cons move moves ih =>
    have hrest := ih (s := move.step s) fun m hm => hmoves m (List.mem_cons_of_mem _ hm)
    exact (step_worn s (hmoves move List.mem_cons_self)).comp hrest .trans

/-- A call wears the guard as far as its verdict says. -/
lemma step_wears {move : StackMove} {cl : Classification} (hverdict : move.verdict s = some cl) :
    GuardStep cl.rule.Wears s (move.step s) := by
  cases move with
  | elsewhere world => simp [verdict] at hverdict
  | classify sys room i =>
    have hoffer := dispatch_has allowsHandling_worn.toAllowsForeign
      (services_have allowsHandling_worn sys room) sys i.info i.raw
    exact sys.classifier.classify_wears i hoffer (TrapM.returned_eq_some_iff.mp hverdict)
  | handle call => exact SignalCall.run_wears hverdict
  | rearm sp => simp [verdict] at hverdict

lemma rules_cons_of_none {move : StackMove} (hverdict : move.verdict s = none) :
    rules s (move :: moves) = rules (move.step s) moves := by
  unfold rules
  rw [verdicts, hverdict]
  rfl

lemma rules_cons_of_some {move : StackMove} {cl : Classification}
    (hverdict : move.verdict s = some cl) :
    rules s (move :: moves) = cl.rule :: rules (move.step s) moves := by
  unfold rules
  rw [verdicts, hverdict]
  rfl

/-- A guard that has worn does not lend its reserved zone until it is armed again. -/
lemma reservedStack_notMem_rules (hguard : s.scene.guard = some g) (hworn : 2 ≤ g.state.depth)
    (hmoves : ∀ move ∈ moves, ∀ sp, move ≠ .rearm sp) : .reservedStack ∉ rules s moves := by
  induction moves generalizing s g with
  | nil => exact List.not_mem_nil
  | cons move moves ih =>
    obtain ⟨g', hguard', hstep⟩ := step_worn s (hmoves move List.mem_cons_self) g hguard
    have hrest := ih hguard' (Nat.le_trans hworn hstep.depth)
      fun m hm => hmoves m (List.mem_cons_of_mem _ hm)
    cases hverdict : move.verdict s with
    | none => rwa [rules_cons_of_none hverdict]
    | some cl =>
      obtain ⟨_, -, hwears⟩ := step_wears hverdict g hguard
      -- the reserved zone would have been lent by a guard that has not worn
      rw [rules_cons_of_some hverdict, List.mem_cons, not_or]
      refine ⟨fun hrule => ?_, hrest⟩
      have hwhole := hwears.whole hrule.symm
      omega

/-- Once a rule has opened a zone, the reserved zone is not lent until the guard is armed again. -/
lemma rules_pairwise (hguard : s.scene.guard = some g)
    (hmoves : ∀ move ∈ moves, ∀ sp, move ≠ .rearm sp) :
    (rules s moves).Pairwise fun earlier later => 2 ≤ earlier.reach → later ≠ .reservedStack := by
  induction moves generalizing s g with
  | nil => exact List.Pairwise.nil
  | cons move moves ih =>
    obtain ⟨g', hguard', -⟩ := step_worn s (hmoves move List.mem_cons_self) g hguard
    have hrest := fun m hm => hmoves m (List.mem_cons_of_mem move hm)
    have hpairwise := ih hguard' hrest
    cases hverdict : move.verdict s with
    | none => rwa [rules_cons_of_none hverdict]
    | some cl =>
      rw [rules_cons_of_some hverdict, List.pairwise_cons]
      refine ⟨fun later hlater hreach heq => ?_, hpairwise⟩
      obtain ⟨g'', hguard'', hwears⟩ := step_wears hverdict g hguard
      exact reservedStack_notMem_rules hguard'' (Nat.le_trans hreach hwears.reached) hrest
        (heq ▸ hlater)

/-- What excludes itself later on occurs at most once. -/
private lemma count_le_one {rule : TrapRule} {rules : List TrapRule}
    (h : rules.Pairwise fun earlier later => earlier = rule → later ≠ rule) :
    rules.count rule ≤ 1 := by
  induction rules with
  | nil => exact Nat.zero_le _
  | cons first rules ih =>
    rw [List.pairwise_cons] at h
    by_cases hfirst : first = rule
    · have hrest : rules.count rule = 0 :=
        List.count_eq_zero_of_not_mem fun hmem => h.1 rule hmem hfirst rfl
      have hcount : (first :: rules).count rule = 1 := by
        rw [hfirst, List.count_cons_self, hrest]
      exact Nat.le_of_eq hcount
    · rw [List.count_cons_of_ne hfirst]
      exact ih h.2

end StackMove

/-! ## As good as new -/

/-- The process with a new guard over the same zones, which has just been armed. -/
def ProcessState.freshlyArmed (s : ProcessState) (g : StackGuard) : ProcessState :=
  ProcessState.mapStack (·.armAll)
    (s := { s with scene :=
      { s.scene with guard := some { layout := g.layout, mode := g.mode } } })

namespace StackMove

open ProcessState

variable {s t : ProcessState}

/-- An operation on the guarded stack, the visible effect of which is one on what is visible of the
guard, keeps processes alike. -/
lemma mapStack_visible {α : Type} {f : GuardedStack → α × GuardedStack}
    (F : StackGuard → StackGuard) (hf : ∀ g, (f g).2.guard.visible = F g.guard.visible)
    (s : ProcessState) :
    (s.mapStack f).visible =
      { s.visible with scene :=
        { s.visible.scene with guard := s.visible.scene.guard.map F } } :=
  congrArg (fun scene => { s.visible with scene }) (s.scene.visible_mapGuard F hf)

lemma visible_rearmed (g : StackGuard) (sp : Word) :
    (g.rearmed sp).visible = g.visible.rearmed sp := by
  unfold StackGuard.rearmed
  have hopened : g.visible.isOpened = g.isOpened := rfl
  have hlayout : g.visible.layout = g.layout := rfl
  rw [hopened, hlayout]
  split <;> rfl

/-- Processes that look alike arrive at the same verdicts, and look alike afterwards. -/
lemma step_visible (hst : s.visible = t.visible) (move : StackMove) :
    (move.step s).visible = (move.step t).visible ∧ move.verdict s = move.verdict t := by
  have hallows := TrapM.allowsHandling_blind
  cases move with
  | elsewhere world =>
    refine ⟨?_, rfl⟩
    have hwithin : ∀ s : ProcessState, (s.within world).visible =
        { world.visible with scene :=
          { world.visible.scene with guard := s.visible.scene.guard } } := fun _ => rfl
    show (s.within world).visible = (t.within world).visible
    rw [hwithin, hwithin, hst]
  | classify sys room i =>
    have hoffer := dispatch_has hallows.toAllowsForeign (services_have hallows sys room) sys
      i.info i.raw
    have hclassify := sys.classifier.classify_has hallows.toAllowsRules i hoffer
    exact hclassify.ends hst
  | handle call =>
    have hservices := services_have hallows call.sys call.room
    have hrun : call.run.Blind :=
      handle_has hallows hservices call.sys call.sp call.info call.raw call.context call.abort
    have hverdict : call.verdict.Blind :=
      verdict_has hallows.toAllowsConclusion hservices call.sys call.sp call.info call.raw
        call.context
    exact ⟨(hrun.ends hst).1, (hverdict.ends hst).2⟩
  | rearm sp =>
    refine ⟨?_, rfl⟩
    have hrearm := mapStack_visible (f := (·.rearm sp)) (·.rearmed sp) fun g => by
      rw [g.rearm_guard, visible_rearmed]
    show (s.mapStack (·.rearm sp)).visible = (t.mapStack (·.rearm sp)).visible
    rw [hrearm, hrearm, hst]

lemma run_visible (hst : s.visible = t.visible) (moves : List StackMove) :
    (run s moves).visible = (run t moves).visible ∧ verdicts s moves = verdicts t moves := by
  induction moves generalizing s t with
  | nil => exact ⟨hst, rfl⟩
  | cons move moves ih =>
    obtain ⟨hstep, hverdict⟩ := step_visible hst move
    obtain ⟨hrun, hverdicts⟩ := ih hstep
    refine ⟨hrun, ?_⟩
    rw [verdicts, verdicts, hverdict, hverdicts]

end StackMove

/-- The zones of the guard can be armed again once the stack has unwound, which makes it as good as
new; before, nothing but a warning comes of the attempt. -/
structure ProcessState.Recoverable (s : ProcessState) (g : StackGuard) : Prop where
  accepts : ∀ sp, g.layout.reservedTop < sp → (s.scene.mapGuard (·.rearm sp)).1 = some true
  enabled : ∀ sp, g.layout.reservedTop < sp →
    (s.mapStack (·.rearm sp)).scene.guard = some { g with state := .enabled, lentTo := 0 }
  asNew : ∀ sp, g.layout.reservedTop < sp → ∀ later,
    StackMove.verdicts (s.mapStack (·.rearm sp)) later =
        StackMove.verdicts (s.freshlyArmed g) later ∧
      (StackMove.run (s.mapStack (·.rearm sp)) later).visible =
        (StackMove.run (s.freshlyArmed g) later).visible
  refuses : ∀ sp, sp ≤ g.layout.reservedTop → (s.scene.mapGuard (·.rearm sp)).1 = some false
  unchanged : ∀ sp, sp ≤ g.layout.reservedTop → ∃ console,
    s.mapStack (·.rearm sp) = { s with scene := { s.scene with console } }

namespace ProcessState

variable {s : ProcessState} {g : StackGuard}

lemma mapGuard_answer {α : Type} (hguard : s.scene.guard = some g)
    (f : GuardedStack → α × GuardedStack) :
    (s.scene.mapGuard f).1 = some (f { guard := g, pages := s.scene.pages }).1 := by
  unfold Scene.mapGuard
  rw [hguard]

/-- A guard whose zones were opened is armed again as if it were new, apart from what is never
looked at. -/
private lemma visible_freshlyArmed (hguard : s.scene.guard = some g) {sp : Word}
    (hrearmed : g.rearmed sp = { g with state := .enabled, lentTo := 0 }) :
    (s.mapStack (·.rearm sp)).visible = (s.freshlyArmed g).visible := by
  have hrearm := StackMove.mapStack_visible (f := (·.rearm sp)) (·.rearmed sp) fun g => by
    rw [g.rearm_guard, StackMove.visible_rearmed]
  have harm := StackMove.mapStack_visible (f := (·.armAll)) (fun g => { g with state := .enabled })
    fun g => by
      rw [g.armAll_guard]
      rfl
  have hafter : s.visible.scene.guard.map (·.rearmed sp) =
      some (StackGuard.visible { g with state := .enabled, lentTo := 0 }) := by
    show (s.scene.guard.map (·.visible)).map (·.rearmed sp) = _
    rw [hguard, ← hrearmed, StackMove.visible_rearmed]
    rfl
  unfold freshlyArmed
  rw [hrearm, harm, hafter]
  rfl

/-- An attempt to arm the zones too early prints a warning. -/
private lemma mapGuard_rearm_of_inside (hguard : s.scene.guard = some g)
    (hopened : g.isOpened = true) {sp : Word} (hsp : sp ≤ g.layout.reservedTop) :
    ∃ console, s.scene.mapGuard (·.rearm sp) = (some false, { s.scene with console }) := by
  have hinside := GuardedStack.rearm_of_inside { guard := g, pages := s.scene.pages } hopened hsp
  unfold Scene.mapGuard
  rw [hguard]
  dsimp only
  rw [hinside, ← hguard]
  exact ⟨_, rfl⟩

/-- Whatever an overflow has opened is recoverable. -/
lemma recoverable (hguard : s.scene.guard = some g) (hopened : g.isOpened = true) :
    s.Recoverable g where
  accepts sp hsp := by
    have hunwound :=
      GuardedStack.rearm_of_unwound { guard := g, pages := s.scene.pages } hopened hsp
    rw [mapGuard_answer hguard, hunwound.1]
  enabled sp hsp := by
    have hunwound :=
      GuardedStack.rearm_of_unwound { guard := g, pages := s.scene.pages } hopened hsp
    rw [(shows_mapStack hguard (·.rearm sp)).1, hunwound.2]
  asNew sp hsp later := by
    have hrearmed : g.rearmed sp = { g with state := .enabled, lentTo := 0 } :=
      if_pos ⟨hopened, hsp⟩
    have hvisible := StackMove.run_visible (visible_freshlyArmed hguard hrearmed) later
    exact ⟨hvisible.2, hvisible.1⟩
  refuses sp hsp := by
    obtain ⟨console, hinside⟩ := mapGuard_rearm_of_inside hguard hopened hsp
    rw [hinside]
  unchanged sp hsp := by
    obtain ⟨console, hinside⟩ := mapGuard_rearm_of_inside hguard hopened hsp
    refine ⟨console, ?_⟩
    unfold mapStack
    rw [hinside]

end ProcessState

/-! ## Episodes -/

/-- From when a guard is armed and until it is armed again, whatever happens: its zones are only
opened, further and further; at most one call arrives at lending the reserved zone, and none does
after one that arrived at an overflow.  Whatever was opened can be armed again, and the guard is
then as good as new. -/
theorem overflow_episode {s : ProcessState} {g : StackGuard} (hguard : s.scene.guard = some g)
    (harmed : g.state = .enabled) {moves : List StackMove}
    (hmoves : ∀ move ∈ moves, ∀ sp, move ≠ .rearm sp) :
    (∀ before after, moves = before ++ after → ∃ m g',
      (StackMove.run s before).scene.guard = some m ∧ g.WearsTo m ∧
      (StackMove.run s moves).scene.guard = some g' ∧ m.WearsTo g') ∧
    (StackMove.rules s moves).count .reservedStack ≤ 1 ∧
    (StackMove.rules s moves).Pairwise (fun earlier later =>
      earlier = .stackOverflow ∨ earlier = .nativeStackOverflow → later ≠ .reservedStack) ∧
    ∀ g', (StackMove.run s moves).scene.guard = some g' → g'.state ≠ .enabled →
      (StackMove.run s moves).Recoverable g' := by
  have hpairwise := StackMove.rules_pairwise hguard hmoves
  refine ⟨fun before after hsplit => ?_, ?_, ?_, fun g' hguard' hopened => ?_⟩
  · -- up to any point of the run the guard wears, and from there on it wears on
    rw [hsplit] at hmoves ⊢
    obtain ⟨m, hm, hbefore⟩ := StackMove.run_worn
      (fun move hmem => hmoves move (List.mem_append_left after hmem)) g hguard
    obtain ⟨g', hg', hafter⟩ := StackMove.run_worn
      (fun move hmem => hmoves move (List.mem_append_right before hmem)) m hm
    rw [StackMove.run_append]
    exact ⟨m, g', hm, hbefore, hg', hafter⟩
  · -- lending the reserved zone opens it, so it is among what rules out lending it
    refine StackMove.count_le_one (hpairwise.imp fun hlater hrule => hlater ?_)
    rw [hrule]
    exact Nat.le_refl _
  · refine hpairwise.imp fun hlater hrule => hlater ?_
    rcases hrule with rfl | rfl <;> decide
  · obtain ⟨g'', hguard'', hworn⟩ := StackMove.run_worn hmoves g hguard
    have hsame := hguard''.symm.trans hguard'
    rw [Option.some.injEq] at hsame
    have hdepth := hworn.depth
    rw [harmed, hsame] at hdepth
    exact ProcessState.recoverable hguard' (StackGuard.isOpened_of_depth hdepth hopened)

/-- The same fault twice is first lent the reserved zone and then an overflow, and once the stack
has unwound it is lent the zone again. -/
theorem overflow_recovered :
    StackMove.rules (ProcessState.unarmedThread.mapStack (·.armAll))
      [.handle .inReserve, .handle .inReserve] = [.reservedStack, .stackOverflow] ∧
    StackMove.verdicts
      ((StackMove.run (ProcessState.unarmedThread.mapStack (·.armAll))
        [.handle .inReserve, .handle .inReserve]).mapStack (·.rearm 0x1000008000))
      [.handle .inReserve] =
        [{ rule := .reservedStack, disposition := .redirect 0x10000040 }] := by
  have hguard : (ProcessState.unarmedThread.mapStack (·.armAll)).scene.guard = some _ := rfl
  have hguard' : (StackMove.run (ProcessState.unarmedThread.mapStack (·.armAll))
      [.handle .inReserve, .handle .inReserve]).scene.guard = some _ := rfl
  have hmoves : ∀ move ∈ [StackMove.handle .inReserve, .handle .inReserve],
      ∀ sp, move ≠ .rearm sp := by
    intro move hmem sp
    simp only [List.mem_cons, List.not_mem_nil, or_false, or_self] at hmem
    rw [hmem]
    exact nofun
  have hrecoverable := (overflow_episode hguard rfl hmoves).2.2.2 _ hguard' (by decide)
  refine ⟨rfl, ?_⟩
  rw [(hrecoverable.asNew 0x1000008000 (by decide) _).1]
  rfl

end ManagedFaults
