import ManagedFaults.Proofs.Trap.Frame
import ManagedFaults.Proofs.Trap.Justification

/-!
# Runs over a guarded stack

Handling signals changes the guarded stack of a thread by few operations only, so that a relation
that allows these holds between the stack before a call and the stack after it (`Evolves`).  A run
is any sequence of calls of the trap system, with anything that leaves the guard alone in between.
The guard tells the truth about its pages all along a run that arms it first (`truthful_of_run`).
-/

namespace ManagedFaults

/-! ## How handling changes the stack -/

/-- Relations that allow all that handling a signal does to a guarded stack. -/
structure GuardedStack.Evolves (S : GuardedStack → GuardedStack → Prop) : Prop where
  same : ∀ {g g'}, g'.guard = g.guard → g'.pages = g.pages → S g g'
  trans : ∀ {g m g'}, S g m → S m g' → S g g'
  openYellow : ∀ g, S g g.openYellow
  openRed : ∀ g, S g g.openRed
  lendReservedTo : ∀ g holder, g.guard.reservedArmed = true → S g (g.lendReservedTo holder)

/-- A process with a guarded stack keeps one, and the two are related. -/
def ProcessState.StackStep (S : GuardedStack → GuardedStack → Prop) (s t : ProcessState) : Prop :=
  ∀ g, s.scene.Shows g → ∃ g', t.scene.Shows g' ∧ S g g'

namespace ProcessState

variable {S : GuardedStack → GuardedStack → Prop}

/-- The same guard over the same pages. -/
lemma StackStep.of_same (h : GuardedStack.Evolves S) {s t : ProcessState}
    (hguard : t.scene.guard = s.scene.guard) (hpages : t.scene.pages = s.scene.pages) :
    StackStep S s t :=
  fun g hg => ⟨g, hg.congr hguard hpages, h.same rfl rfl⟩

lemma StackStep.trans (h : GuardedStack.Evolves S) {s m t : ProcessState}
    (hsm : StackStep S s m) (hmt : StackStep S m t) : StackStep S s t := by
  intro g hg
  obtain ⟨gm, hgm, hstep⟩ := hsm g hg
  obtain ⟨g', hg', hstep'⟩ := hmt gm hgm
  exact ⟨g', hg', h.trans hstep hstep'⟩

/-- An operation on the stack that the scene shows. -/
private lemma StackStep.of_shows (h : GuardedStack.Evolves S) {s : ProcessState} {t : Scene}
    {guard : StackGuard} {f : GuardedStack → GuardedStack}
    (hguard : s.scene.guard = some guard)
    (hshows : t.Shows (f { guard, pages := s.scene.pages }))
    (hf : S { guard, pages := s.scene.pages } (f { guard, pages := s.scene.pages })) :
    StackStep S s { s with scene := t } := by
  intro g hg
  refine ⟨_, hshows, h.trans (h.same ?_ hg.2) hf⟩
  have hsame := hguard.symm.trans hg.1
  rwa [Option.some.injEq] at hsame

/-- The stack-guard rule does nothing to the stack that is not allowed. -/
private lemma StackStep.stackGuard (h : GuardedStack.Evolves S) (s : ProcessState)
    (c : Classifier) (i : Trap) :
    StackStep S s { s with scene := ((c.stackGuard i).run s.scene).2 } := by
  have houtcome := c.stackGuard_outcome i s.scene
  generalize (c.stackGuard i).run s.scene = out at houtcome ⊢
  obtain ⟨r, t⟩ := out
  cases houtcome with
  | passed => exact of_same h rfl rfl
  | native fault _ _ hshows => exact of_shows h fault.guarded hshows (h.openYellow _)
  | lent fault _ _ _ armed holder hshows =>
    exact of_shows h (f := (·.lendReservedTo holder.address)) fault.guarded hshows
      (h.lendReservedTo _ _ armed)
  | overflow fault _ _ hshows => exact of_shows h fault.guarded hshows (h.openYellow _)
  | red fault _ hshows => exact of_shows h fault.guarded hshows (h.openRed _)

end ProcessState

open ProcessState in
/-- Handling a signal changes the stack only as the relation allows. -/
theorem GuardedStack.Evolves.allowsHandling {S : GuardedStack → GuardedStack → Prop}
    (h : GuardedStack.Evolves S) : Frame.AllowsHandling (StackStep S) (StackStep S) where
  refl _ := .of_same h rfl rfl
  trans hsm hmt := hsm.trans h hmt
  ends hst := hst
  trans_ends hsm hmt := hsm.trans h hmt
  mark _ _ := .of_same h rfl rfl
  offer _ _ := .of_same h rfl rfl
  say _ _ _ := .of_same h rfl rfl
  log _ _ := .of_same h rfl rfl
  spend _ _ _ := .of_same h rfl rfl
  rewrite _ _ := .of_same h rfl rfl
  locked hst := hst
  locked_ends hst := hst
  masked _ hst := hst
  masked_ends _ hst := hst
  enter _ _ _ := .of_same h rfl rfl
  ask _ _ _ := .of_same h rfl rfl
  guard s c i := .stackGuard h s c i
  count _ _ := .of_same h rfl rfl
  save _ _ := .of_same h rfl rfl
  unblock _ _ := .of_same h rfl rfl
  askUnblock _ _ := .of_same h rfl rfl
  claim _ _ := .of_same h rfl rfl
  report _ _ := .of_same h rfl rfl
  reset _ _ := .of_same h rfl rfl
  fail _ _ := .of_same h rfl rfl

/-! ## Runs -/

/-- What can happen to a stack once it is armed. -/
inductive StackMove where
  /-- The world changes around the stack: another thread state, other handlers, any settings. -/
  | elsewhere (world : ProcessState)
  /-- A trap is only classified. -/
  | classify (sys : Dispatcher) (room : Nat) (i : Trap)
  /-- A signal is handled. -/
  | handle (call : SignalCall)
  /-- The thread has unwound, and arms again what was disabled. -/
  | rearm (sp : Word)

/-- The process in another world, with the stack as it was. -/
def ProcessState.within (s world : ProcessState) : ProcessState :=
  { world with scene := { world.scene with guard := s.scene.guard, pages := s.scene.pages } }

/-- The process after an operation on its guarded stack. -/
def ProcessState.mapStack {α : Type} (s : ProcessState) (f : GuardedStack → α × GuardedStack) :
    ProcessState :=
  { s with scene := (s.scene.mapGuard f).2 }

/-- The process after a move; a call that ends its thread counts as well. -/
def StackMove.step (s : ProcessState) : StackMove → ProcessState
  | .elsewhere world => s.within world
  | .classify sys room i =>
    (sys.classifier.classify (dispatch sys (services sys room) i.info i.raw) i).stateAfter s
  | .handle call => call.run.stateAfter s
  | .rearm sp => s.mapStack (·.rearm sp)

/-- The process after some moves. -/
def StackMove.run (s : ProcessState) (moves : List StackMove) : ProcessState :=
  moves.foldl StackMove.step s

/-- An operation on the stack is one on the stack that the process shows. -/
lemma ProcessState.shows_mapStack {α : Type} {s : ProcessState} {g : StackGuard}
    (hg : s.scene.guard = some g) (f : GuardedStack → α × GuardedStack) :
    (s.mapStack f).scene.Shows (f { guard := g, pages := s.scene.pages }).2 := by
  unfold mapStack Scene.mapGuard
  rw [hg]
  exact ⟨rfl, rfl⟩

namespace StackMove

variable {S : GuardedStack → GuardedStack → Prop}

/-- Classifying and handling change the stack as any relation that evolves allows. -/
lemma step_evolves (h : GuardedStack.Evolves S) (s : ProcessState) {move : StackMove}
    (hmove : ∀ sp, move ≠ .rearm sp) : ProcessState.StackStep S s (move.step s) := by
  have hallows := h.allowsHandling.within
  cases move with
  | elsewhere world => exact .of_same h rfl rfl
  | classify sys room i =>
    have hoffer := dispatch_has hallows.toAllowsForeign (services_have hallows sys room) sys
      i.info i.raw
    exact TrapM.Within.stateAfter
      (sys.classifier.classify_has hallows.toAllowsRules i hoffer) s
  | handle call =>
    exact TrapM.Within.stateAfter
      (handle_has hallows (services_have hallows call.sys call.room) call.sys call.sp call.info
        call.raw call.context call.abort) s
  | rearm sp => exact absurd rfl (hmove sp)

end StackMove

/-! ## Telling the truth all along -/

namespace GuardedStack

variable {l : GuardZones} {m : AddressSpace}

/-- The truth about the pages evolves. -/
lemma Truthful.evolves (hfits : l.Fits m) :
    GuardedStack.Evolves fun g g' => g.Truthful l m → g'.Truthful l m where
  same hguard hpages h := h.congr hguard hpages
  trans hgm hmg h := hmg (hgm h)
  openYellow _ h := h.openYellow hfits
  openRed _ h := h.openRed hfits
  lendReservedTo _ holder harmed h := h.lendReservedTo hfits harmed holder

end GuardedStack

/-- The stack that the process shows tells the truth about the pages under it. -/
def ProcessState.ShowsTruth (l : GuardZones) (m : AddressSpace) (s : ProcessState) : Prop :=
  ∃ g, s.scene.Shows g ∧ g.Truthful l m

namespace StackMove

variable {l : GuardZones} {m : AddressSpace} {s : ProcessState}

/-- No move makes the guard lie. -/
theorem step_showsTruth (hfits : l.Fits m) (h : s.ShowsTruth l m) (move : StackMove) :
    (move.step s).ShowsTruth l m := by
  obtain ⟨g, hshows, htruthful⟩ := h
  by_cases hmove : ∃ sp, move = .rearm sp
  · -- arming again may protect pages, so it does not evolve; its own lemma applies
    obtain ⟨sp, rfl⟩ := hmove
    have htruthful' : GuardedStack.Truthful l m { guard := g.guard, pages := s.scene.pages } :=
      htruthful.congr rfl hshows.2
    exact ⟨_, ProcessState.shows_mapStack hshows.1 _, htruthful'.rearm hfits sp⟩
  · have hstep := step_evolves (GuardedStack.Truthful.evolves hfits) s
      (fun sp heq => hmove ⟨sp, heq⟩)
    obtain ⟨g', hshows', himp⟩ := hstep g hshows
    exact ⟨g', hshows', himp htruthful⟩

theorem run_showsTruth (hfits : l.Fits m) (h : s.ShowsTruth l m) (moves : List StackMove) :
    (run s moves).ShowsTruth l m := by
  induction moves generalizing s with
  | nil => exact h
  | cons move moves ih => exact ih (step_showsTruth hfits h move)

end StackMove

/-- Once a new guard over whole pages is armed, it tells the truth about its pages at every point
of every run: after any traps, with any answers of the runtime and any chained handlers, and any
attempts to arm the zones again. -/
theorem truthful_of_run {l : GuardZones} {s : ProcessState} (hfits : l.Fits s.scene.pages)
    (hwilling : s.scene.pages.Willing)
    (hnew : s.scene.guard = some { layout := l, mode := .mprotect }) (moves : List StackMove) :
    ∃ g, (StackMove.run (s.mapStack (·.armAll)) moves).scene.Shows g ∧
      g.Truthful l s.scene.pages := by
  have harmed : (s.mapStack (·.armAll)).ShowsTruth l s.scene.pages :=
    ⟨_, ProcessState.shows_mapStack hnew _, .armAll hfits hwilling⟩
  exact StackMove.run_showsTruth hfits harmed moves

/-- A thread with a stack of sixteen pages at the start of a mapped region, the guard of which is
new. -/
def ProcessState.unarmedThread : ProcessState :=
  { scene :=
      { pages := { low := 0x1000000000, high := 0x1000100000 }
        guard := some
          { layout :=
              { stackBase := 0x1000010000, stackSize := 0x10000, redSize := 0x1000
                yellowSize := 0x2000, reservedSize := 0x1000 }
            mode := .mprotect } }
    thread := some { id := 7, state := .managed } }

/-- A fault in the reserved zone while the interpreter tests the stack. -/
def SignalCall.inReserve : SignalCall :=
  { sys :=
      { classifier := { settings := {}, runtime := .interpreter 0x10000000 0x10010000 0x60000100 }
        control := .system }
    room := 1
    sp := 2
    info := Trap.inReserve.info
    raw := Trap.inReserve.raw
    context := some Trap.inReserve.context
    abort := true }

/-- After the fault the reserved zone is open, and the red and yellow zones are not. -/
theorem truthful_of_reserve_lent :
    ∃ g : GuardedStack,
      g.pages.readable 0x1000000000 = false ∧ g.pages.readable 0x1000001000 = false ∧
      g.pages.readable 0x1000003000 = true ∧ g.pages.readable 0x1000004000 = true ∧
      (StackMove.run (ProcessState.unarmedThread.mapStack (·.armAll))
        [.handle .inReserve]).scene.Shows g := by
  obtain ⟨g, hshows, htruthful⟩ := truthful_of_run (s := .unarmedThread)
    ⟨by decide, by decide, by decide, by decide, by decide, by decide⟩
    (fun _ hmem => absurd hmem List.not_mem_nil) rfl [.handle .inReserve]
  have hguard : (StackMove.run (ProcessState.unarmedThread.mapStack (·.armAll))
      [.handle .inReserve]).scene.guard = some _ := rfl
  have hsame := hshows.1.symm.trans hguard
  rw [Option.some.injEq] at hsame
  refine ⟨g, ?_, ?_, ?_, ?_, hshows⟩
  · rw [htruthful.red _ (by decide), hsame]
    rfl
  · rw [htruthful.yellow _ (by decide), hsame]
    rfl
  · rw [htruthful.reserved _ (by decide), hsame]
    rfl
  · rw [htruthful.outside _ (by decide)]
    rfl

end ManagedFaults
