import ManagedFaults.Proofs.Handler.Priority
import ManagedFaults.Proofs.Signal.Steps

/-!
# Undoing an installation

An installation that fails undoes its steps, the last one first.  At any time during an installation
the steps taken so far lead back to the start: undone in that order they restore the actions, and
the entries that are kept for them are the only ones that are new (`Undoable`).  So a failed
installation changes neither the actions nor the registry (`failed_install_restores`).
-/

namespace ManagedFaults

/-! ## Steps that lead back -/

/-- The actions once a step is undone. -/
def Replaced.restore (action : Int32 → SignalAction) (step : Replaced) : Int32 → SignalAction :=
  fun n => if n = step.signo then step.before else action n

/-- Whether an entry is one of those that the process had in state `s`. -/
def ProcessState.had (s : ProcessState) (e : RegisteredHandler ChainedHandler) : Bool :=
  decide (e.handle ∈ s.registry.entries.map (·.handle))

/-- The steps, the last one first, lead from state `u` back to state `s`: they restore the actions,
and the new entries of the registry are those that are kept for them. -/
structure Undoable (s : ProcessState) (steps : List Replaced) (u : ProcessState) : Prop where
  refusal : u.actions.refusal = s.actions.refusal
  stored : u.actions.Stored
  accepted : ∀ step ∈ steps,
    s.actions.refusal step.signo = none ∧ step.before.mask.stored = step.before.mask
  action : steps.foldl Replaced.restore u.actions.action = s.actions.action
  entries : u.registry.entries.filter s.had = s.registry.entries
  kept : ((u.registry.entries.filter fun e => !s.had e).map (·.handle)).Perm
    (steps.filterMap (·.handle))
  quiet : ∀ e ∈ u.registry.entries, s.had e = false → ∃ slot, e.handler = .previous slot
  lock : u.lock = s.lock
  free : ∀ step ∈ steps, step.handle.isSome → s.lock = {}

namespace Undoable

variable {s u : ProcessState} {steps : List Replaced}

/-- Nothing has to be undone at the start. -/
lemma start (h : s.actions.Stored) : Undoable s [] s where
  refusal := rfl
  stored := h
  accepted := by simp
  action := rfl
  entries := by
    refine List.filter_eq_self.mpr fun e he => ?_
    exact decide_eq_true (List.mem_map.mpr ⟨e, he, rfl⟩)
  kept := by
    have hnone : (s.registry.entries.filter fun e => !s.had e) = [] := by
      refine List.filter_eq_nil_iff.mpr fun e he => ?_
      have hhad : s.had e = true := decide_eq_true (List.mem_map.mpr ⟨e, he, rfl⟩)
      simp [hhad]
    rw [hnone]
    exact .refl _
  quiet e he hnew := by
    have hhad : s.had e = true := decide_eq_true (List.mem_map.mpr ⟨e, he, rfl⟩)
    simp [hhad] at hnew
  lock := rfl
  free := by simp

/-- Once all steps are undone, actions and registry are as they were. -/
lemma finish (h : Undoable s [] u) :
    u.actions = s.actions ∧ u.registry.entries = s.registry.entries := by
  have hall : ∀ e ∈ u.registry.entries, s.had e = true := by
    have hnone : (u.registry.entries.filter fun e => !s.had e) = [] :=
      List.map_eq_nil_iff.mp h.kept.eq_nil
    intro e he
    have hkept := List.filter_eq_nil_iff.mp hnone e he
    simpa using hkept
  refine ⟨?_, ?_⟩
  · have haction : u.actions.action = s.actions.action := h.action
    show ActionTable.mk u.actions.action u.actions.refusal = s.actions
    rw [haction, h.refusal]
  · rw [← h.entries]
    exact (List.filter_eq_self.mpr hall).symm

/-- What an installation does besides taking steps can be left out. -/
lemma congr {v : ProcessState} (h : Undoable s steps u) (hactions : v.actions = u.actions)
    (hregistry : v.registry = u.registry) (hlock : v.lock = u.lock) : Undoable s steps v where
  refusal := hactions ▸ h.refusal
  stored := hactions ▸ h.stored
  accepted := h.accepted
  action := hactions ▸ h.action
  entries := hregistry ▸ h.entries
  kept := hregistry ▸ h.kept
  quiet := hregistry ▸ h.quiet
  lock := hlock.trans h.lock
  free := h.free

/-! ## Taking a step -/

/-- Replacing an action is a step that leads back. -/
lemma replaced (h : Undoable s steps u) {signo : Int32} (haccepted : u.actions.refusal signo = none)
    (a : SignalAction) :
    Undoable s ({ signo, before := u.actions.action signo } :: steps)
      { u with actions := u.actions.put signo a } where
  refusal := h.refusal
  stored := h.stored.put signo a
  accepted := by
    intro step hstep
    rcases List.mem_cons.mp hstep with rfl | hstep
    · exact ⟨h.refusal ▸ haccepted, h.stored signo⟩
    · exact h.accepted step hstep
  action := by
    have hback : Replaced.restore (u.actions.put signo a).action
        { signo, before := u.actions.action signo } = u.actions.action := by
      funext n
      unfold Replaced.restore ActionTable.put
      dsimp only
      split
      · next heq => rw [heq]
      · rfl
    rw [List.foldl_cons, hback]
    exact h.action
  entries := h.entries
  kept := h.kept
  quiet := h.quiet
  lock := h.lock
  free := by
    intro step hstep hsome
    rcases List.mem_cons.mp hstep with rfl | hstep
    · simp at hsome
    · exact h.free step hstep hsome

/-- Keeping the action that was replaced last as a new entry makes the entry part of that step. -/
lemma kept_as {step : Replaced} (h : Undoable s (step :: steps) u) (hnone : step.handle = none)
    (hfree : u.lock = {}) {e : RegisteredHandler ChainedHandler} (hnew : s.had e = false)
    {slot : Nat} (hquiet : e.handler = .previous slot) :
    Undoable s ({ step with handle := some e.handle } :: steps)
      (u.changed (u.registry.insert e)) where
  refusal := h.refusal
  stored := h.stored
  accepted := by
    intro step' hstep
    rcases List.mem_cons.mp hstep with rfl | hstep
    · exact h.accepted step List.mem_cons_self
    · exact h.accepted step' (List.mem_cons_of_mem _ hstep)
  action := h.action
  entries := by
    have hfilter : (u.registry.insert e).entries.filter s.had =
        u.registry.entries.filter s.had := by
      show (_ ++ e :: _).filter s.had = _
      rw [List.filter_append, List.filter_cons_of_neg (by simp [hnew]), ← List.filter_append,
        List.takeWhile_append_dropWhile]
    exact hfilter.trans h.entries
  kept := by
    -- the registry is in the order of priorities and the steps are in that of time
    have hperm : (u.registry.insert e).entries.Perm (e :: u.registry.entries) := by
      refine List.perm_middle.trans ?_
      rw [List.takeWhile_append_dropWhile]
    have hinserted := (hperm.filter fun f => !s.had f).map (·.handle)
    rw [List.filter_cons_of_pos (by simp [hnew]), List.map_cons] at hinserted
    refine hinserted.trans ?_
    have hkept := h.kept
    rw [List.filterMap_cons_none hnone] at hkept
    exact hkept.cons e.handle
  quiet := by
    intro f hf hfnew
    rcases Registry.mem_insert.mp hf with rfl | hf
    · exact ⟨slot, hquiet⟩
    · exact h.quiet f hf hfnew
  lock := hfree.symm.trans h.lock
  free := fun _ _ _ => h.lock.symm.trans hfree

/-! ## Undoing a step -/

/-- Putting back the action of the last step. -/
lemma put_back {step : Replaced} (h : Undoable s (step :: steps) u) :
    u.actions.refusal step.signo = none ∧
      steps.foldl Replaced.restore (u.actions.put step.signo step.before).action =
        s.actions.action := by
  obtain ⟨haccepted, hstored⟩ := h.accepted step List.mem_cons_self
  refine ⟨h.refusal ▸ haccepted, ?_⟩
  have hback : (u.actions.put step.signo step.before).action =
      Replaced.restore u.actions.action step := by
    funext n
    unfold ActionTable.put Replaced.restore
    rw [hstored]
  rw [hback]
  exact h.action

/-- A step without an entry is undone. -/
lemma undo_action {step : Replaced} (h : Undoable s (step :: steps) u)
    (hnone : step.handle = none) :
    Undoable s steps { u with actions := u.actions.put step.signo step.before } where
  refusal := h.refusal
  stored := h.stored.put step.signo step.before
  accepted := fun step' hstep => h.accepted step' (List.mem_cons_of_mem _ hstep)
  action := h.put_back.2
  entries := h.entries
  kept := by
    have hkept := h.kept
    rw [List.filterMap_cons_none hnone] at hkept
    exact hkept
  quiet := h.quiet
  lock := h.lock
  free := fun step' hstep => h.free step' (List.mem_cons_of_mem _ hstep)

/-- The entry of the last step is there.  It is new, as is any other with its handle, and it runs no
code when it is dropped. -/
lemma find_entry {step : Replaced} (h : Undoable s (step :: steps) u) {handle : HandlerHandle}
    (hhandle : step.handle = some handle) :
    (∀ e : RegisteredHandler ChainedHandler, e.handle = handle → s.had e = false) ∧
    ∃ e slot, u.registry.find? handle = some e ∧ e.handler = .previous slot := by
  have hmem : handle ∈ (u.registry.entries.filter fun e => !s.had e).map (·.handle) := by
    rw [h.kept.mem_iff, List.filterMap_cons_some hhandle]
    exact List.mem_cons_self
  obtain ⟨f, hf, rfl⟩ := List.mem_map.mp hmem
  obtain ⟨hfmem, hfnew⟩ := List.mem_filter.mp hf
  have hnew : ∀ e : RegisteredHandler ChainedHandler, e.handle = f.handle → s.had e = false := by
    intro e he
    have hsame : s.had e = s.had f := by
      unfold ProcessState.had
      rw [he]
    rw [hsame]
    simpa using hfnew
  refine ⟨hnew, ?_⟩
  cases hfind : u.registry.find? f.handle with
  | none => exact absurd (List.find?_eq_none.mp hfind f hfmem) (by simp)
  | some e =>
    have hehandle : (e.handle == f.handle) = true :=
      List.find?_some (p := fun e : RegisteredHandler ChainedHandler => e.handle == f.handle) hfind
    obtain ⟨slot, hslot⟩ :=
      h.quiet e (List.mem_of_find?_eq_some hfind) (hnew e (beq_iff_eq.mp hehandle))
    exact ⟨e, slot, rfl, hslot⟩

/-- A step is undone with its entry. -/
lemma undo_entry {step : Replaced} (h : Undoable s (step :: steps) u) {handle : HandlerHandle}
    (hhandle : step.handle = some handle) :
    Undoable s steps
      ({ u with actions := u.actions.put step.signo step.before }.changed
        { entries := u.registry.entries.eraseP fun e => e.handle == handle }) := by
  obtain ⟨hnew, e, -, hfind, -⟩ := h.find_entry hhandle
  -- the entry that is taken out is a new one, so that the others stay in their order
  have hehandle : (e.handle == handle) = true :=
    List.find?_some (p := fun e : RegisteredHandler ChainedHandler => e.handle == handle) hfind
  obtain ⟨out, before, after, -, hout, hsplit, herased⟩ :=
    List.exists_of_eraseP (p := fun e : RegisteredHandler ChainedHandler => e.handle == handle)
      (List.mem_of_find?_eq_some hfind) hehandle
  rw [beq_iff_eq] at hout
  have houtnew : s.had out = false := hnew out hout
  exact {
    refusal := h.refusal
    stored := h.stored.put step.signo step.before
    accepted := fun step' hstep => h.accepted step' (List.mem_cons_of_mem _ hstep)
    action := h.put_back.2
    entries := by
      show (u.registry.entries.eraseP _).filter s.had = _
      have hentries := h.entries
      rw [hsplit, List.filter_append, List.filter_cons_of_neg (by simp [houtnew])] at hentries
      rw [herased, List.filter_append]
      exact hentries
    kept := by
      show (((u.registry.entries.eraseP _).filter fun e => !s.had e).map (·.handle)).Perm _
      have hkept := h.kept
      rw [hsplit, List.filterMap_cons_some hhandle, ← hout] at hkept
      rw [herased]
      have hfront : (before ++ out :: after).Perm (out :: (before ++ after)) := List.perm_middle
      have hmiddle := (hfront.filter fun e => !s.had e).map (·.handle)
      rw [List.filter_cons_of_pos (by simp [houtnew]), List.map_cons] at hmiddle
      exact (hmiddle.symm.trans hkept).cons_inv
    quiet := fun f hf => h.quiet f (List.mem_of_mem_eraseP hf)
    lock := (h.free step List.mem_cons_self (by simp [hhandle])).symm
    free := fun step' hstep => h.free step' (List.mem_cons_of_mem _ hstep) }

/-- The last step can be undone. -/
lemma run_undo (sv : Services) {step : Replaced} (h : Undoable s (step :: steps) u) :
    ∃ v, (undo sv step).run u = .ok () v ∧ Undoable s steps v := by
  have hput := run_setAction_of_accepted h.put_back.1 step.before
  cases hhandle : step.handle with
  | none =>
    refine ⟨_, ?_, h.undo_action hhandle⟩
    unfold undo
    rw [TrapM.run_bind_of_ok hput, hhandle]
    rfl
  | some handle =>
    refine ⟨_, ?_, h.undo_entry hhandle⟩
    obtain ⟨-, e, slot, hfind, hquiet⟩ := h.find_entry hhandle
    have hfree : u.lock = {} := h.lock.trans (h.free step List.mem_cons_self (by simp [hhandle]))
    have hremovable : e.removableBy runtimeRegistrar = true := by
      unfold RegisteredHandler.removableBy
      cases e.protection <;> simp
    have hremove : u.registry.unregister handle runtimeRegistrar =
        .ok (e, { entries := u.registry.entries.eraseP fun e => e.handle == handle }) := by
      unfold Registry.unregister
      rw [hfind]
      exact if_pos hremovable
    have hrun : (Registration.remove sv handle runtimeRegistrar).run
        { u with actions := u.actions.put step.signo step.before } = _ :=
      Registration.run_remove_previous_of_ok hquiet hfree hremove
    unfold undo
    rw [TrapM.run_bind_of_ok hput, hhandle]
    dsimp only
    rw [TrapM.run_bind_of_ok hrun]
    rfl

/-- All steps can be undone, the last one first. -/
lemma run_forM_undo (sv : Services) (h : Undoable s steps u) :
    ∃ v, (steps.forM (undo sv)).run u = .ok () v ∧ Undoable s [] v := by
  induction steps generalizing u with
  | nil => exact ⟨u, rfl, h⟩
  | cons step steps ih =>
    obtain ⟨m, hfirst, hm⟩ := h.run_undo sv
    obtain ⟨v, hothers, hv⟩ := ih hm
    exact ⟨v, (TrapM.run_bind_of_ok hfirst).trans hothers, hv⟩

end Undoable

/-! ## Installing -/

section Install

variable {s u v : ProcessState} {steps : List Replaced} {sv : Services} {signal : Signal}

/-- Taking over a signal takes a step that leads back, or none. -/
private lemma TakesOver.undoable {step : Option Replaced} {result : Except TrapFailure Unit}
    (h : Undoable s steps u)
    (hfresh : ∀ e ∈ s.registry.entries, e.handle ≠ u.nextHandle)
    (htake : TakesOver u signal step result v) :
    (v.nextHandle = u.nextHandle ∨ v.nextHandle = u.nextHandle + 1) ∧
      Undoable s (step.toList ++ steps) v := by
  cases htake with
  | refused hrefused => exact ⟨.inl rfl, h.congr rfl rfl rfl⟩
  | replaced haccepted hforeign => exact ⟨.inl rfl, h.replaced haccepted entryAction⟩
  | kept haccepted hforeign hfree hnew =>
    have hready : Undoable s (u.stepOver signal none :: steps) (u.keeping signal) :=
      (h.replaced haccepted entryAction).congr rfl rfl rfl
    have hhad : s.had (u.nextEntry signal) = false := by
      refine decide_eq_false fun hmem => ?_
      obtain ⟨f, hf, hhandle⟩ := List.mem_map.mp hmem
      exact hfresh f hf hhandle
    exact ⟨.inr rfl, hready.kept_as rfl hfree hhad rfl⟩
  | clashed haccepted hforeign hfree hclash =>
    exact ⟨.inr rfl, (h.replaced haccepted entryAction).congr rfl rfl hfree.symm⟩

/-- An installation that goes on from a state that leads back, and fails, has led back. -/
private lemma installAfter_failed {signals : List Signal} (h : Undoable s steps.reverse u)
    (hfresh : ∀ k < signals.length, ∀ e ∈ s.registry.entries,
      e.handle ≠ u.nextHandle + UInt64.ofNat k)
    {failure : TrapFailure}
    (hrun : (installAfter sv steps signals).run u = .ok (.error failure) v) :
    v.actions = s.actions ∧ v.registry.entries = s.registry.entries := by
  -- each signal adds the step it took, if it took one, and uses one handle at most
  induction signals generalizing steps u with
  | nil =>
    have hrun' : EStateM.Result.ok (Except.ok ()) u = .ok (.error failure) v := hrun
    simp at hrun'
  | cons signal signals ih =>
    obtain ⟨step, taken, m, htake, hnext⟩ := takesOver_of_run_installAfter hrun
    have hfirst : ∀ e ∈ s.registry.entries, e.handle ≠ u.nextHandle := by
      intro e he
      simpa using hfresh 0 (by simp) e he
    obtain ⟨hhandle, hm⟩ := htake.undoable h hfirst
    have hsteps : (steps ++ step.toList).reverse = step.toList ++ steps.reverse := by
      cases step <;> simp
    rw [← hsteps] at hm
    rcases hnext with ⟨-, hrest⟩ | ⟨_, -, -, hundo⟩
    · refine ih hm (fun k hk e he => ?_) hrest
      have hk' : k + 1 < (signal :: signals).length := by
        rw [List.length_cons]
        omega
      rcases hhandle with hsame | hnext
      · rw [hsame]
        exact hfresh k (by omega) e he
      · have hcount : u.nextHandle + 1 + UInt64.ofNat k =
            u.nextHandle + UInt64.ofNat (k + 1) := by
          rw [UInt64.ofNat_add, UInt64.add_assoc, UInt64.add_comm 1]
          rfl
        rw [hnext, hcount]
        exact hfresh (k + 1) hk' e he
    · obtain ⟨w, hall, hw⟩ := hm.run_forM_undo sv
      have hundone : (undoAll sv (steps ++ step.toList)).run m = .ok () _ :=
        TrapM.run_bind_of_ok hall
      obtain ⟨-, rfl⟩ := EStateM.Result.ok.inj (hundone.symm.trans hundo)
      exact hw.finish

end Install

/-- An installation that fails changes neither the actions of the signals nor the entries of the
registry. -/
theorem failed_install_restores (sv : Services) {signals : List Signal} {s t : ProcessState}
    {failure : TrapFailure} (hstored : s.actions.Stored)
    (hfresh : ∀ k < signals.length, ∀ e ∈ s.registry.entries,
      e.handle ≠ s.nextHandle + UInt64.ofNat k)
    (hrun : (installEntry sv signals).run s = .ok (.error failure) t) :
    t.actions = s.actions ∧ t.registry.entries = s.registry.entries :=
  installAfter_failed (show Undoable s [].reverse s from .start hstored) hfresh hrun

/-- A process with functions of its own for two signals; the one for the bus error has been kept by
an installation before. -/
def ProcessState.withForeignActions : ProcessState :=
  { (default : ProcessState) with
    actions := (({} : ActionTable).put Signal.segv.number { handler := .foreign 0x4000 }).put
      Signal.bus.number { handler := .foreign 0x5000 }
    registry := { entries := [keptEntry .bus 0 7] } }

/-- The third step fails because the registry refuses the entry; the first two concern one
signal. -/
theorem refused_entry_restores :
    ∃ t, (installEntry .exhausted [.segv, .segv, .bus]).run .withForeignActions =
        .ok (.error .duplicateHandler) t ∧
      t.actions = ProcessState.withForeignActions.actions ∧
      t.registry.entries = [keptEntry .bus 0 7] := by
  obtain ⟨t, hrun⟩ : ∃ t, (installEntry .exhausted [.segv, .segv, .bus]).run .withForeignActions =
      .ok (.error .duplicateHandler) t := by
    have hrefused : (match (installEntry .exhausted [.segv, .segv, .bus]).run
        .withForeignActions with
        | .ok (.error .duplicateHandler) _ => true
        | _ => false) = true := by
      decide +kernel
    generalize (installEntry .exhausted [.segv, .segv, .bus]).run .withForeignActions = out
      at hrefused ⊢
    split at hrefused
    · exact ⟨_, rfl⟩
    · simp at hrefused
  have hstored : ProcessState.withForeignActions.actions.Stored :=
    (ActionTable.stored_default.put _ _).put _ _
  have hfresh : ∀ k < [Signal.segv, Signal.segv, Signal.bus].length,
      ∀ e ∈ ProcessState.withForeignActions.registry.entries,
        e.handle ≠ ProcessState.withForeignActions.nextHandle + UInt64.ofNat k := by
    intro k hk e he
    obtain rfl := List.mem_singleton.mp he
    show (7 : UInt64) ≠ 1 + UInt64.ofNat k
    have hsmall : ∀ k < 3, (7 : UInt64) ≠ 1 + UInt64.ofNat k := by decide
    exact hsmall k hk
  exact ⟨t, hrun, failed_install_restores .exhausted hstored hfresh hrun⟩

end ManagedFaults
