import ManagedFaults.Proofs.Trap.Frame

/-!
# Nested handlers

Code that a trap handler calls runs below it on the stack.  Whatever signal such code hands to the
trap system is a nested fault, which is logged and then declined or escalated, but never
classified.  So the guard, the pages and the saved program counter stay as they are, and if the
code comes back, nothing was unblocked and nothing reported (`services_nested`).
-/

namespace ManagedFaults

/-! ## What stays as it is -/

/-- The signals that the signal controller was asked to unblock, in order. -/
def Scene.unblocked (s : Scene) : List Signal :=
  s.interactions.filterMap fun
    | .unblock signal => some signal
    | _ => none

/-- Only requests to unblock are counted. -/
lemma Scene.unblocked_append {s : Scene} {more : List Interaction}
    (h : ∀ signal, Interaction.unblock signal ∉ more) :
    Scene.unblocked { s with interactions := s.interactions ++ more } = s.unblocked := by
  have hmore : more.filterMap (fun
      | .unblock signal => some signal
      | _ => none) = ([] : List Signal) := by
    rw [List.filterMap_eq_nil_iff]
    intro i hi
    cases i <;> first | rfl | exact absurd hi (h _)
  unfold unblocked
  rw [List.filterMap_append, hmore, List.append_nil]

/-- What code that is called by a trap handler leaves as it is, however it ends. -/
structure HeldPart where
  guard : Option StackGuard
  pages : AddressSpace
  thread : Option ManagedThread
  savedPc : Word
  mark : NestingMark
  logLocked : Bool

/-- What code that is called by a trap handler leaves as it is if it comes back. -/
structure QuietPart extends HeldPart where
  latch : FatalLatch
  unblocked : List Signal
  mask : SignalSet

namespace ProcessState

/-- What an active handler relies on. -/
def held (s : ProcessState) : HeldPart :=
  { guard := s.scene.guard, pages := s.scene.pages, thread := s.thread, savedPc := s.savedPc
    mark := s.os.mark, logLocked := s.logLocked }

/-- What an active handler relies on, and all that tells of signals that were unblocked and fatal
errors that were reported. -/
def quiet (s : ProcessState) : QuietPart :=
  { s.held with
    latch := s.latch, unblocked := s.scene.unblocked, mask := s.os.mask.stored }

/-- Below an active handler, with this much room on the stack, everything it relies on is held. -/
def HoldsBelow (room : Nat) (s t : ProcessState) : Prop :=
  room < s.os.mark.recorded → t.held = s.held

/-- Below an active handler, with this much room on the stack, code has been quiet. -/
def QuietBelow (room : Nat) (s t : ProcessState) : Prop :=
  room < s.os.mark.recorded → t.quiet = s.quiet

variable {s t : ProcessState}

lemma held_of_quiet (h : t.quiet = s.quiet) : t.held = s.held :=
  congrArg QuietPart.toHeldPart h

lemma mark_of_held (h : t.held = s.held) : t.os.mark = s.os.mark :=
  congrArg HeldPart.mark h

/-- Two states look alike to a handler if they do but for the signals and latch. -/
lemma quiet_eq (hheld : t.held = s.held) (hlatch : t.latch = s.latch)
    (hunblocked : t.scene.unblocked = s.scene.unblocked)
    (hmask : t.os.mask.stored = s.os.mask.stored) : t.quiet = s.quiet := by
  unfold quiet
  rw [hheld, hlatch, hunblocked, hmask]

end ProcessState

lemma SignalSet.stored_stored (mask : SignalSet) : mask.stored.stored = mask.stored := by
  unfold stored
  simp only [Bool.and_assoc, Bool.and_self]

/-! ## The frame of nested code -/

namespace Frame

open ProcessState

variable (room : Nat)

lemma chains_holdsBelow : Frame.Chains (HoldsBelow room) (HoldsBelow room) where
  refl _ := fun _ => rfl
  trans hsm hmt := fun h => (hmt (by rwa [mark_of_held (hsm h)])).trans (hsm h)
  ends hst := hst
  trans_ends hsm hmt := fun h => (hmt (by rwa [mark_of_held (hsm h)])).trans (hsm h)

lemma chains_quietBelow : Frame.Chains (QuietBelow room) (HoldsBelow room) where
  refl _ := fun _ => rfl
  trans hsm hmt := fun h =>
    (hmt (by rwa [mark_of_held (held_of_quiet (hsm h))])).trans (hsm h)
  ends hst := fun h => held_of_quiet (hst h)
  trans_ends hsm hmt := fun h =>
    (hmt (by rwa [mark_of_held (held_of_quiet (hsm h))])).trans (held_of_quiet (hsm h))

/-- Foreign code by itself is quiet. -/
lemma allowsForeign_quietBelow : Frame.AllowsForeign (QuietBelow room) (HoldsBelow room) where
  toChains := chains_quietBelow room
  mark _ _ := fun _ => quiet_eq rfl rfl (Scene.unblocked_append (by simp)) rfl
  offer _ _ := fun _ => quiet_eq rfl rfl (Scene.unblocked_append (by simp)) rfl
  say _ _ _ := fun _ => rfl
  log _ _ := fun _ => rfl
  spend _ _ _ := fun _ => rfl
  rewrite _ _ := fun _ => rfl
  locked hst := hst
  locked_ends hst := hst
  masked {s t} _ hst := by
    intro h
    have hheld : t.held = s.held := congrArg QuietPart.toHeldPart (hst h)
    exact quiet_eq hheld (congrArg QuietPart.latch (hst h)) (congrArg QuietPart.unblocked (hst h))
      (SignalSet.stored_stored _)
  masked_ends _ hst := hst

/-- Escalating a nested fault keeps what must be kept. -/
lemma allowsEscalation_holdsBelow :
    Frame.AllowsEscalation (HoldsBelow room) (HoldsBelow room) where
  toChains := chains_holdsBelow room
  mark _ _ := fun _ => rfl
  offer _ _ := fun _ => rfl
  say _ _ _ := fun _ => rfl
  log _ _ := fun _ => rfl
  spend _ _ _ := fun _ => rfl
  rewrite _ _ := fun _ => rfl
  locked hst := hst
  locked_ends hst := hst
  masked _ hst := hst
  masked_ends _ hst := hst
  unblock _ _ := fun _ => rfl
  askUnblock _ _ := fun _ => rfl
  claim _ _ := fun _ => rfl
  report _ _ := fun _ => rfl

lemma allowsEntry_quietBelow : Frame.AllowsEntry (QuietBelow room) (HoldsBelow room) where
  toChains := chains_quietBelow room
  reset _ _ := fun _ => rfl
  fail _ _ := fun _ => rfl

end Frame

/-! ## Handling a nested fault -/

section Nested

open ProcessState

variable {R E : ProcessState → ProcessState → Prop}

/-- A frame for computations that end their thread holds for any that never return. -/
lemma TrapM.Within.of_never {α : Type} {x : TrapM α} (h : x.Within E E)
    (hnever : x.Returns fun _ => False) : x.Within R E := by
  intro s
  have hs := h s
  cases hrun : x.run s with
  | ok a t => exact (hnever s a t hrun).elim
  | error e t => rwa [hrun] at hs

/-- What services do within a frame, they do within that for computations that end their
thread. -/
lemma Services.Have.widen {sv : Services} (h : Frame.Chains R E)
    (hsv : sv.Have fun x => x.Within R E) : sv.Have fun x => x.Within E E where
  handle info raw context abort :=
    (hsv.handle info raw context abort).mono (fun _ _ => h.ends) fun _ _ hst => hst
  dispatch info raw := (hsv.dispatch info raw).mono (fun _ _ => h.ends) fun _ _ hst => hst
  entry raw := (hsv.entry raw).mono (fun _ _ => h.ends) fun _ _ hst => hst

/-- Escalation never returns. -/
lemma escalate_never {α : Type} (sys : Dispatcher) (sv : Services) (trap : UnrecoverableTrap)
    (raw : Delivery) : (escalate sys sv trap raw : TrapM α).Returns fun _ => False := by
  have hthrow : ∀ e, (throw e : TrapM α).Returns fun _ => False := by
    intro e s a t hrun
    have hrun' : EStateM.Result.error e s = .ok a t := hrun
    simp at hrun'
  unfold escalate
  refine TrapM.returns_bind (TrapM.returns_any _) fun s _ => ?_
  dsimp only
  refine TrapM.returns_bind (TrapM.returns_any _) fun _ _ => ?_
  split
  · refine TrapM.returns_bind (TrapM.returns_any _) fun _ _ => ?_
    refine TrapM.returns_bind (TrapM.returns_any _) fun s _ => ?_
    split
    · exact hthrow _
    · refine TrapM.returns_bind (TrapM.returns_any _) fun _ _ => ?_
      exact TrapM.returns_bind (TrapM.returns_any _) fun _ _ => hthrow _
  · split
    · exact TrapM.returns_bind (TrapM.returns_any _) fun _ _ => hthrow _
    · exact hthrow _

variable {room : Nat} {sys : Dispatcher} {sv : Services}

/-- Neither does a handler that has unblocked a signal to escalate its trap. -/
lemma unblock_escalate_never (info : SignalCause) (raw : Delivery)
    (trap : ProcessState → UnrecoverableTrap) :
    (do
      sys.control.unblock info.signal
      escalate sys sv (trap (← get)) raw : TrapM (Bool × Option Context)).Returns
        fun _ => False := by
  refine TrapM.returns_bind (TrapM.returns_any _) fun _ _ => ?_
  exact TrapM.returns_bind (TrapM.returns_any _) fun s _ => escalate_never sys sv _ raw

/-- A nested fault is not resumed. -/
lemma resume_nested (context : Option Context) :
    resume { rule := .nestedFault, disposition := .escalate } context (interruptedPc context) =
      pure none := by
  cases context <;> rfl

/-- Concluding a nested fault is quiet, or ends the thread and holds what must be held. -/
lemma conclude_nested_within (hsv : sv.Have fun x => x.Within (QuietBelow room) (HoldsBelow room))
    (info : SignalCause) (raw : Delivery) (context : Option Context) (abort : Bool)
    (thread : Option ManagedThread) :
    (conclude sys sv info raw context abort true thread
      { rule := .nestedFault, disposition := .escalate }).Within
        (QuietBelow room) (HoldsBelow room) := by
  have hchains := Frame.chains_quietBelow room
  unfold conclude
  refine .bind hchains (fun s _ => rfl) fun sequence => ?_
  refine .bind hchains (TrapM.within_modify fun s _ => rfl) fun _ => ?_
  unfold carryOut
  rw [resume_nested, pure_bind]
  dsimp only
  split
  · -- the signal is unblocked, but then the thread never comes back
    have hescalation := (Frame.allowsEscalation_holdsBelow room).within
    refine TrapM.Within.of_never ?_ (unblock_escalate_never info raw _)
    refine hescalation.bind (hescalation.unblock sys.control info.signal) fun _ => ?_
    exact TrapM.within_get_bind (Frame.chains_holdsBelow room) fun s =>
      escalate_has hescalation (hsv.widen hchains) sys _ raw
  · exact .bind hchains (TrapM.within_modify fun s _ => rfl) fun _ => TrapM.within_pure hchains _

/-- A handler below an active one is nested. -/
lemma NestingMark.enter_nested {m : NestingMark} {sp : Nat} (h : sp < m.recorded) :
    m.enter sp = (true, m) := by
  unfold enter
  rw [if_pos ⟨by omega, h⟩]

/-- A handler is nested if it runs below the recorded stack pointer. -/
lemma NestingMark.nested_iff (m : NestingMark) (sp : Nat) :
    (m.enter sp).1 = true ↔ sp < m.recorded := by
  unfold enter
  split
  · next h => simp [h.2]
  · next h =>
    simp only [Bool.false_eq_true, false_iff]
    omega

lemma NestingMark.enter_outermost {m : NestingMark} {sp : Nat} (h : (m.enter sp).1 = false) :
    (m.enter sp).2 = { recorded := sp } := by
  unfold enter at *
  split
  · next hnested => simp [hnested] at h
  · rfl

/-- The outermost handler writes down where it runs. -/
lemma ProcessState.mark_entered {s : ProcessState} {sp : Nat}
    (houter : (s.os.mark.enter sp).1 = false) :
    (s.entered sp).os.mark = { recorded := sp } :=
  NestingMark.enter_outermost houter

/-- So it is the active one above all that it asks. -/
lemma SignalCall.active_entered {call : SignalCall} {s : ProcessState}
    (hroom : call.room < call.sp) (houter : (s.os.mark.enter call.sp).1 = false) :
    call.room < (s.entered call.sp).os.mark.recorded := by
  rw [ProcessState.mark_entered houter]
  exact hroom

/-- A nested handler enters without a trace. -/
lemma ProcessState.entered_of_nested {s : ProcessState} {sp : Nat}
    (hnested : (s.os.mark.enter sp).1 = true) : s.entered sp = s := by
  unfold entered
  rw [if_pos hnested, NestingMark.enter_nested ((NestingMark.nested_iff _ _).mp hnested)]

/-- A nested handler that returns has offered its event to the log, and done nothing else. -/
lemma handle_run_nested {s t : ProcessState} {sp : Nat} {info : SignalCause} {raw : Delivery}
    {context : Option Context} {abort : Bool} {r : Bool × Option Context}
    (hnested : (s.os.mark.enter sp).1 = true)
    (h : (handle sys sv sp info raw context abort).run s = .ok r t) :
    abort = false ∧ r = (false, context) ∧
      t = s.logged (ownEvent s.thread info context
        { rule := .nestedFault, disposition := .escalate } s.sequence) := by
  have henter : (TrapM.enterTrap sp).run s = .ok true s := by
    rw [TrapM.run_enterTrap, hnested, entered_of_nested hnested]
  rw [handle_eq, TrapM.run_bind_of_ok henter, TrapM.run_get_bind] at h
  dsimp only at h
  rw [if_pos rfl, conclude_run] at h
  unfold carryOut at h
  rw [resume_nested, pure_bind] at h
  cases abort with
  | true => exact (unblock_escalate_never info raw _ _ _ _ h).elim
  | false =>
    have hleft : EStateM.Result.ok (false, context) _ = .ok r t := h
    rw [EStateM.Result.ok.injEq] at hleft
    exact ⟨rfl, hleft.1.symm, hleft.2.symm⟩

/-- A handler that runs below an active one is quiet, or ends the thread and holds what must be
held. -/
lemma handle_nested_within (hsv : sv.Have fun x => x.Within (QuietBelow room) (HoldsBelow room))
    {sp : Nat} (hsp : sp ≤ room) (info : SignalCause) (raw : Delivery) (context : Option Context)
    (abort : Bool) :
    (handle sys sv sp info raw context abort).Within (QuietBelow room) (HoldsBelow room) := by
  intro s
  by_cases hbelow : room < s.os.mark.recorded
  · have hnested : (s.os.mark.enter sp).1 = true :=
      (NestingMark.nested_iff _ _).mpr (by omega)
    have henter : (TrapM.enterTrap sp).run s = .ok true s := by
      rw [TrapM.run_enterTrap, hnested, entered_of_nested hnested]
    rw [handle_eq, TrapM.run_bind_of_ok henter, TrapM.run_get_bind]
    dsimp only
    rw [if_pos rfl]
    exact conclude_nested_within hsv info raw context abort s.thread s
  · -- no handler is active above, so nothing has to be shown
    cases hrun : (handle sys sv sp info raw context abort).run s with
    | ok a t => exact fun h => absurd h hbelow
    | error e t => exact fun h => absurd h hbelow

/-- What foreign code can call below an active handler is quiet, or ends the thread and holds what
must be held. -/
theorem services_nested (sys : Dispatcher) {room n : Nat} (h : n ≤ room) :
    (services sys n).Have fun x => x.Within (QuietBelow room) (HoldsBelow room) :=
  services_have_of_handle (Frame.allowsForeign_quietBelow room).within
    (Frame.allowsEntry_quietBelow room).within
    (TrapM.within_throw (Frame.chains_quietBelow room) _) sys
    (fun _ hm hlower => handle_nested_within hlower hm) h

end Nested

end ManagedFaults
