import ManagedFaults.Handler.Registration
import ManagedFaults.Proofs.Trap.Frame

/-!
# Changing the registry

Registering, removing and handing over take the lock of the registry and give it back.  In between,
or afterwards, a handler is dropped, which runs code: it may use the trap system, but leaves the
registry and its lock as they are (`drop_sameRegistry`).
-/

namespace ManagedFaults

/-! ## What code of a dropped handler leaves as it is -/

/-- The registry and its lock are as they were. -/
def ProcessState.SameRegistry (s t : ProcessState) : Prop :=
  t.registry = s.registry ∧ t.lock = s.lock

/-- The registry is as it was, and the lock may still be taken. -/
def ProcessState.SameEntries (s t : ProcessState) : Prop :=
  t.registry = s.registry

open ProcessState in
/-- Nothing that handling a signal does changes the registry. -/
lemma allowsHandling_sameRegistry : Frame.AllowsHandling SameRegistry SameEntries where
  refl _ := ⟨rfl, rfl⟩
  trans hsm hmt := ⟨hmt.1.trans hsm.1, hmt.2.trans hsm.2⟩
  ends hst := hst.1
  trans_ends hsm hmt := Eq.trans hmt hsm.1
  mark _ _ := ⟨rfl, rfl⟩
  offer _ _ := ⟨rfl, rfl⟩
  say _ _ _ := ⟨rfl, rfl⟩
  log _ _ := ⟨rfl, rfl⟩
  spend _ _ _ := ⟨rfl, rfl⟩
  rewrite _ _ := ⟨rfl, rfl⟩
  locked {s t} hst := by
    refine ⟨hst.1, ?_⟩
    show { t.lock with readers := t.lock.readers - 1 } = s.lock
    rw [hst.2]
    rfl
  locked_ends hst := hst
  masked _ hst := hst
  masked_ends _ hst := hst
  unblock _ _ := ⟨rfl, rfl⟩
  askUnblock _ _ := ⟨rfl, rfl⟩
  claim _ _ := ⟨rfl, rfl⟩
  report _ _ := ⟨rfl, rfl⟩
  ask _ _ _ := ⟨rfl, rfl⟩
  guard _ _ _ := ⟨rfl, rfl⟩
  reset _ _ := ⟨rfl, rfl⟩
  fail _ _ := ⟨rfl, rfl⟩
  enter _ _ _ := ⟨rfl, rfl⟩
  count _ _ := ⟨rfl, rfl⟩
  save _ _ := ⟨rfl, rfl⟩

/-- Dropping a handler has a property if the services its code calls do. -/
lemma ChainedHandler.drop_has {P : ∀ {α : Type}, TrapM α → Prop} {sv : Services}
    (h : TrapM.AllowsForeign P) (hsv : sv.Have P) (handler : ChainedHandler) :
    P (handler.drop sv) := by
  cases handler with
  | script run onDrop =>
    cases onDrop with
    | none => exact h.pure ()
    | some onDrop => exact h.bind (Script.run_has h hsv onDrop) fun _ => h.pure ()
  | previous slot => exact h.pure ()

/-- Dropping a handler leaves the registry as it is. -/
lemma drop_sameRegistry (sys : Dispatcher) (room : Nat) (handler : ChainedHandler) :
    (handler.drop (services sys room)).Within ProcessState.SameRegistry
      ProcessState.SameEntries :=
  handler.drop_has allowsHandling_sameRegistry.within.toAllowsForeign
    (services_have allowsHandling_sameRegistry.within sys room)

/-! ## Requests to a registry that is not in use -/

/-- The process while its registry is being changed. -/
def ProcessState.changing (s : ProcessState) (registry : Registry ChainedHandler) : ProcessState :=
  { s with registry, lock := { writing := true } }

/-- The process with a registry that is not in use. -/
def ProcessState.changed (s : ProcessState) (registry : Registry ChainedHandler) : ProcessState :=
  { s with registry, lock := {} }

/-- The lock of a registry that is not in use is taken at once. -/
lemma run_lockRegistry {s : ProcessState} (hfree : s.lock = {}) :
    lockRegistry.run s = .ok () (s.changing s.registry) := by
  unfold lockRegistry
  rw [TrapM.run_get_bind]
  dsimp only
  rw [hfree]
  rfl

/-- Whoever gets the lock found it free. -/
lemma free_of_run_lockRegistry {s t : ProcessState} (h : lockRegistry.run s = .ok () t) :
    s.lock = {} := by
  unfold lockRegistry at h
  rw [TrapM.run_get_bind] at h
  dsimp only at h
  split at h
  · have hthrow : EStateM.Result.error Ending.deadlocked s = .ok () t := h
    simp at hthrow
  · next hlock =>
    simp only [Bool.or_eq_true, bne_iff_ne, ne_eq, not_or, Decidable.not_not,
      Bool.not_eq_true] at hlock
    show RegistryLock.mk s.lock.readers s.lock.writing = {}
    rw [hlock.1, hlock.2]

namespace Registration

variable {sv : Services} {s : ProcessState}

/-- Whoever gets an answer found the registry not in use. -/
lemma free_of_run_add {e : RegisteredHandler ChainedHandler} {t : ProcessState}
    {answer : Except TrapFailure HandlerHandle} (h : (add sv e).run s = .ok answer t) :
    s.lock = {} := by
  unfold add at h
  cases hlock : lockRegistry.run s with
  | ok _ m => exact free_of_run_lockRegistry hlock
  | error ending m =>
    rw [TrapM.run_bind_of_error hlock] at h
    simp at h

/-- An entry that the registry takes is in it. -/
lemma run_add_of_ok {e : RegisteredHandler ChainedHandler} {registry : Registry ChainedHandler}
    (hfree : s.lock = {}) (h : s.registry.register e = .ok registry) :
    (add sv e).run s = .ok (.ok e.handle) (s.changed registry) := by
  have h' : (s.changing s.registry).registry.register e = .ok registry := h
  unfold add
  rw [TrapM.run_bind_of_ok (run_lockRegistry hfree), TrapM.run_get_bind, h']
  rfl

/-- An entry that is refused is dropped once the lock has been given back. -/
lemma run_add_of_error {e : RegisteredHandler ChainedHandler} {failure : TrapFailure}
    (hfree : s.lock = {}) (h : s.registry.register e = .error failure) :
    (add sv e).run s =
      (e.handler.drop sv >>= fun _ =>
        (return .error failure : TrapM (Except TrapFailure HandlerHandle))).run
        (s.changed s.registry) := by
  have h' : (s.changing s.registry).registry.register e = .error failure := h
  unfold add
  rw [TrapM.run_bind_of_ok (run_lockRegistry hfree), TrapM.run_get_bind, h']
  rfl

/-- An entry that is removed is dropped while the lock is held. -/
lemma run_remove_of_ok {h : HandlerHandle} {requester : Registrar}
    {e : RegisteredHandler ChainedHandler} {registry : Registry ChainedHandler}
    (hfree : s.lock = {}) (hremove : s.registry.unregister h requester = .ok (e, registry)) :
    (remove sv h requester).run s =
      (e.handler.drop sv >>= fun _ => unlockRegistry >>= fun _ =>
        (return .ok () : TrapM (Except TrapFailure Unit))).run (s.changing registry) := by
  have h' : (s.changing s.registry).registry.unregister h requester = .ok (e, registry) := hremove
  unfold remove
  rw [TrapM.run_bind_of_ok (run_lockRegistry hfree), TrapM.run_get_bind, h']
  rfl

/-- A removal that is refused changes nothing. -/
lemma run_remove_of_error {h : HandlerHandle} {requester : Registrar} {failure : TrapFailure}
    (hfree : s.lock = {}) (hremove : s.registry.unregister h requester = .error failure) :
    (remove sv h requester).run s = .ok (.error failure) (s.changed s.registry) := by
  have h' : (s.changing s.registry).registry.unregister h requester = .error failure := hremove
  unfold remove
  rw [TrapM.run_bind_of_ok (run_lockRegistry hfree), TrapM.run_get_bind, h']
  rfl

/-- Dropping a kept action runs no code. -/
private lemma drop_of_previous {handler : ChainedHandler} {slot : Nat}
    (h : handler = .previous slot) : handler.drop sv = pure () := by
  rw [h]
  rfl

/-- A kept action that the registry refuses is gone without further ado. -/
lemma run_add_previous_of_error {e : RegisteredHandler ChainedHandler} {failure : TrapFailure}
    {slot : Nat} (hprevious : e.handler = .previous slot) (hfree : s.lock = {})
    (h : s.registry.register e = .error failure) :
    (add sv e).run s = .ok (.error failure) (s.changed s.registry) := by
  rw [run_add_of_error hfree h, drop_of_previous hprevious]
  rfl

/-- A kept action is removed without further ado. -/
lemma run_remove_previous_of_ok {h : HandlerHandle} {requester : Registrar}
    {e : RegisteredHandler ChainedHandler} {registry : Registry ChainedHandler} {slot : Nat}
    (hprevious : e.handler = .previous slot) (hfree : s.lock = {})
    (hremove : s.registry.unregister h requester = .ok (e, registry)) :
    (remove sv h requester).run s = .ok (.ok ()) (s.changed registry) := by
  rw [run_remove_of_ok hfree hremove, drop_of_previous hprevious]
  rfl

lemma run_transfer (h : HandlerHandle) (requester owner : Registrar) (hfree : s.lock = {}) :
    (transfer h requester owner).run s =
      match s.registry.transfer h requester owner with
      | .ok registry => .ok (.ok ()) (s.changed registry)
      | .error failure => .ok (.error failure) (s.changed s.registry) := by
  have h' : (s.changing s.registry).registry.transfer h requester owner =
      s.registry.transfer h requester owner := rfl
  unfold transfer
  rw [TrapM.run_bind_of_ok (run_lockRegistry hfree), TrapM.run_get_bind, h']
  cases s.registry.transfer h requester owner <;> rfl

end Registration

end ManagedFaults
