import ManagedFaults.Proofs.Handler.Control

/-!
# Giving entries to other owners

The level of an entry says who may remove it, but not who may give it away: its owner may, and the
runtime, whatever the level.  For some registrars the two rights differ
(`RegisteredHandler.Disputes`), and re-owning follows the level if and only if the entry is owned
by the registrar that its level is named after (`reowning_follows_level_iff`).
-/

namespace ManagedFaults

variable {H : Type}

/-! ## Two rights -/

namespace RegisteredHandler

/-- The registrar may either remove the entry or give it away, but not both. -/
def Disputes (e : RegisteredHandler H) (id : Registrar) : Prop :=
  id ≠ runtimeRegistrar ∧
    match e.protection with
    | .runtime => id = e.owner
    | .embedder => ¬ (id = e.owner ↔ id = embedderRegistrar)
    | .user => False

lemma transferableBy_iff (e : RegisteredHandler H) (id : Registrar) :
    e.transferableBy id = true ↔ id = e.owner ∨ id = runtimeRegistrar := by
  unfold transferableBy
  rw [Bool.or_eq_true, beq_iff_eq, beq_iff_eq, eq_comm]

/-- An entry is removed by those that its level names, whoever owns it. -/
lemma removableBy_iff (e : RegisteredHandler H) (id : Registrar) :
    e.removableBy id = true ↔ id ∈ e.controllers := by
  unfold removableBy controllers
  cases e.protection with
  | runtime => simp
  | embedder => simp [or_comm]
  | user =>
    rw [Bool.or_eq_true, beq_iff_eq, beq_iff_eq, eq_comm]
    simp

/-- The two rights differ exactly for the registrars with a dispute. -/
lemma rights_agree_iff (e : RegisteredHandler H) (id : Registrar) :
    (e.transferableBy id = true ↔ e.removableBy id = true) ↔ ¬ e.Disputes id := by
  rw [transferableBy_iff, removableBy_iff]
  unfold Disputes controllers
  by_cases hruntime : id = runtimeRegistrar
  · -- the runtime has every right
    cases e.protection <;> simp [hruntime]
  · cases e.protection <;> simp [hruntime]

/-- Nobody has a dispute about an entry if and only if its owner is the registrar that its level is
named after. -/
lemma forall_not_disputes_iff (e : RegisteredHandler H) :
    (∀ id, ¬ e.Disputes id) ↔ e.OwnedByLevel := by
  unfold Disputes OwnedByLevel
  cases e.protection with
  | runtime =>
    constructor
    · intro hnone
      by_contra howner
      exact hnone e.owner ⟨howner, rfl⟩
    · rintro howner id ⟨hid, rfl⟩
      exact hid howner
  | embedder =>
    constructor
    · intro hnone
      -- an owner that is not the embedder leaves the embedder without the right to give away
      by_contra howner
      refine hnone embedderRegistrar ⟨by decide, fun hiff => ?_⟩
      exact howner (hiff.mpr rfl).symm
    · rintro howner id ⟨-, hid⟩
      exact hid (by rw [howner])
  | user => simp

end RegisteredHandler

/-! ## Answers -/

namespace RegistryRequest

variable {r : Registry H} {e : RegisteredHandler H}

/-- Giving an entry away is answered by whether that is allowed. -/
lemma answer_transfer (h : r.HasOnly e) (id owner : Registrar) :
    (transfer e.handle id owner).answer r =
      if e.transferableBy id = true then .ok () else .error .permissionDenied := by
  simp only [answer, apply, Registry.transfer, h.find?]
  split <;> rfl

/-- Removing an entry is answered by whether that is allowed. -/
lemma answer_unregister (h : r.HasOnly e) (id : Registrar) :
    (unregister e.handle id).answer r =
      if e.removableBy id = true then .ok () else .error .permissionDenied := by
  simp only [answer, apply, Registry.unregister, h.find?]
  split <;> rfl

lemma answer_transfer_ok_iff (h : r.HasOnly e) (id owner : Registrar) :
    (transfer e.handle id owner).answer r = .ok () ↔ e.transferableBy id = true := by
  rw [answer_transfer h]
  split <;> simp [*]

lemma answer_unregister_ok_iff (h : r.HasOnly e) (id : Registrar) :
    (unregister e.handle id).answer r = .ok () ↔ e.removableBy id = true := by
  rw [answer_unregister h]
  split <;> simp [*]

/-- Giving an entry away changes nothing but its owner, or nothing at all. -/
lemma run_transfer_of_only {t : ProcessState} {e : RegisteredHandler ChainedHandler}
    (hfree : t.lock = {}) (h : t.registry.HasOnly e) (id owner : Registrar) (sv : Services) :
    ((transfer e.handle id owner).run sv).run t =
      if id = e.owner ∨ id = runtimeRegistrar then
        .ok (.ok ()) (t.changed { entries := Registry.setOwner e.handle owner t.registry.entries })
      else
        .ok (.error .permissionDenied) (t.changed t.registry) := by
  have htransfer : t.registry.transfer e.handle id owner =
      if e.transferableBy id = true then
        .ok { entries := Registry.setOwner e.handle owner t.registry.entries }
      else .error .permissionDenied := by
    unfold Registry.transfer
    rw [h.find?]
  show (Registration.transfer e.handle id owner).run t = _
  rw [Registration.run_transfer e.handle id owner hfree, htransfer]
  by_cases hallowed : id = e.owner ∨ id = runtimeRegistrar
  · rw [if_pos hallowed, if_pos ((e.transferableBy_iff id).mpr hallowed)]
  · rw [if_neg hallowed, if_neg fun h => hallowed ((e.transferableBy_iff id).mp h)]

end RegistryRequest

open RegistryRequest

/-- After any history of requests, a live entry is given away at the request of its owner or of the
runtime, and of nobody else, whatever its level; then nothing but its owner changes.  It is removed
at the request of those that its level names.  The two are allowed to the same registrar unless
there is a dispute, and to the same registrars altogether if and only if the owner is the one that
the level is named after. -/
theorem reowning_follows_level_iff (sys : Dispatcher) (room : Nat)
    {history : List (RegistryRequest ChainedHandler)}
    {answers : List (Except TrapFailure Unit)} {s t : ProcessState}
    (hempty : s.registry = {}) (hfree : s.lock = {}) (hfresh : (newHandles history).Nodup)
    (hrun : (runAll (services sys room) history).run s = .ok answers t)
    {e : RegisteredHandler ChainedHandler} (he : e ∈ t.registry.entries) :
    (∀ id owner,
      ((RegistryRequest.transfer e.handle id owner).run (services sys room)).run t =
        if id = e.owner ∨ id = runtimeRegistrar then
          .ok (.ok ())
            (t.changed { entries := Registry.setOwner e.handle owner t.registry.entries })
        else
          .ok (.error .permissionDenied) (t.changed t.registry)) ∧
    (∀ id, (RegistryRequest.unregister e.handle id).Served (services sys room) t ∧
      ((RegistryRequest.unregister e.handle id).answer t.registry = .ok () ↔
        id ∈ e.controllers)) ∧
    (∀ id owner,
      ((RegistryRequest.transfer e.handle id owner).answer t.registry = .ok () ↔
        (RegistryRequest.unregister e.handle id).answer t.registry = .ok ()) ↔
      ¬ e.Disputes id) ∧
    ((∀ id owner,
      (RegistryRequest.transfer e.handle id owner).answer t.registry = .ok () ↔
        (RegistryRequest.unregister e.handle id).answer t.registry = .ok ()) ↔
      e.OwnedByLevel) := by
  have hstart : s.registry.Keeps [] := hempty ▸ Registry.Keeps.empty
  obtain ⟨hthen, hlive, -⟩ := keeps_of_history hfree hstart hfresh
    (fun _ _ _ hnone => absurd hnone List.not_mem_nil) hrun
  have honly : t.registry.HasOnly e := hlive.hasOnly he
  have hagree : ∀ id owner,
      ((RegistryRequest.transfer e.handle id owner).answer t.registry = .ok () ↔
        (RegistryRequest.unregister e.handle id).answer t.registry = .ok ()) ↔
      ¬ e.Disputes id := by
    intro id owner
    rw [answer_transfer_ok_iff honly, answer_unregister_ok_iff honly]
    exact e.rights_agree_iff id
  refine ⟨fun id owner => ?_, fun id => ⟨served _ hthen, ?_⟩, hagree, ?_⟩
  · exact run_transfer_of_only hthen honly id owner _
  · rw [answer_unregister_ok_iff honly]
    exact e.removableBy_iff id
  · rw [← e.forall_not_disputes_iff]
    constructor
    · intro h id
      exact (hagree id runtimeRegistrar).mp (h id runtimeRegistrar)
    · intro h id owner
      exact (hagree id owner).mpr (h id)

/-- An entry at embedder level that its owner, the embedder, gives to somebody else. -/
def RegistryRequest.ofEmbedder : List (RegistryRequest ChainedHandler) :=
  [.register
    { handler := .answering true, priority := 9, description := "given", signal := none
      protection := .embedder, owner := embedderRegistrar, handle := 1 },
   .transfer 1 embedderRegistrar 7]

/-- The embedder may still remove the entry that it has given away, but not take it back; the new
owner may pass it on, but not remove it. -/
theorem embedder_cannot_take_back :
    ∃ t e,
      (runAll (services .silent 0) ofEmbedder).run default = .ok [.ok (), .ok ()] t ∧
      e ∈ t.registry.entries ∧ e.handle = 1 ∧
      (RegistryRequest.unregister 1 embedderRegistrar).answer t.registry = .ok () ∧
      ((RegistryRequest.transfer 1 embedderRegistrar embedderRegistrar).run
        (services .silent 0)).run t = .ok (.error .permissionDenied) (t.changed t.registry) ∧
      (RegistryRequest.transfer 1 7 8).answer t.registry = .ok () ∧
      (RegistryRequest.unregister 1 7).answer t.registry = .error .permissionDenied := by
  have hrun : (runAll (services .silent 0) ofEmbedder).run default = .ok [.ok (), .ok ()] _ := rfl
  obtain ⟨hgive, hremove, -, -⟩ :=
    reowning_follows_level_iff .silent 0 rfl rfl (by decide) hrun List.mem_cons_self
  exact ⟨_, _, hrun, List.mem_cons_self, rfl, (hremove _).2.mpr List.mem_cons_self, hgive _ _, rfl,
    rfl⟩

/-- A registrar that may not remove its entry at runtime level gives it away all the same. -/
theorem runtime_entry_given_away :
    ∃ t e,
      (runAll (services .silent 0)
        [.register
          { handler := .answering true, priority := 1, description := "h", signal := none
            protection := .runtime, owner := 5, handle := 1 }]).run default = .ok [.ok ()] t ∧
      e ∈ t.registry.entries ∧ e.handle = 1 ∧ e.protection = .runtime ∧
      ((RegistryRequest.unregister 1 5).run (services .silent 0)).run t =
        .ok (.error .permissionDenied) (t.changed t.registry) ∧
      ∃ m, ((RegistryRequest.transfer 1 5 6).run (services .silent 0)).run t = .ok (.ok ()) m ∧
        m.registry.entries = [{ e with owner := 6 }] :=
  ⟨_, _, rfl, List.mem_cons_self, rfl, rfl, rfl, _, rfl, rfl⟩

end ManagedFaults
