import ManagedFaults.Proofs.Handler.Requests

/-!
# Control over a registered handler

An entry that its level's registrar owns can be removed and given away only by a few registrars
(`RegisteredHandler.controllers`).  Requests of all others, in any number and of any kind, leave it
where it is: the entry does not change, and no other entry moves to the other side of it
(`strangers_cannot_dislodge`).  A registrar that has given its entry away is one of those others.
-/

namespace ManagedFaults

variable {H : Type}

/-! ## Who controls an entry -/

namespace RegisteredHandler

/-- The registrars that may remove an entry or give it away, if its owner is the one that its level
is named after. -/
def controllers (e : RegisteredHandler H) : List Registrar :=
  match e.protection with
  | .runtime => [runtimeRegistrar]
  | .embedder => [embedderRegistrar, runtimeRegistrar]
  | .user => [e.owner, runtimeRegistrar]

/-- The entry is owned by the registrar its level is named after; at user level this is any. -/
def OwnedByLevel (e : RegisteredHandler H) : Prop :=
  match e.protection with
  | .runtime => e.owner = runtimeRegistrar
  | .embedder => e.owner = embedderRegistrar
  | .user => True

/-- The owner and the runtime are among them, so nobody else may remove the entry or give it
away. -/
lemma denied_of_not_mem_controllers {e : RegisteredHandler H} {id : Registrar}
    (howned : e.OwnedByLevel) (hid : id ∉ e.controllers) :
    e.removableBy id = false ∧ e.transferableBy id = false := by
  have howner : e.owner ≠ id := by
    rintro rfl
    unfold OwnedByLevel at howned
    unfold controllers at hid
    cases hlevel : e.protection <;> simp_all
  have hruntime : id ≠ runtimeRegistrar := by
    rintro rfl
    unfold controllers at hid
    cases hlevel : e.protection <;> simp_all
  have hembedder : e.protection = .embedder → id ≠ embedderRegistrar := by
    rintro hlevel rfl
    simp [controllers, hlevel] at hid
  unfold removableBy transferableBy
  cases hlevel : e.protection <;> simp [howner, hruntime, hembedder, hlevel]

end RegisteredHandler

namespace RegistryRequest

/-- The registrar that makes a request; anybody may register. -/
def requester? : RegistryRequest H → Option Registrar
  | .register _ => none
  | .unregister _ requester => some requester
  | .transfer _ requester _ => some requester

/-- The handle of the entry that is to be removed or given away. -/
def subject? : RegistryRequest H → Option HandlerHandle
  | .register _ => none
  | .unregister h _ => some h
  | .transfer h _ _ => some h

/-- What a request can do to a registry: it is refused, or done as it was allowed. -/
inductive Effect (r : Registry H) : RegistryRequest H → Registry H → Prop
  | refused (request) : Effect r request r
  | registered (e) : Effect r (.register e) (r.insert e)
  | removed {e h id} (found : r.find? h = some e) (allowed : e.removableBy id = true) :
    Effect r (.unregister h id) { entries := r.entries.eraseP fun f => f.handle == h }
  | handedOver {e h id} (owner) (found : r.find? h = some e)
    (allowed : e.transferableBy id = true) :
    Effect r (.transfer h id owner) { entries := Registry.setOwner h owner r.entries }

/-- A request has one of these effects. -/
lemma effect (r : Registry H) (request : RegistryRequest H) :
    Effect r request (request.next r) := by
  cases request with
  | register e =>
    simp only [next, apply, Registry.register]
    split
    · exact .refused _
    · exact .registered e
  | unregister h id =>
    simp only [next, apply, Registry.unregister]
    cases hfind : r.find? h with
    | none => exact .refused _
    | some e =>
      dsimp only
      cases hallowed : e.removableBy id with
      | false => exact .refused _
      | true => exact .removed hfind hallowed
  | transfer h id owner =>
    simp only [next, apply, Registry.transfer]
    cases hfind : r.find? h with
    | none => exact .refused _
    | some e =>
      dsimp only
      cases hallowed : e.transferableBy id with
      | false => exact .refused _
      | true => exact .handedOver owner hfind hallowed

end RegistryRequest

/-! ## The entry stays -/

namespace Registry

open RegisteredHandler RegistryRequest

/-- The registry holds the entry, and no other one with its handle. -/
structure HasOnly (r : Registry H) (e : RegisteredHandler H) : Prop where
  mem : e ∈ r.entries
  only : ∀ f ∈ r.entries, f.handle = e.handle → f = e

variable {r : Registry H} {e : RegisteredHandler H}

lemma HasOnly.find? (h : r.HasOnly e) : r.find? e.handle = some e := by
  have hsome : (r.find? e.handle).isSome = true :=
    List.find?_isSome.mpr ⟨e, h.mem, beq_self_eq_true _⟩
  obtain ⟨f, hf⟩ := Option.isSome_iff_exists.mp hsome
  have hhandle : (f.handle == e.handle) = true :=
    List.find?_some (p := fun f : RegisteredHandler H => f.handle == e.handle) hf
  rw [hf, h.only f (List.mem_of_find?_eq_some hf) (beq_iff_eq.mp hhandle)]

/-- Giving another entry away does not change this one. -/
lemma mem_setOwner {h : HandlerHandle} {owner : Registrar} {f : RegisteredHandler H}
    {es : List (RegisteredHandler H)} (hf : f.handle ≠ h) : f ∈ setOwner h owner es ↔ f ∈ es := by
  induction es with
  | nil => rfl
  | cons g es ih =>
    unfold setOwner
    split
    · next hg =>
      have hg' := beq_iff_eq.mp hg
      have hne : f ≠ g := fun heq => hf (heq ▸ hg')
      have hne' : f ≠ { g with owner } := fun heq => hf (heq ▸ hg')
      simp [hne, hne']
    · simp [ih]

lemma map_handle_setOwner (h : HandlerHandle) (owner : Registrar)
    (es : List (RegisteredHandler H)) :
    (setOwner h owner es).map (·.handle) = es.map (·.handle) := by
  induction es with
  | nil => rfl
  | cons e es ih =>
    unfold setOwner
    split
    · rfl
    · rw [List.map_cons, List.map_cons, ih]

/-- A request of somebody who may neither remove the entry nor give it away leaves the entry where
it is. -/
lemma HasOnly.next (h : r.HasOnly e) {request : RegistryRequest H}
    (hnew : request.newHandle? ≠ some e.handle)
    (hdenied : ∀ id, request.requester? = some id →
      e.removableBy id = false ∧ e.transferableBy id = false) :
    (request.next r).HasOnly e := by
  -- whoever finds an entry under this handle has found `e`, and is not allowed to go on
  have hfound {h' : HandlerHandle} {f : RegisteredHandler H} (hf : r.find? h' = some f)
      (heq : e.handle = h') : f = e := by
    subst heq
    rw [h.find?, Option.some.injEq] at hf
    exact hf.symm
  have heffect := request.effect r
  generalize request.next r = r' at heffect ⊢
  cases heffect with
  | refused => exact h
  | registered f =>
    have hne : f.handle ≠ e.handle := fun heq => hnew (congrArg some heq)
    refine ⟨mem_insert.mpr (.inr h.mem), fun g hg hhandle => ?_⟩
    rcases mem_insert.mp hg with rfl | hg
    · exact absurd hhandle hne
    · exact h.only g hg hhandle
  | @removed f h' id found allowed =>
    have hne : e.handle ≠ h' := by
      intro heq
      rw [hfound found heq, (hdenied id rfl).1] at allowed
      cases allowed
    refine ⟨(List.mem_eraseP_of_neg (by simpa using hne)).mpr h.mem, fun g hg => ?_⟩
    exact h.only g (List.mem_of_mem_eraseP hg)
  | @handedOver f h' id owner found allowed =>
    have hne : e.handle ≠ h' := by
      intro heq
      rw [hfound found heq, (hdenied id rfl).2] at allowed
      cases allowed
    refine ⟨(mem_setOwner hne).mpr h.mem, fun g hg hhandle => ?_⟩
    exact h.only g ((mem_setOwner (hhandle ▸ hne)).mp hg) hhandle

/-- The registry after some requests. -/
def after (r : Registry H) (requests : List (RegistryRequest H)) : Registry H :=
  requests.foldl (fun r request => request.next r) r

/-- No requests of registrars that do not control an entry change the entry. -/
lemma HasOnly.after (h : r.HasOnly e) (howned : e.OwnedByLevel)
    {requests : List (RegistryRequest H)} (hnew : e.handle ∉ newHandles requests)
    (hstrangers : ∀ request ∈ requests, ∀ id, request.requester? = some id → id ∉ e.controllers) :
    (r.after requests).HasOnly e := by
  induction requests generalizing r with
  | nil => exact h
  | cons request requests ih =>
    rw [newHandles_cons, List.mem_append, not_or, Option.mem_toList] at hnew
    refine ih (h.next hnew.1 fun id hid => ?_) hnew.2
      fun later hlater => hstrangers later (List.mem_cons_of_mem _ hlater)
    exact denied_of_not_mem_controllers howned (hstrangers request List.mem_cons_self id hid)

/-! ## The order stays -/

/-- The handles of the entries, in the order in which signals are offered to them. -/
def handles (r : Registry H) : List HandlerHandle :=
  r.entries.map (·.handle)

/-- An entry is offered signals before another one. -/
def RunsBefore (r : Registry H) (e f : RegisteredHandler H) : Prop :=
  [e, f].Sublist r.entries

/-- A request does not move the entries that it finds. -/
lemma handles_next (r : Registry H) (request : RegistryRequest H) :
    ((request.next r).handles.filter fun h => decide (request.newHandle? ≠ some h)).Sublist
      r.handles := by
  have heffect := request.effect r
  generalize request.next r = r' at heffect ⊢
  cases heffect with
  | refused => exact List.filter_sublist
  | registered e =>
    unfold handles insert
    -- the filter drops the new handle from where it was inserted
    rw [List.map_append, List.map_cons, List.filter_append,
      List.filter_cons_of_neg (by simp [newHandle?]), ← List.filter_append, ← List.map_append,
      List.takeWhile_append_dropWhile]
    exact List.filter_sublist
  | removed found allowed => exact List.filter_sublist.trans (List.eraseP_sublist.map _)
  | handedOver owner found allowed =>
    unfold handles
    rw [map_handle_setOwner]
    exact List.filter_sublist

/-- No requests move the entries that they find. -/
lemma handles_after (r : Registry H) (requests : List (RegistryRequest H)) :
    ((r.after requests).handles.filter fun h => decide (h ∉ newHandles requests)).Sublist
      r.handles := by
  induction requests generalizing r with
  | nil => exact List.filter_sublist
  | cons request requests ih =>
    have hfilter : ∀ hs : List HandlerHandle,
        (hs.filter fun h => decide (h ∉ newHandles (request :: requests))) =
          (hs.filter fun h => decide (h ∉ newHandles requests)).filter
            fun h => decide (request.newHandle? ≠ some h) := by
      intro hs
      rw [List.filter_filter]
      refine List.filter_congr fun h _ => ?_
      rw [← Bool.decide_and, decide_eq_decide, newHandles_cons, List.mem_append, not_or,
        Option.mem_toList]
    rw [hfilter]
    exact ((ih (request.next r)).filter _).trans (handles_next r request)

/-- Of two different elements of a list one stands before the other. -/
private lemma sublist_or_sublist {α : Type} {a b : α} {l : List α} (ha : a ∈ l) (hb : b ∈ l)
    (hne : a ≠ b) : [a, b].Sublist l ∨ [b, a].Sublist l := by
  induction l with
  | nil => exact absurd ha List.not_mem_nil
  | cons c l ih =>
    rcases List.mem_cons.mp ha with rfl | ha' <;> rcases List.mem_cons.mp hb with rfl | hb'
    · exact absurd rfl hne
    · exact .inl ((List.singleton_sublist.mpr hb').cons_cons a)
    · exact .inr ((List.singleton_sublist.mpr ha').cons_cons b)
    · exact (ih ha' hb').imp (·.cons c) (·.cons c)

/-- In a list without repetitions no two elements stand before each other. -/
private lemma not_sublist_of_sublist {α : Type} {a b : α} {l : List α} (hl : l.Nodup)
    (hab : [a, b].Sublist l) : ¬[b, a].Sublist l := by
  intro hba
  induction l with
  | nil => cases hab
  | cons c l ih =>
    rw [List.nodup_cons] at hl
    cases hab with
    | cons _ hab =>
      cases hba with
      | cons _ hba => exact ih hl.2 hab hba
      | cons_cons _ ha => exact hl.1 (hab.subset (by simp))
    | cons_cons _ hb =>
      cases hba with
      | cons _ hba => exact hl.1 (hba.subset (by simp))
      | cons_cons _ ha => exact hl.1 (List.singleton_sublist.mp ha)

/-- Where handles are unique, their order is that of the entries. -/
lemma RunsBefore.of_handles (hr : r.handles.Nodup) {e f : RegisteredHandler H}
    (he : e ∈ r.entries) (hf : f ∈ r.entries)
    (h : [e.handle, f.handle].Sublist r.handles) : r.RunsBefore e f := by
  obtain ⟨es, hes, hmap⟩ := List.sublist_map_iff.mp h
  obtain ⟨e', rest, rfl, hehandle, hrest⟩ := List.map_eq_cons_iff.mp hmap.symm
  obtain ⟨f', rest, rfl, hfhandle, hrest⟩ := List.map_eq_cons_iff.mp hrest
  obtain rfl := List.map_eq_nil_iff.mp hrest
  obtain rfl : e' = e := List.inj_on_of_nodup_map hr (hes.subset (by simp)) he hehandle
  obtain rfl : f' = f := List.inj_on_of_nodup_map hr (hes.subset (by simp)) hf hfhandle
  exact hes

/-- Entries of a registry that are still there after some requests stand as they did. -/
theorem runsBefore_after_iff (hr : r.handles.Nodup) {requests : List (RegistryRequest H)}
    {e f e' f' : RegisteredHandler H} (he : e ∈ r.entries) (hf : f ∈ r.entries)
    (he' : e' ∈ (r.after requests).entries) (hf' : f' ∈ (r.after requests).entries)
    (hehandle : e'.handle = e.handle) (hfhandle : f'.handle = f.handle)
    (henew : e.handle ∉ newHandles requests) (hfnew : f.handle ∉ newHandles requests) :
    (r.after requests).RunsBefore e' f' ↔ r.RunsBefore e f := by
  have hback {a b : HandlerHandle} (ha : a ∉ newHandles requests) (hb : b ∉ newHandles requests)
      (h : [a, b].Sublist (r.after requests).handles) : [a, b].Sublist r.handles := by
    refine List.Sublist.trans ?_ (r.handles_after requests)
    have hkept := h.filter fun h => decide (h ∉ newHandles requests)
    rwa [List.filter_eq_self.mpr (by simp [ha, hb])] at hkept
  have hmap {r : Registry H} {e f : RegisteredHandler H} (h : r.RunsBefore e f) :
      [e.handle, f.handle].Sublist r.handles := List.Sublist.map RegisteredHandler.handle h
  constructor
  · intro h
    have hhandles := hmap h
    rw [hehandle, hfhandle] at hhandles
    exact .of_handles hr he hf (hback henew hfnew hhandles)
  · intro h
    -- the two stand in some order afterwards, and in the other one they would have stood before
    have hne : e' ≠ f' := by
      rintro rfl
      have hsame : e = f := List.inj_on_of_nodup_map hr he hf (hehandle.symm.trans hfhandle)
      subst hsame
      exact not_sublist_of_sublist hr (hmap h) (hmap h)
    refine (sublist_or_sublist he' hf' hne).resolve_right fun hother => ?_
    have hhandles := hmap hother
    rw [hehandle, hfhandle] at hhandles
    exact not_sublist_of_sublist hr (hmap h) (hback hfnew henew hhandles)

end Registry

/-! ## Requests of strangers -/

namespace RegistryRequest

variable {sys : Dispatcher} {room : Nat} {requests : List (RegistryRequest ChainedHandler)}
  {s t : ProcessState}

/-- The other requests follow when the first one was answered. -/
lemma stateAfter_runAll_cons {request : RegistryRequest ChainedHandler} {sv : Services}
    {answer : Except TrapFailure Unit} (h : (request.run sv).run s = .ok answer t) :
    (runAll sv (request :: requests)).stateAfter s = (runAll sv requests).stateAfter t := by
  unfold runAll TrapM.stateAfter
  rw [List.mapM_cons, TrapM.run_bind_of_ok h, EStateM.run_bind]
  cases (requests.mapM (RegistryRequest.run sv)).run t <;> rfl

/-- No request follows one that ends the thread. -/
lemma stateAfter_runAll_ended {request : RegistryRequest ChainedHandler} {sv : Services}
    {e : Ending} (h : (request.run sv).run s = .error e t) :
    (runAll sv (request :: requests)).stateAfter s = t := by
  unfold runAll TrapM.stateAfter
  rw [List.mapM_cons, TrapM.run_bind_of_error h]

/-- However a run of requests ends, the registry is what the first few of them make of it. -/
lemma registry_of_runAll (sys : Dispatcher) (room : Nat)
    (requests : List (RegistryRequest ChainedHandler)) (hfree : s.lock = {}) :
    ∃ made, made <+: requests ∧
      ((runAll (services sys room) requests).stateAfter s).registry = s.registry.after made := by
  -- the last of the requests that are made is the one that ends the thread, if any does
  induction requests generalizing s with
  | nil => exact ⟨[], List.nil_prefix, rfl⟩
  | cons request requests ih =>
    have hserved : request.Served (services sys room) s := request.served hfree
    cases hserved with
    | answered hanswered hregistry hfree' =>
      obtain ⟨made, hmade, hafter⟩ := ih hfree'
      refine ⟨request :: made, List.cons_prefix_cons.mpr ⟨rfl, hmade⟩, ?_⟩
      rw [stateAfter_runAll_cons hanswered, hafter, hregistry]
      rfl
    | ended handler hended hdrop hregistry =>
      refine ⟨[request], List.cons_prefix_cons.mpr ⟨rfl, List.nil_prefix⟩, ?_⟩
      rw [stateAfter_runAll_ended hended, hregistry]
      rfl

/-- The lock is free again once all requests were answered. -/
lemma free_of_runAll {answers : List (Except TrapFailure Unit)} (hfree : s.lock = {})
    (hrun : (runAll (services sys room) requests).run s = .ok answers t) : t.lock = {} := by
  induction requests generalizing s answers with
  | nil =>
    have hdone : EStateM.Result.ok [] s = .ok answers t := hrun
    rw [EStateM.Result.ok.injEq] at hdone
    rw [← hdone.2, hfree]
  | cons request requests ih =>
    obtain ⟨answer, others, m, rfl, hfirst, hothers⟩ := runAll_cons hrun
    exact ih (of_run_ok hfree hfirst).2.2 hothers

/-- Who may neither remove an entry nor give it away is told so. -/
lemma run_denied {e : RegisteredHandler ChainedHandler} (hfree : s.lock = {})
    (honly : s.registry.HasOnly e) {request : RegistryRequest ChainedHandler}
    (hsubject : request.subject? = some e.handle)
    (hdenied : ∀ id, request.requester? = some id →
      e.removableBy id = false ∧ e.transferableBy id = false) (sv : Services) :
    (request.run sv).run s = .ok (.error .permissionDenied) (s.changed s.registry) := by
  cases request with
  | register f => cases hsubject
  | unregister h id =>
    obtain rfl : h = e.handle := Option.some.inj hsubject
    refine Registration.run_remove_of_error hfree ?_
    unfold Registry.unregister
    rw [honly.find?]
    simp only [(hdenied id rfl).1, Bool.false_eq_true, if_false]
  | transfer h id owner =>
    obtain rfl : h = e.handle := Option.some.inj hsubject
    have hrefused : s.registry.transfer e.handle id owner = .error .permissionDenied := by
      unfold Registry.transfer
      rw [honly.find?]
      simp only [(hdenied id rfl).2, Bool.false_eq_true, if_false]
    have hrun := Registration.run_transfer e.handle id owner hfree
    rw [hrefused] at hrun
    exact hrun

end RegistryRequest

namespace Registry

open RegistryRequest

/-- An entry is in both registries, and every other entry of both is on the same side of it. -/
structure KeepsPlace (r r' : Registry H) (e : RegisteredHandler H) : Prop where
  mem : e ∈ r'.entries
  before : ∀ f ∈ r.entries, ∀ f' ∈ r'.entries, f'.handle = f.handle →
    (r'.RunsBefore f' e ↔ r.RunsBefore f e)
  behind : ∀ f ∈ r.entries, ∀ f' ∈ r'.entries, f'.handle = f.handle →
    (r'.RunsBefore e f' ↔ r.RunsBefore e f)

/-- In a registry that keeps what lives, requests of strangers leave an entry in its place. -/
lemma Keeps.keepsPlace {r : Registry H} {live : List (RegisteredHandler H)} (hr : r.Keeps live)
    {requests : List (RegistryRequest H)}
    (hnew : ∀ f ∈ r.entries, f.handle ∉ newHandles requests) {e : RegisteredHandler H}
    (he : e ∈ r.entries) (he' : e ∈ (r.after requests).entries) :
    r.KeepsPlace (r.after requests) e where
  mem := he'
  before f hf _ hf' hhandle :=
    runsBefore_after_iff hr.nodup_handles hf he hf' he' hhandle rfl (hnew f hf) (hnew e he)
  behind f hf _ hf' hhandle :=
    runsBefore_after_iff hr.nodup_handles he hf he' hf' rfl hhandle (hnew e he) (hnew f hf)

/-- A registry that keeps what lives has each entry under a handle of its own. -/
lemma Keeps.hasOnly {r : Registry H} {live : List (RegisteredHandler H)} (hr : r.Keeps live)
    {e : RegisteredHandler H} (he : e ∈ r.entries) : r.HasOnly e :=
  ⟨he, fun _ hf hhandle => List.inj_on_of_nodup_map hr.nodup_handles hf he hhandle⟩

end Registry

open RegistryRequest

section Strangers

variable {e : RegisteredHandler ChainedHandler} {live : List (RegisteredHandler ChainedHandler)}
  {requests : List (RegistryRequest ChainedHandler)} {s : ProcessState}

/-- Requests of strangers leave an entry in its place, however they end. -/
lemma keepsPlace_of_runAll (sys : Dispatcher) (room : Nat) (hfree : s.lock = {})
    (hkeeps : s.registry.Keeps live) (he : e ∈ s.registry.entries) (howned : e.OwnedByLevel)
    (hnew : ∀ f ∈ s.registry.entries, f.handle ∉ newHandles requests)
    (hstrangers : ∀ request ∈ requests, ∀ id, request.requester? = some id → id ∉ e.controllers) :
    s.registry.KeepsPlace ((runAll (services sys room) requests).stateAfter s).registry e ∧
      ((runAll (services sys room) requests).stateAfter s).registry.HasOnly e := by
  obtain ⟨made, ⟨rest, rfl⟩, hafter⟩ := registry_of_runAll sys room requests hfree
  have hnew' : ∀ f ∈ s.registry.entries, f.handle ∉ newHandles made := by
    intro f hf hmem
    refine hnew f hf ?_
    rw [newHandles_append]
    exact List.mem_append_left _ hmem
  have honly := (hkeeps.hasOnly he).after howned (hnew' e he)
    fun request hrequest => hstrangers request (List.mem_append_left _ hrequest)
  rw [hafter]
  exact ⟨hkeeps.keepsPlace hnew' he honly.mem, honly⟩

/-- The owner of an entry may give it away, and nothing else changes. -/
lemma run_transfer_of_owner (hfree : s.lock = {}) (hkeeps : s.registry.Keeps live)
    (he : e ∈ s.registry.entries) (owner : Registrar) (sv : Services) :
    ∃ m live', ((RegistryRequest.transfer e.handle e.owner owner).run sv).run s = .ok (.ok ()) m ∧
      m.lock = {} ∧ m.registry.Keeps live' ∧ { e with owner } ∈ m.registry.entries ∧
      m.registry.handles = s.registry.handles := by
  have hallowed : s.registry.transfer e.handle e.owner owner =
      .ok { entries := Registry.setOwner e.handle owner s.registry.entries } := by
    unfold Registry.transfer
    rw [(hkeeps.hasOnly he).find?]
    simp only [RegisteredHandler.transferableBy, beq_self_eq_true, Bool.true_or, if_true]
  have hrun := Registration.run_transfer e.handle e.owner owner hfree
  rw [hallowed] at hrun
  have hkeeps' := hkeeps.setOwner e.handle owner
  refine ⟨_, _, hrun, rfl, hkeeps', (hkeeps'.mem_iff _).mpr ?_, Registry.map_handle_setOwner ..⟩
  exact List.mem_map.mpr ⟨e, (hkeeps.mem_iff e).mp he, if_pos (beq_self_eq_true _)⟩

/-- Who has given an entry at user level away is a stranger to it, and all that it asks for about
the entry is denied. -/
lemma denied_of_given_away (sys : Dispatcher) (room : Nat) (hfree : s.lock = {})
    (hkeeps : s.registry.Keeps live) (he : e ∈ s.registry.entries) (hlevel : e.protection = .user)
    (hruntime : e.owner ≠ runtimeRegistrar) {owner : Registrar} (howner : owner ≠ e.owner) :
    ∃ m, ((RegistryRequest.transfer e.handle e.owner owner).run (services sys room)).run s =
        .ok (.ok ()) m ∧
      ∀ requests, (∀ f ∈ s.registry.entries, f.handle ∉ newHandles requests) →
        (∀ request ∈ requests, ∀ id, request.requester? = some id → id = e.owner) →
        m.registry.KeepsPlace ((runAll (services sys room) requests).stateAfter m).registry
          { e with owner } ∧
        ∀ answers u, (runAll (services sys room) requests).run m = .ok answers u →
          ∀ request : RegistryRequest ChainedHandler, request.subject? = some e.handle →
            request.requester? = some e.owner →
            ∃ w, (request.run (services sys room)).run u = .ok (.error .permissionDenied) w ∧
              w.registry = u.registry := by
  obtain ⟨m, live', htransfer, hfree', hkeeps', he', hhandles⟩ :=
    run_transfer_of_owner hfree hkeeps he owner (services sys room)
  have howned : RegisteredHandler.OwnedByLevel { e with owner } := by
    unfold RegisteredHandler.OwnedByLevel
    rw [hlevel]
    trivial
  have hstranger : ∀ id, id = e.owner →
      id ∉ RegisteredHandler.controllers { e with owner } := by
    rintro id rfl
    unfold RegisteredHandler.controllers
    rw [hlevel]
    simp [howner.symm, hruntime]
  refine ⟨m, htransfer, fun requests hnew hown => ?_⟩
  have hnew' : ∀ f ∈ m.registry.entries, f.handle ∉ newHandles requests := by
    intro f hf
    have hmem : f.handle ∈ s.registry.handles := hhandles ▸ List.mem_map_of_mem hf
    obtain ⟨g, hg, hhandle⟩ := List.mem_map.mp hmem
    exact hhandle ▸ hnew g hg
  obtain ⟨hplace, honly⟩ := keepsPlace_of_runAll sys room hfree' hkeeps' he' howned hnew'
    fun request hrequest id hid => hstranger id (hown request hrequest id hid)
  refine ⟨hplace, fun answers u hrun request hsubject hrequester => ?_⟩
  rw [TrapM.stateAfter, hrun] at honly
  refine ⟨_, run_denied (free_of_runAll hfree' hrun) honly hsubject (fun id hid => ?_) _, rfl⟩
  have hid' : id = e.owner := Option.some.inj (hid.symm.trans hrequester)
  exact RegisteredHandler.denied_of_not_mem_controllers howned (hstranger id hid')

end Strangers

/-- After any history of requests, requests of registrars that do not control an entry leave it in
its place, as it is.  Once the owner of an entry at user level has given it to somebody else, this
goes for requests of the old owner, and whatever it asks for about the entry is denied. -/
theorem strangers_cannot_dislodge (sys : Dispatcher) (room : Nat)
    {history : List (RegistryRequest ChainedHandler)}
    {answers : List (Except TrapFailure Unit)} {s t : ProcessState}
    (hempty : s.registry = {}) (hfree : s.lock = {}) (hfresh : (newHandles history).Nodup)
    (hrun : (runAll (services sys room) history).run s = .ok answers t)
    {e : RegisteredHandler ChainedHandler} (he : e ∈ t.registry.entries) :
    (e.OwnedByLevel → ∀ requests, (newHandles (history ++ requests)).Nodup →
      (∀ request ∈ requests, ∀ id, request.requester? = some id → id ∉ e.controllers) →
      t.registry.KeepsPlace ((runAll (services sys room) requests).stateAfter t).registry e) ∧
    (e.protection = .user → e.owner ≠ runtimeRegistrar → ∀ owner, owner ≠ e.owner →
      ∃ m, ((RegistryRequest.transfer e.handle e.owner owner).run (services sys room)).run t =
          .ok (.ok ()) m ∧
        ∀ requests, (newHandles (history ++ requests)).Nodup →
          (∀ request ∈ requests, ∀ id, request.requester? = some id → id = e.owner) →
          m.registry.KeepsPlace ((runAll (services sys room) requests).stateAfter m).registry
            { e with owner } ∧
          ∀ answers' u, (runAll (services sys room) requests).run m = .ok answers' u →
            ∀ request : RegistryRequest ChainedHandler, request.subject? = some e.handle →
              request.requester? = some e.owner →
              ∃ w, (request.run (services sys room)).run u = .ok (.error .permissionDenied) w ∧
                w.registry = u.registry) := by
  have hstart : s.registry.Keeps [] := hempty ▸ Registry.Keeps.empty
  obtain ⟨hthen, hlive, hhandles⟩ := keeps_of_history hfree hstart hfresh
    (fun _ _ _ hnone => absurd hnone List.not_mem_nil) hrun
  -- whatever is registered has got its handle in the history
  have hold : ∀ f ∈ t.registry.entries, f.handle ∈ newHandles history := by
    intro f hf
    refine (hhandles f ((hlive.mem_iff f).mp hf)).resolve_left ?_
    rintro ⟨g, hg, -⟩
    exact absurd hg List.not_mem_nil
  have hnew : ∀ requests, (newHandles (history ++ requests)).Nodup →
      ∀ f ∈ t.registry.entries, f.handle ∉ newHandles requests := by
    intro requests hnodup f hf hmem
    rw [newHandles_append] at hnodup
    exact (List.nodup_append.mp hnodup).2.2 _ (hold f hf) _ hmem rfl
  constructor
  · intro howned requests hnodup hstrangers
    exact (keepsPlace_of_runAll sys room hthen hlive he howned (hnew requests hnodup)
      hstrangers).1
  · intro hlevel hruntime owner howner
    obtain ⟨m, htransfer, hlater⟩ :=
      denied_of_given_away sys room hthen hlive he hlevel hruntime howner
    exact ⟨m, htransfer, fun requests hnodup => hlater requests (hnew requests hnodup)⟩

/-- The program of the late handler tries to get hold of the early one, and removes its own; later
the early handler's owner gives it away, and tries to remove it. -/
theorem early_kept :
    ∃ t e m w,
      (runAll (services .silent 0) ofTwoPrograms).run default =
        .ok [.ok (), .ok (), .error .duplicateHandler, .error .permissionDenied] t ∧
      e ∈ t.registry.entries ∧ e.handle = 2 ∧ e.owner = 3 ∧
      t.registry.KeepsPlace
        ((runAll (services .silent 0)
          [.transfer 2 2 2, .unregister 2 2, .unregister 1 2]).stateAfter t).registry e ∧
      ((RegistryRequest.transfer 2 3 4).run (services .silent 0)).run t = .ok (.ok ()) m ∧
      ((RegistryRequest.unregister 2 3).run (services .silent 0)).run m =
        .ok (.error .permissionDenied) w := by
  have hrun : (runAll (services .silent 0) ofTwoPrograms).run default =
      .ok [.ok (), .ok (), .error .duplicateHandler, .error .permissionDenied] _ := rfl
  obtain ⟨hstays, hgiven⟩ :=
    strangers_cannot_dislodge .silent 0 rfl rfl (by decide) hrun List.mem_cons_self
  obtain ⟨m, htransfer, hlater⟩ := hgiven rfl (by decide) 4 (by decide)
  obtain ⟨w, hdenied, -⟩ := (hlater [] (by decide) (fun _ hnone => absurd hnone List.not_mem_nil)).2
    [] m rfl (.unregister 2 3) rfl rfl
  refine ⟨_, _, m, w, hrun, List.mem_cons_self, rfl, rfl, ?_, htransfer, hdenied⟩
  refine hstays trivial _ (by decide) fun request hrequest id hid => ?_
  simp only [List.mem_cons, List.not_mem_nil, or_false] at hrequest
  have hlate : id = 2 := by
    rcases hrequest with rfl | rfl | rfl <;> exact (Option.some.inj hid).symm
  rw [hlate]
  decide

end ManagedFaults
