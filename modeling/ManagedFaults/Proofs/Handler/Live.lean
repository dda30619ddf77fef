import ManagedFaults.Proofs.Handler.Priority
import Mathlib.Data.List.Nodup

/-!
# Live entries

What is registered follows from the history of requests and answers alone: an entry lives from
when it was registered until it is removed.  The registry keeps the live entries, sorted stably by
priority (`Registry.Keeps`), and answers every request by what lives (`Registry.Keeps.apply`).
-/

namespace ManagedFaults

variable {H : Type}

/-- A request to change the registry. -/
inductive RegistryRequest (H : Type) where
  | register (e : RegisteredHandler H)
  | unregister (h : HandlerHandle) (requester : Registrar)
  | transfer (h : HandlerHandle) (requester owner : Registrar)

namespace RegistryRequest

/-- The handle of the entry that is to be registered. -/
def newHandle? : RegistryRequest H → Option HandlerHandle
  | .register e => some e.handle
  | _ => none

/-- The handles under which entries are to be registered, in order. -/
def newHandles (requests : List (RegistryRequest H)) : List HandlerHandle :=
  requests.flatMap fun request => request.newHandle?.toList

lemma newHandles_cons (request : RegistryRequest H) (requests : List (RegistryRequest H)) :
    newHandles (request :: requests) = request.newHandle?.toList ++ newHandles requests :=
  rfl

lemma newHandles_append (requests later : List (RegistryRequest H)) :
    newHandles (requests ++ later) = newHandles requests ++ newHandles later :=
  List.flatMap_append

/-- The registry after a request, unless the request fails. -/
def apply (r : Registry H) : RegistryRequest H → Except TrapFailure (Registry H)
  | .register e => r.register e
  | .unregister h requester => (r.unregister h requester).map (·.2)
  | .transfer h requester owner => r.transfer h requester owner

/-- How the registry answers a request. -/
def answer (r : Registry H) (request : RegistryRequest H) : Except TrapFailure Unit :=
  (request.apply r).map fun _ => ()

/-- The registry after a request, whether it fails or not. -/
def next (r : Registry H) (request : RegistryRequest H) : Registry H :=
  (request.apply r).toOption.getD r

/-! ## Histories -/

/-- What lives after a request was answered. -/
def outcome (live : List (RegisteredHandler H)) (request : RegistryRequest H) :
    Except TrapFailure Unit → List (RegisteredHandler H)
  | .error _ => live
  | .ok () =>
    match request with
    | .register e => live ++ [e]
    | .unregister h _ => live.filter fun e => e.handle != h
    | .transfer h _ owner => live.map fun e => if e.handle == h then { e with owner } else e

/-- What lives after a history of requests and their answers. -/
def liveFrom (live : List (RegisteredHandler H)) :
    List (RegistryRequest H × Except TrapFailure Unit) → List (RegisteredHandler H)
  | [] => live
  | (request, answer) :: history => liveFrom (request.outcome live answer) history

/-- The entries that were registered and not yet removed, in the order of their registration. -/
def liveAfter (history : List (RegistryRequest H × Except TrapFailure Unit)) :
    List (RegisteredHandler H) :=
  liveFrom [] history

/-- The answer to a request says what lives: registering fails if a live entry has the same
description and signal; removing and handing over fail if no live entry has the handle, or if the
one that has it does not allow it to the requester. -/
def Answered (live : List (RegisteredHandler H)) (answer : Except TrapFailure Unit) :
    RegistryRequest H → Prop
  | .register e =>
    (answer = .error .duplicateHandler ↔
      ∃ f ∈ live, f.description = e.description ∧ f.signal = e.signal) ∧
    (answer = .ok () ∨ answer = .error .duplicateHandler)
  | .unregister h requester =>
    (answer = .error .handlerNotFound ↔ ∀ f ∈ live, f.handle ≠ h) ∧
    (answer = .error .permissionDenied ↔
      ∃ f ∈ live, f.handle = h ∧ f.removableBy requester = false) ∧
    (answer = .ok () ∨ answer = .error .handlerNotFound ∨ answer = .error .permissionDenied)
  | .transfer h requester _ =>
    (answer = .error .handlerNotFound ↔ ∀ f ∈ live, f.handle ≠ h) ∧
    (answer = .error .permissionDenied ↔
      ∃ f ∈ live, f.handle = h ∧ f.transferableBy requester = false) ∧
    (answer = .ok () ∨ answer = .error .handlerNotFound ∨ answer = .error .permissionDenied)

end RegistryRequest

/-! ## What the registry keeps -/

open RegisteredHandler

/-- The registry holds the live entries: it is sorted, has the live entries of each priority in
the order of registration, and no two live entries have the same handle, or the same description
and signal. -/
structure Registry.Keeps (r : Registry H) (live : List (RegisteredHandler H)) : Prop where
  ordered : InOrder r.entries
  classes : ∀ p, ofPriority p r.entries = ofPriority p live
  handles : (live.map (·.handle)).Nodup
  unlike : live.Pairwise fun e f => ¬ (e.description = f.description ∧ e.signal = f.signal)

namespace Registry.Keeps

variable {r : Registry H} {live : List (RegisteredHandler H)} {h : HandlerHandle}

lemma empty : ({} : Registry H).Keeps [] where
  ordered := List.Pairwise.nil
  classes _ := rfl
  handles := List.nodup_nil
  unlike := List.Pairwise.nil

lemma mem_iff (hr : r.Keeps live) (e : RegisteredHandler H) : e ∈ r.entries ↔ e ∈ live :=
  mem_iff_of_classes hr.classes e

/-- The registry is the stable sort of the live entries. -/
lemma eq_stableSort (hr : r.Keeps live) : r.entries = stableSort live :=
  hr.ordered.eq_stableSort hr.classes

/-- No two entries of the registry have the same handle. -/
lemma nodup_handles (hr : r.Keeps live) : (r.entries.map (·.handle)).Nodup := by
  have hperm : (r.entries.map (·.handle)).Perm (live.map (·.handle)) := by
    rw [hr.eq_stableSort]
    exact (List.mergeSort_perm live runsNoLater).map _
  exact hperm.nodup_iff.mpr hr.handles

/-- A live entry is the only one with its handle. -/
private lemma eq_of_handle (hr : r.Keeps live) {e f : RegisteredHandler H} (he : e ∈ live)
    (hf : f ∈ live) (h : e.handle = f.handle) : e = f :=
  List.inj_on_of_nodup_map hr.handles he hf h

lemma find?_eq_none_iff (hr : r.Keeps live) :
    r.find? h = none ↔ ∀ f ∈ live, f.handle ≠ h := by
  unfold find?
  rw [List.find?_eq_none]
  simp only [hr.mem_iff, beq_iff_eq, ne_eq]

lemma find?_eq_some (hr : r.Keeps live) {e : RegisteredHandler H} (hfind : r.find? h = some e) :
    e ∈ live ∧ e.handle = h := by
  unfold find? at hfind
  refine ⟨(hr.mem_iff e).mp (List.mem_of_find?_eq_some hfind), ?_⟩
  have hhandle : (e.handle == h) = true :=
    List.find?_some (p := fun e : RegisteredHandler H => e.handle == h) hfind
  exact beq_iff_eq.mp hhandle

/-- Whether something holds of the live entry with a handle is asked of the entry that is found. -/
private lemma exists_iff_of_find? (hr : r.Keeps live) {e : RegisteredHandler H}
    (hfind : r.find? h = some e) (P : RegisteredHandler H → Prop) :
    (∃ f ∈ live, f.handle = h ∧ P f) ↔ P e := by
  obtain ⟨hmem, hhandle⟩ := hr.find?_eq_some hfind
  constructor
  · rintro ⟨f, hf, hfh, hP⟩
    rwa [hr.eq_of_handle hmem hf (hhandle.trans hfh.symm)]
  · intro hP
    exact ⟨e, hmem, hhandle, hP⟩

/-! ## Each request -/

/-- Registering an entry that is unlike all live ones, under a new handle. -/
lemma insert (hr : r.Keeps live) {e : RegisteredHandler H}
    (hnew : ∀ f ∈ live, f.handle ≠ e.handle)
    (hunlike : ∀ f ∈ live, ¬ (f.description = e.description ∧ f.signal = e.signal)) :
    (r.insert e).Keeps (live ++ [e]) where
  ordered := inOrder_insert e hr.ordered
  classes p := by
    rw [ofPriority_insert e hr.ordered, ofPriority_append, ofPriority_append, hr.classes]
  handles := by
    rw [List.map_append, List.nodup_append]
    refine ⟨hr.handles, List.pairwise_singleton _ _, ?_⟩
    intro a ha b hb
    obtain ⟨f, hf, rfl⟩ := List.mem_map.mp ha
    rw [List.map_singleton, List.mem_singleton] at hb
    exact hb ▸ hnew f hf
  unlike := by
    rw [List.pairwise_append]
    refine ⟨hr.unlike, List.pairwise_singleton _ e, ?_⟩
    intro f hf g hg
    rw [List.mem_singleton] at hg
    exact hg ▸ hunlike f hf

/-- Where handles are unique, erasing the first entry with a handle erases all of them. -/
private lemma eraseP_eq_filter {es : List (RegisteredHandler H)}
    (hes : (es.map (·.handle)).Nodup) (h : HandlerHandle) :
    (es.eraseP fun e => e.handle == h) = es.filter fun e => e.handle != h := by
  induction es with
  | nil => rfl
  | cons e es ih =>
    rw [List.map_cons, List.nodup_cons] at hes
    by_cases he : e.handle = h
    · have hrest : ∀ f ∈ es, f.handle ≠ h := by
        intro f hf hfh
        exact hes.1 (List.mem_map.mpr ⟨f, hf, hfh.trans he.symm⟩)
      have hkept : (es.filter fun e => e.handle != h) = es :=
        List.filter_eq_self.mpr fun f hf => bne_iff_ne.mpr (hrest f hf)
      simp [he, hkept]
    · simp [he, ih hes.2]

/-- Removing the entry with a handle. -/
lemma erase (hr : r.Keeps live) (h : HandlerHandle) :
    ({ entries := r.entries.eraseP fun e => e.handle == h } : Registry H).Keeps
      (live.filter fun e => e.handle != h) := by
  rw [eraseP_eq_filter hr.nodup_handles]
  exact {
    ordered := hr.ordered.filter _
    classes := fun p => by
      have hcomm : ∀ es : List (RegisteredHandler H),
          ofPriority p (es.filter fun e => e.handle != h) =
            (ofPriority p es).filter fun e => e.handle != h := by
        intro es
        simp only [ofPriority, List.filter_filter, Bool.and_comm]
      rw [hcomm, hcomm, hr.classes]
    handles := (List.filter_sublist.map _).nodup hr.handles
    unlike := hr.unlike.filter _ }

/-- Where handles are unique, giving the first entry with a handle to an owner gives all of them. -/
private lemma setOwner_eq_map {es : List (RegisteredHandler H)}
    (hes : (es.map (·.handle)).Nodup) (h : HandlerHandle) (owner : Registrar) :
    setOwner h owner es = es.map fun e => if e.handle == h then { e with owner } else e := by
  induction es with
  | nil => rfl
  | cons e es ih =>
    rw [List.map_cons, List.nodup_cons] at hes
    rw [setOwner, List.map_cons]
    by_cases he : e.handle = h
    · have hrest : ∀ f ∈ es, (if f.handle == h then { f with owner } else f) = f := by
        intro f hf
        have hfh : f.handle ≠ h :=
          fun hfh => hes.1 (List.mem_map.mpr ⟨f, hf, hfh.trans he.symm⟩)
        rw [if_neg (by simp [hfh])]
      rw [if_pos (beq_iff_eq.mpr he), if_pos (beq_iff_eq.mpr he), List.map_congr_left hrest,
        List.map_id']
    · rw [if_neg (by simp [he]), if_neg (by simp [he]), ih hes.2]

/-- Giving the entry with a handle to another owner. -/
lemma setOwner (hr : r.Keeps live) (h : HandlerHandle) (owner : Registrar) :
    ({ entries := Registry.setOwner h owner r.entries } : Registry H).Keeps
      (live.map fun e => if e.handle == h then { e with owner } else e) := by
  rw [setOwner_eq_map hr.nodup_handles]
  -- only the owner changes
  have hsame : ∀ e : RegisteredHandler H, ∀ g,
      g = (if e.handle == h then { e with owner } else e) →
        g.priority = e.priority ∧ g.handle = e.handle ∧ g.description = e.description ∧
          g.signal = e.signal := by
    rintro e g rfl
    split <;> exact ⟨rfl, rfl, rfl, rfl⟩
  exact {
    ordered := by
      refine List.pairwise_map.mpr (hr.ordered.imp fun {e f} hle => ?_)
      rwa [(hsame e _ rfl).1, (hsame f _ rfl).1]
    classes := fun p => by
      have hcomm : ∀ es : List (RegisteredHandler H),
          ofPriority p (es.map fun e => if e.handle == h then { e with owner } else e) =
            (ofPriority p es).map fun e => if e.handle == h then { e with owner } else e := by
        intro es
        unfold ofPriority
        rw [List.filter_map]
        congr 2
        funext e
        show ((if e.handle == h then { e with owner } else e).priority == p) = _
        rw [(hsame e _ rfl).1]
      rw [hcomm, hcomm, hr.classes]
    handles := by
      have hmap : (live.map fun e => if e.handle == h then { e with owner } else e).map
          (·.handle) = live.map (·.handle) := by
        rw [List.map_map]
        exact List.map_congr_left fun e _ => (hsame e _ rfl).2.1
      rw [hmap]
      exact hr.handles
    unlike := by
      refine List.pairwise_map.mpr (hr.unlike.imp fun {e f} hne => ?_)
      rwa [(hsame e _ rfl).2.2.1, (hsame f _ rfl).2.2.1, (hsame e _ rfl).2.2.2,
        (hsame f _ rfl).2.2.2] }

/-- A registration clashes with an entry of the registry if it does with a live one. -/
private lemma any_clashes_iff (hr : r.Keeps live) (e : RegisteredHandler H) :
    (r.entries.any (·.clashes e)) = true ↔
      ∃ f ∈ live, f.description = e.description ∧ f.signal = e.signal := by
  simp only [List.any_eq_true, hr.mem_iff, clashes, Bool.and_eq_true, beq_iff_eq]

/-- A request about the entry with a handle is answered by whether there is one, and whether it
allows the request. -/
private lemma answered_of_find? (hr : r.Keeps live) {allows : RegisteredHandler H → Bool}
    {answer : Except TrapFailure Unit}
    (hnone : r.find? h = none → answer = .error .handlerNotFound)
    (hsome : ∀ e, r.find? h = some e →
      answer = if allows e then .ok () else .error .permissionDenied) :
    (answer = .error .handlerNotFound ↔ ∀ f ∈ live, f.handle ≠ h) ∧
    (answer = .error .permissionDenied ↔ ∃ f ∈ live, f.handle = h ∧ allows f = false) ∧
    (answer = .ok () ∨ answer = .error .handlerNotFound ∨ answer = .error .permissionDenied) := by
  cases hfind : r.find? h with
  | none =>
    have hunknown := hr.find?_eq_none_iff.mp hfind
    rw [hnone hfind]
    refine ⟨⟨fun _ => hunknown, fun _ => rfl⟩, ⟨nofun, ?_⟩, .inr (.inl rfl)⟩
    rintro ⟨f, hf, hhandle, -⟩
    exact absurd hhandle (hunknown f hf)
  | some e =>
    obtain ⟨hmem, hhandle⟩ := hr.find?_eq_some hfind
    rw [hsome e hfind, hr.exists_iff_of_find? hfind fun f => allows f = false]
    cases allows e with
    | true => exact ⟨⟨nofun, fun h => absurd hhandle (h e hmem)⟩, ⟨nofun, nofun⟩, .inl rfl⟩
    | false =>
      exact ⟨⟨nofun, fun h => absurd hhandle (h e hmem)⟩, ⟨fun _ => rfl, fun _ => rfl⟩,
        .inr (.inr rfl)⟩

/-- Every request is answered by what lives, and the registry keeps what lives then. -/
theorem apply (hr : r.Keeps live) {request : RegistryRequest H}
    (hnew : ∀ handle, request.newHandle? = some handle → ∀ f ∈ live, f.handle ≠ handle) :
    request.Answered live (request.answer r) ∧
      (request.next r).Keeps (request.outcome live (request.answer r)) := by
  cases request with
  | register e =>
    have hclash := hr.any_clashes_iff e
    by_cases h : (r.entries.any (·.clashes e)) = true
    · have happly : r.register e = .error .duplicateHandler := if_pos h
      simp only [RegistryRequest.answer, RegistryRequest.next, RegistryRequest.apply, happly]
      exact ⟨⟨⟨fun _ => hclash.mp h, fun _ => rfl⟩, .inr rfl⟩, hr⟩
    · have happly : r.register e = .ok (r.insert e) := if_neg h
      have hunlike : ∀ f ∈ live, ¬ (f.description = e.description ∧ f.signal = e.signal) :=
        fun f hf hlike => h (hclash.mpr ⟨f, hf, hlike⟩)
      simp only [RegistryRequest.answer, RegistryRequest.next, RegistryRequest.apply, happly]
      refine ⟨⟨⟨nofun, ?_⟩, .inl rfl⟩, hr.insert (hnew e.handle rfl) hunlike⟩
      rintro ⟨f, hf, hlike⟩
      exact absurd hlike (hunlike f hf)
  | unregister h requester =>
    refine ⟨hr.answered_of_find? (fun hfind => ?_) (fun e hfind => ?_), ?_⟩
    · simp only [RegistryRequest.answer, RegistryRequest.apply, unregister, hfind]
      rfl
    · simp only [RegistryRequest.answer, RegistryRequest.apply, unregister, hfind]
      cases e.removableBy requester <;> rfl
    · simp only [RegistryRequest.answer, RegistryRequest.next, RegistryRequest.apply, unregister]
      cases r.find? h with
      | none => exact hr
      | some e =>
        dsimp only
        cases e.removableBy requester with
        | true => exact hr.erase h
        | false => exact hr
  | transfer h requester owner =>
    refine ⟨hr.answered_of_find? (fun hfind => ?_) (fun e hfind => ?_), ?_⟩
    · simp only [RegistryRequest.answer, RegistryRequest.apply, transfer, hfind]
      rfl
    · simp only [RegistryRequest.answer, RegistryRequest.apply, transfer, hfind]
      cases e.transferableBy requester <;> rfl
    · simp only [RegistryRequest.answer, RegistryRequest.next, RegistryRequest.apply, transfer]
      cases r.find? h with
      | none => exact hr
      | some e =>
        dsimp only
        cases e.transferableBy requester with
        | true => exact hr.setOwner h owner
        | false => exact hr

end Registry.Keeps

end ManagedFaults
