import ManagedFaults.Proofs.Handler.Asking
import ManagedFaults.Proofs.Handler.Live
import ManagedFaults.Proofs.Handler.Registration
import ManagedFaults.Proofs.Trap.Justification

/-!
# Histories of the registry

A request to the registry runs the code of the handler that is removed or refused, but does to the
registry just what the registry answers (`RegistryRequest.served`).  So after any history of
requests the registry holds the live entries, and signals are offered to them in the order of
their priorities (`registry_history`).
-/

namespace ManagedFaults

open RegisteredHandler RegistryRequest

/-! ## Requests -/

namespace RegistryRequest

/-- Makes a request, and has a handler that is removed or refused dropped. -/
def run (sv : Services) : RegistryRequest ChainedHandler → TrapM (Except TrapFailure Unit)
  | .register e => return (← Registration.add sv e).map fun _ => ()
  | .unregister h requester => Registration.remove sv h requester
  | .transfer h requester owner => Registration.transfer h requester owner

/-- What became of a request that was made in state `s`: it was answered, or the code of a dropped
handler has ended the thread.  Either way the registry is what the request makes of it. -/
inductive Served (sv : Services) (request : RegistryRequest ChainedHandler) (s : ProcessState) :
    Prop
  | answered {t : ProcessState} (run : (request.run sv).run s = .ok (request.answer s.registry) t)
      (registry : t.registry = request.next s.registry) (free : t.lock = {})
  | ended {e : Ending} {t m : ProcessState} (handler : ChainedHandler)
      (run : (request.run sv).run s = .error e t) (drop : (handler.drop sv).run m = .error e t)
      (registry : t.registry = request.next s.registry)

section Serve

variable {sys : Dispatcher} {room : Nat} {s : ProcessState}

private lemma answer_of_ok {r r' : Registry ChainedHandler}
    {request : RegistryRequest ChainedHandler} (h : request.apply r = .ok r') :
    request.answer r = .ok () ∧ request.next r = r' := by
  unfold answer next
  rw [h]
  exact ⟨rfl, rfl⟩

private lemma answer_of_error {r : Registry ChainedHandler} {failure : TrapFailure}
    {request : RegistryRequest ChainedHandler} (h : request.apply r = .error failure) :
    request.answer r = .error failure ∧ request.next r = r := by
  unfold answer next
  rw [h]
  exact ⟨rfl, rfl⟩

private lemma served_register (e : RegisteredHandler ChainedHandler) (hfree : s.lock = {}) :
    Served (services sys room) (.register e) s := by
  cases hregister : s.registry.register e with
  | ok registry =>
    obtain ⟨hanswer, hnext⟩ := answer_of_ok (show apply s.registry (.register e) = _ from hregister)
    refine .answered (t := s.changed registry) ?_ hnext.symm rfl
    rw [hanswer]
    exact TrapM.run_bind_of_ok (Registration.run_add_of_ok hfree hregister)
  | error failure =>
    obtain ⟨hanswer, hnext⟩ :=
      answer_of_error (show apply s.registry (.register e) = _ from hregister)
    have hadd : (Registration.add (services sys room) e).run s = _ :=
      Registration.run_add_of_error hfree hregister
    have hdrop := drop_sameRegistry sys room e.handler (s.changed s.registry)
    cases hdropped : (e.handler.drop (services sys room)).run (s.changed s.registry) with
    | ok _ t =>
      rw [hdropped] at hdrop
      rw [TrapM.run_bind_of_ok hdropped] at hadd
      refine .answered (t := t) ?_ (hdrop.1.trans hnext.symm) hdrop.2
      rw [hanswer]
      exact TrapM.run_bind_of_ok hadd
    | error ending t =>
      rw [hdropped] at hdrop
      rw [TrapM.run_bind_of_error hdropped] at hadd
      exact .ended e.handler (TrapM.run_bind_of_error hadd) hdropped (Eq.trans hdrop hnext.symm)

private lemma served_unregister (h : HandlerHandle) (requester : Registrar)
    (hfree : s.lock = {}) : Served (services sys room) (.unregister h requester) s := by
  cases hremove : s.registry.unregister h requester with
  | error failure =>
    have happly : RegistryRequest.apply s.registry (.unregister h requester) = .error failure := by
      simp only [apply, hremove]
      rfl
    obtain ⟨hanswer, hnext⟩ := answer_of_error happly
    refine .answered (t := s.changed s.registry) ?_ hnext.symm rfl
    rw [hanswer]
    exact Registration.run_remove_of_error hfree hremove
  | ok removed =>
    obtain ⟨e, registry⟩ := removed
    have happly : RegistryRequest.apply s.registry (.unregister h requester) = .ok registry := by
      simp only [apply, hremove]
      rfl
    obtain ⟨hanswer, hnext⟩ := answer_of_ok happly
    have hrun : (Registration.remove (services sys room) h requester).run s = _ :=
      Registration.run_remove_of_ok hfree hremove
    -- the lock is still held while the entry is dropped
    have hdrop := drop_sameRegistry sys room e.handler (s.changing registry)
    cases hdropped : (e.handler.drop (services sys room)).run (s.changing registry) with
    | ok _ t =>
      rw [hdropped] at hdrop
      rw [TrapM.run_bind_of_ok hdropped] at hrun
      refine .answered (t := { t with lock := { t.lock with writing := false } }) ?_
        (hdrop.1.trans hnext.symm) ?_
      · rw [hanswer]
        exact hrun
      · rw [hdrop.2]
        rfl
    | error ending t =>
      rw [hdropped] at hdrop
      rw [TrapM.run_bind_of_error hdropped] at hrun
      exact .ended e.handler hrun hdropped (Eq.trans hdrop hnext.symm)

private lemma served_transfer (h : HandlerHandle) (requester owner : Registrar)
    (hfree : s.lock = {}) : Served (services sys room) (.transfer h requester owner) s := by
  have hrun := Registration.run_transfer h requester owner hfree
  cases htransfer : s.registry.transfer h requester owner with
  | ok registry =>
    rw [htransfer] at hrun
    obtain ⟨hanswer, hnext⟩ := answer_of_ok
      (show apply s.registry (.transfer h requester owner) = _ from htransfer)
    refine .answered (t := s.changed registry) ?_ hnext.symm rfl
    rw [hanswer]
    exact hrun
  | error failure =>
    rw [htransfer] at hrun
    obtain ⟨hanswer, hnext⟩ := answer_of_error
      (show apply s.registry (.transfer h requester owner) = _ from htransfer)
    refine .answered (t := s.changed s.registry) ?_ hnext.symm rfl
    rw [hanswer]
    exact hrun

/-- A request to a registry that is not in use does what the registry answers, unless the code of
a dropped handler ends the thread. -/
theorem served (request : RegistryRequest ChainedHandler) (hfree : s.lock = {}) :
    request.Served (services sys room) s := by
  cases request with
  | register e => exact served_register e hfree
  | unregister h requester => exact served_unregister h requester hfree
  | transfer h requester owner => exact served_transfer h requester owner hfree

end Serve

end RegistryRequest

/-! ## Histories -/

/-- Makes one request after the other. -/
def RegistryRequest.runAll (sv : Services) (requests : List (RegistryRequest ChainedHandler)) :
    TrapM (List (Except TrapFailure Unit)) :=
  requests.mapM (RegistryRequest.run sv)

section History

variable {sys : Dispatcher} {room : Nat}

/-- A history that was answered began with an answer to the first request. -/
lemma runAll_cons {sv : Services} {request : RegistryRequest ChainedHandler}
    {requests : List (RegistryRequest ChainedHandler)} {answers : List (Except TrapFailure Unit)}
    {s t : ProcessState} (h : (runAll sv (request :: requests)).run s = .ok answers t) :
    ∃ answer others m, answers = answer :: others ∧
      (request.run sv).run s = .ok answer m ∧ (runAll sv requests).run m = .ok others t := by
  unfold runAll at h
  rw [List.mapM_cons] at h
  cases hfirst : (request.run sv).run s with
  | error e m =>
    rw [TrapM.run_bind_of_error hfirst] at h
    simp at h
  | ok answer m =>
    rw [TrapM.run_bind_of_ok hfirst] at h
    cases hothers : (requests.mapM (RegistryRequest.run sv)).run m with
    | error e n =>
      rw [TrapM.run_bind_of_error hothers] at h
      simp at h
    | ok others n =>
      rw [TrapM.run_bind_of_ok hothers, EStateM.run_pure, EStateM.Result.ok.injEq] at h
      obtain ⟨rfl, rfl⟩ := h
      exact ⟨answer, others, m, rfl, rfl, hothers⟩

/-- Whatever lives after a request lived before, or was to be registered by it. -/
private lemma handle_of_outcome {live : List (RegisteredHandler ChainedHandler)}
    {request : RegistryRequest ChainedHandler} {answer : Except TrapFailure Unit}
    {f : RegisteredHandler ChainedHandler} (hf : f ∈ request.outcome live answer) :
    (∃ g ∈ live, g.handle = f.handle) ∨ request.newHandle? = some f.handle := by
  cases answer with
  | error failure => exact .inl ⟨f, hf, rfl⟩
  | ok _ =>
    cases request with
    | register e =>
      rcases List.mem_append.mp hf with hlive | hnew
      · exact .inl ⟨f, hlive, rfl⟩
      · obtain rfl := List.mem_singleton.mp hnew
        exact .inr rfl
    | unregister h requester => exact .inl ⟨f, (List.mem_filter.mp hf).1, rfl⟩
    | transfer h requester owner =>
      obtain ⟨g, hg, rfl⟩ := List.mem_map.mp hf
      refine .inl ⟨g, hg, ?_⟩
      split <;> rfl

/-- A request that returns an answer returns that of the registry, and gives the lock back. -/
lemma of_run_ok {request : RegistryRequest ChainedHandler} {answer : Except TrapFailure Unit}
    {s t : ProcessState} (hfree : s.lock = {})
    (hrun : (request.run (services sys room)).run s = .ok answer t) :
    answer = request.answer s.registry ∧ t.registry = request.next s.registry ∧ t.lock = {} := by
  cases request.served hfree with
  | ended handler hended hdrop hregistry =>
    rw [hended] at hrun
    simp at hrun
  | answered hanswered hregistry hthen =>
    rw [hanswered, EStateM.Result.ok.injEq] at hrun
    obtain ⟨rfl, rfl⟩ := hrun
    exact ⟨rfl, hregistry, hthen⟩

/-- A request that was answered leaves the registry with what lives then. -/
private lemma keeps_of_run {request : RegistryRequest ChainedHandler}
    {live : List (RegisteredHandler ChainedHandler)} {answer : Except TrapFailure Unit}
    {s t : ProcessState} (hfree : s.lock = {}) (hlive : s.registry.Keeps live)
    (hnew : ∀ handle, request.newHandle? = some handle → ∀ f ∈ live, f.handle ≠ handle)
    (hrun : (request.run (services sys room)).run s = .ok answer t) :
    t.lock = {} ∧ t.registry.Keeps (request.outcome live answer) := by
  obtain ⟨rfl, hregistry, hthen⟩ := of_run_ok hfree hrun
  rw [hregistry]
  exact ⟨hthen, (hlive.apply hnew).2⟩

/-- After a history of requests the registry keeps what lives then, which lived before or was to
be registered by one of them. -/
lemma keeps_of_history {requests : List (RegistryRequest ChainedHandler)}
    {answers : List (Except TrapFailure Unit)} {live : List (RegisteredHandler ChainedHandler)}
    {s t : ProcessState} (hfree : s.lock = {}) (hlive : s.registry.Keeps live)
    (hfresh : (newHandles requests).Nodup)
    (hnew : ∀ handle ∈ newHandles requests, ∀ f ∈ live, f.handle ≠ handle)
    (hrun : (runAll (services sys room) requests).run s = .ok answers t) :
    t.lock = {} ∧ t.registry.Keeps (liveFrom live (requests.zip answers)) ∧
    ∀ f ∈ liveFrom live (requests.zip answers),
      (∃ g ∈ live, g.handle = f.handle) ∨ f.handle ∈ newHandles requests := by
  -- what lives changes with every request, and the handles that are still to come are not in it
  induction requests generalizing s live answers with
  | nil =>
    have hdone : EStateM.Result.ok [] s = .ok answers t := hrun
    rw [EStateM.Result.ok.injEq] at hdone
    obtain ⟨rfl, rfl⟩ := hdone
    exact ⟨hfree, hlive, fun f hf => .inl ⟨f, hf, rfl⟩⟩
  | cons request requests ih =>
    obtain ⟨answer, others, m, rfl, hfirst, hothers⟩ := runAll_cons hrun
    rw [newHandles_cons] at hfresh hnew ⊢
    obtain ⟨-, hfresh', hapart⟩ := List.nodup_append.mp hfresh
    have hfirstNew : ∀ handle, request.newHandle? = some handle →
        handle ∈ request.newHandle?.toList := by
      intro handle hhandle
      rw [hhandle]
      exact List.mem_singleton_self handle
    obtain ⟨hfree', hlive'⟩ := keeps_of_run hfree hlive
      (fun handle hhandle => hnew handle (List.mem_append_left _ (hfirstNew handle hhandle)))
      hfirst
    have hnew' : ∀ handle ∈ newHandles requests, ∀ f ∈ request.outcome live answer,
        f.handle ≠ handle := by
      intro handle hhandle f hf
      rcases handle_of_outcome hf with ⟨g, hg, hsame⟩ | hregistered
      · rw [← hsame]
        exact hnew handle (List.mem_append_right _ hhandle) g hg
      · exact hapart f.handle (hfirstNew f.handle hregistered) handle hhandle
    obtain ⟨hfreeEnd, hliveEnd, hhandlesEnd⟩ := ih hfree' hlive' hfresh' hnew' hothers
    refine ⟨hfreeEnd, hliveEnd, fun f hf => ?_⟩
    rcases hhandlesEnd f hf with ⟨g, hg, hsame⟩ | hlater
    · rcases handle_of_outcome hg with ⟨g', hg', hsame'⟩ | hregistered
      · exact .inl ⟨g', hg', hsame'.trans hsame⟩
      · exact .inr (List.mem_append_left _ (hfirstNew f.handle (hsame ▸ hregistered)))
    · exact .inr (List.mem_append_right _ hlater)

/-- Requests of any kind are made to an empty registry, each registration under a new handle.
Then the registry is the stable sort, by priority, of the live entries, no two of which have the
same description and signal.  The next request is answered by what lives, unless the code of a
dropped handler ends the thread, and a request that fails changes nothing.  A signal is offered to
the live entries that accept it, in the order of the registry, each once and up to the first that
handles it, unless one of them ends the thread. -/
theorem registry_history (sys : Dispatcher) (room : Nat)
    {requests : List (RegistryRequest ChainedHandler)}
    {answers : List (Except TrapFailure Unit)} {s t : ProcessState}
    (hempty : s.registry = {}) (hfree : s.lock = {})
    (hfresh : (newHandles requests).Nodup)
    (hrun : (runAll (services sys room) requests).run s = .ok answers t) :
    t.registry.entries = stableSort (liveAfter (requests.zip answers)) ∧
    (liveAfter (requests.zip answers)).Pairwise
      (fun e f => ¬ (e.description = f.description ∧ e.signal = f.signal)) ∧
    (∀ request : RegistryRequest ChainedHandler,
      (∀ handle, request.newHandle? = some handle → handle ∉ newHandles requests) →
      request.Served (services sys room) t ∧
      request.Answered (liveAfter (requests.zip answers)) (request.answer t.registry) ∧
      (request.answer t.registry ≠ .ok () → request.next t.registry = t.registry)) ∧
    ∀ info raw,
      (∀ handled u, (dispatch sys (services sys room) info raw).run t = .ok handled u ↔
        ∃ asked m,
          TrapM.Asked (offerTo sys (services sys room) info raw) (t.offering info.signal)
            asked m ∧
          UntilAgreed
            ((stableSort (liveAfter (requests.zip answers))).filter (·.accepts info.signal))
            asked ∧
          handled = anyAgreed asked ∧ u = m.doneOffering) ∧
      (∀ e u, (dispatch sys (services sys room) info raw).run t = .error e u →
        ∃ asked entry m,
          TrapM.Asked (offerTo sys (services sys room) info raw) (t.offering info.signal)
            asked m ∧
          (∀ x ∈ asked, x.2 = false) ∧
          asked.map Prod.fst ++ [entry] <+:
            (stableSort (liveAfter (requests.zip answers))).filter (·.accepts info.signal) ∧
          (offerTo sys (services sys room) info raw entry).run m = .error e u) := by
  have hstart : s.registry.Keeps [] := hempty ▸ Registry.Keeps.empty
  obtain ⟨hthen, hlive, hhandles⟩ := keeps_of_history hfree hstart hfresh
    (fun _ _ _ hnone => absurd hnone List.not_mem_nil) hrun
  have hsorted : t.registry.entries = stableSort (liveAfter (requests.zip answers)) :=
    hlive.eq_stableSort
  have hwriting : t.lock.writing = false := by rw [hthen]
  refine ⟨hsorted, hlive.unlike, fun request hnew => ⟨request.served hthen, ?_, ?_⟩,
    fun info raw => ⟨fun handled u => ?_, fun e u herror => ?_⟩⟩
  · refine (hlive.apply ?_).1
    rintro handle hhandle f hf rfl
    rcases hhandles f hf with ⟨g, hg, -⟩ | hrequested
    · exact absurd hg List.not_mem_nil
    · exact hnew f.handle hhandle hrequested
  · intro hfails
    unfold RegistryRequest.answer at hfails
    unfold RegistryRequest.next
    cases happly : request.apply t.registry with
    | ok registry =>
      rw [happly] at hfails
      exact absurd rfl hfails
    | error failure => rfl
  · rw [dispatch_run_ok_iff hwriting, ← hsorted]
    rfl
  · rw [← hsorted]
    exact dispatch_run_error hwriting herror

end History

/-- The requests of two programs: a late handler that handles everything, an early one that handles
nothing, the late one again, and an attempt of somebody else to remove the early one. -/
def RegistryRequest.ofTwoPrograms : List (RegistryRequest ChainedHandler) :=
  [.register
    { handler := .answering true, priority := 9, description := "late", signal := none
      protection := .user, owner := 2, handle := 1 },
   .register
    { handler := .answering false, priority := 3, description := "early", signal := some .segv
      protection := .user, owner := 3, handle := 2 },
   .register
    { handler := .answering true, priority := 1, description := "late", signal := none
      protection := .user, owner := 2, handle := 3 },
   .unregister 2 2]

/-- The early handler is asked first, and the late one, which handles the signal, stays the only
one of its description. -/
theorem early_before_late :
    ∃ t u,
      (runAll (services .silent 0) ofTwoPrograms).run default =
        .ok [.ok (), .ok (), .error .duplicateHandler, .error .permissionDenied] t ∧
      t.registry.entries.map (·.handle) = [2, 1] ∧
      t.registry.entries =
        stableSort (liveAfter (ofTwoPrograms.zip
          [.ok (), .ok (), .error .duplicateHandler, .error .permissionDenied])) ∧
      (dispatch .silent (services .silent 0) { signal := .segv } default).run t = .ok true u := by
  have hrun : (runAll (services .silent 0) ofTwoPrograms).run default =
      .ok [.ok (), .ok (), .error .duplicateHandler, .error .permissionDenied] _ := rfl
  have hhistory := registry_history .silent 0 rfl rfl (by decide) hrun
  exact ⟨_, _, hrun, rfl, hhistory.1, rfl⟩

end ManagedFaults
