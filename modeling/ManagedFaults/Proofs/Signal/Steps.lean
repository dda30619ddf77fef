import ManagedFaults.Proofs.Handler.Registration
import ManagedFaults.Proofs.Trap.Nested
import ManagedFaults.Signal.Install

/-!
# The steps of an installation

Taking over one signal is refused by the kernel, or replaces an action with which nothing is lost,
or keeps the replaced action, which the registry may refuse (`TakesOver`).  All that installing does
is composed of these steps and of undoing them, so that a frame that allows each part allows the
whole (`installEntry_within`).
-/

namespace ManagedFaults

/-! ## Tables of actions -/

/-- An action of other code: neither the trap entry nor the default one. -/
def SignalAction.Foreign (a : SignalAction) : Prop :=
  a.handler ≠ .trapEntry ∧ a.handler ≠ .default

instance (a : SignalAction) : Decidable a.Foreign :=
  inferInstanceAs (Decidable (_ ∧ _))

namespace ActionTable

/-- The table is one that the kernel holds: no mask of it has a signal that cannot be blocked. -/
def Stored (t : ActionTable) : Prop :=
  ∀ n, (t.action n).mask.stored = (t.action n).mask

/-- The table after an action was accepted. -/
def put (t : ActionTable) (n : Int32) (a : SignalAction) : ActionTable :=
  { t with action := fun m => if m = n then { a with mask := a.mask.stored } else t.action m }

lemma stored_default : ({} : ActionTable).Stored :=
  fun _ => rfl

/-- Whatever is put into a table, it stays one that the kernel holds. -/
lemma Stored.put {t : ActionTable} (h : t.Stored) (n : Int32) (a : SignalAction) :
    (t.put n a).Stored := by
  intro m
  unfold ActionTable.put
  dsimp only
  split
  · exact SignalSet.stored_stored a.mask
  · exact h m

end ActionTable

section SetAction

variable {s : ProcessState} {signo errno : Int32}

lemma run_setAction_of_accepted (h : s.actions.refusal signo = none) (a : SignalAction) :
    (setAction signo a).run s =
      .ok (.ok (s.actions.action signo)) { s with actions := s.actions.put signo a } := by
  have hreplace : s.actions.replace signo a =
      .ok (s.actions.action signo, s.actions.put signo a) := by
    unfold ActionTable.replace
    rw [h]
    rfl
  unfold setAction
  rw [TrapM.run_get_bind]
  dsimp only
  rw [hreplace]
  rfl

lemma run_setAction_of_refused (h : s.actions.refusal signo = some errno) (a : SignalAction) :
    (setAction signo a).run s = .ok (.error errno) { s with os := { s.os with errno } } := by
  have hreplace : s.actions.replace signo a = .error errno := by
    unfold ActionTable.replace
    rw [h]
  unfold setAction
  rw [TrapM.run_get_bind]
  dsimp only
  rw [hreplace]
  rfl

end SetAction

/-! ## Taking over one signal -/

/-- The entry under which a replaced action is kept. -/
def keptEntry (signal : Signal) (slot : Nat) (handle : HandlerHandle) :
    RegisteredHandler ChainedHandler :=
  { handler := .previous slot
    priority := keptPriority
    description := keptDescription
    signal := some signal
    protection := .runtime
    owner := runtimeRegistrar
    handle }

namespace ProcessState

variable (s : ProcessState) (signal : Signal)

/-- The process in which the trap entry is the action of a signal. -/
def replacing : ProcessState :=
  { s with actions := s.actions.put signal.number entryAction }

/-- The process in which the replaced action of a signal has its number and a handle, and the
registry is asked to take its entry. -/
def keeping : ProcessState :=
  { s.replacing signal with
    scene := s.scene.say .info (signal.text ++ ": chaining to previously installed handler "
      ++ (s.actions.action signal.number).handler.word.hex)
    previous := s.previous ++ [{ signal, action := s.actions.action signal.number }]
    nextHandle := s.nextHandle + 1 }

/-- The entry that the registry is asked to take. -/
def nextEntry : RegisteredHandler ChainedHandler :=
  keptEntry signal s.previous.length s.nextHandle

/-- The step of taking over a signal, with the handle of its entry if there is one. -/
def stepOver (handle : Option HandlerHandle) : Replaced :=
  { signo := signal.number, before := s.actions.action signal.number, handle }

end ProcessState

/-- What taking over a signal can do: the step it gives, its result, and the process it leaves. -/
inductive TakesOver (s : ProcessState) (signal : Signal) :
    Option Replaced → Except TrapFailure Unit → ProcessState → Prop
  /-- The kernel refuses. -/
  | refused {errno : Int32} (hrefused : s.actions.refusal signal.number = some errno) :
    TakesOver s signal none (.error (.installRefused errno))
      { s with
        os := { s.os with errno }
        scene := s.scene.say .error
          ("sigaction(" ++ signal.text ++ ") failed: errno " ++ toString errno.toInt) }
  /-- The replaced action is not worth keeping. -/
  | replaced (haccepted : s.actions.refusal signal.number = none)
    (hforeign : ¬ (s.actions.action signal.number).Foreign) :
    TakesOver s signal (some (s.stepOver signal none)) (.ok ()) (s.replacing signal)
  /-- The replaced action is kept. -/
  | kept (haccepted : s.actions.refusal signal.number = none)
    (hforeign : (s.actions.action signal.number).Foreign) (hfree : s.lock = {})
    (hnew : s.registry.entries.any (·.clashes (s.nextEntry signal)) = false) :
    TakesOver s signal (some (s.stepOver signal (some s.nextHandle))) (.ok ())
      ((s.keeping signal).changed (s.registry.insert (s.nextEntry signal)))
  /-- The registry has an entry like that already. -/
  | clashed (haccepted : s.actions.refusal signal.number = none)
    (hforeign : (s.actions.action signal.number).Foreign) (hfree : s.lock = {})
    (hclash : s.registry.entries.any (·.clashes (s.nextEntry signal)) = true) :
    TakesOver s signal (some (s.stepOver signal none)) (.error .duplicateHandler)
      ((s.keeping signal).changed s.registry)

section TakeOver

variable {s t : ProcessState} {sv : Services} {signal : Signal}

/-- The action to be kept gets its number and a handle, and then the registry is asked. -/
private lemma run_keepAction (s : ProcessState) (sv : Services) (signal : Signal) :
    (keepAction sv signal (s.actions.action signal.number)).run
        { s.replacing signal with scene := (s.keeping signal).scene } =
      (Registration.add sv (s.nextEntry signal)).run (s.keeping signal) :=
  rfl

/-- Taking over a signal does nothing else. -/
theorem takesOver_of_run {step : Option Replaced} {result : Except TrapFailure Unit}
    (hrun : (takeOver sv signal).run s = .ok (step, result) t) :
    TakesOver s signal step result t := by
  unfold takeOver at hrun
  dsimp only at hrun
  cases hrefusal : s.actions.refusal signal.number with
  | some errno =>
    rw [TrapM.run_bind_of_ok (run_setAction_of_refused hrefusal entryAction)] at hrun
    obtain ⟨hanswer, rfl⟩ := EStateM.Result.ok.inj hrun
    obtain ⟨rfl, rfl⟩ := Prod.mk.inj hanswer
    exact .refused hrefusal
  | none =>
    rw [TrapM.run_bind_of_ok (run_setAction_of_accepted hrefusal entryAction)] at hrun
    dsimp only at hrun
    split at hrun
    · next hown =>
      obtain ⟨hanswer, rfl⟩ := EStateM.Result.ok.inj hrun
      obtain ⟨rfl, rfl⟩ := Prod.mk.inj hanswer
      exact .replaced hrefusal fun hforeign => hown.elim hforeign.1 hforeign.2
    · next hother =>
      have hforeign : (s.actions.action signal.number).Foreign := not_or.mp hother
      have hsay : (TrapM.say .info (signal.text ++ ": chaining to previously installed handler "
          ++ (s.actions.action signal.number).handler.word.hex)).run (s.replacing signal) =
            .ok () { s.replacing signal with scene := (s.keeping signal).scene } := rfl
      change (TrapM.say .info _ >>= _).run (s.replacing signal) = _ at hrun
      rw [TrapM.run_bind_of_ok hsay, TrapM.run_bind_ok_iff] at hrun
      obtain ⟨kept, m, hadd, hrun⟩ := hrun
      rw [run_keepAction] at hadd
      have hfree : (s.keeping signal).lock = {} := Registration.free_of_run_add hadd
      cases hclash : s.registry.entries.any (·.clashes (s.nextEntry signal)) with
      | true =>
        have hregister : (s.keeping signal).registry.register (s.nextEntry signal) =
            .error .duplicateHandler := if_pos hclash
        have hrefused :=
          (Registration.run_add_previous_of_error rfl hfree hregister).symm.trans hadd
        obtain ⟨rfl, rfl⟩ := EStateM.Result.ok.inj hrefused
        obtain ⟨hanswer, rfl⟩ := EStateM.Result.ok.inj hrun
        obtain ⟨rfl, rfl⟩ := Prod.mk.inj hanswer
        exact .clashed hrefusal hforeign hfree hclash
      | false =>
        have hregister : (s.keeping signal).registry.register (s.nextEntry signal) =
            .ok (s.registry.insert (s.nextEntry signal)) := if_neg (ne_true_of_eq_false hclash)
        have htaken := (Registration.run_add_of_ok hfree hregister).symm.trans hadd
        obtain ⟨rfl, rfl⟩ := EStateM.Result.ok.inj htaken
        obtain ⟨hanswer, rfl⟩ := EStateM.Result.ok.inj hrun
        obtain ⟨rfl, rfl⟩ := Prod.mk.inj hanswer
        exact .kept hrefusal hforeign hfree hclash

/-- An installation takes over its first signal, and goes on with the others or undoes its steps. -/
theorem takesOver_of_run_installAfter {steps : List Replaced} {rest : List Signal}
    {result : Except TrapFailure Unit}
    (hrun : (installAfter sv steps (signal :: rest)).run s = .ok result t) :
    ∃ step taken m, TakesOver s signal step taken m ∧
      ((taken = .ok () ∧ (installAfter sv (steps ++ step.toList) rest).run m = .ok result t) ∨
        ∃ failure, taken = .error failure ∧ result = .error failure ∧
          (undoAll sv (steps ++ step.toList)).run m = .ok () t) := by
  unfold installAfter at hrun
  obtain ⟨⟨step, taken⟩, m, htake, hrun⟩ := TrapM.run_bind_ok_iff.mp hrun
  refine ⟨step, taken, m, takesOver_of_run htake, ?_⟩
  cases taken with
  | ok _ => exact .inl ⟨rfl, hrun⟩
  | error failure =>
    obtain ⟨_, u, hundo, hrun⟩ := TrapM.run_bind_ok_iff.mp hrun
    obtain ⟨rfl, rfl⟩ := EStateM.Result.ok.inj hrun
    exact .inr ⟨failure, rfl, rfl, hundo⟩

end TakeOver

/-! ## Frames of an installation -/

/-- Frames that allow what installing does by itself. -/
structure Frame.AllowsInstall (R E : ProcessState → ProcessState → Prop) (sv : Services) : Prop
    extends Frame.AllowsEntry R E where
  say : ∀ s level text, R s { s with scene := s.scene.say level text }
  keep : ∀ s signal (a : SignalAction), a.Foreign →
    R s { s with previous := s.previous ++ [{ signal, action := a }] }
  count : ∀ s nextHandle, R s { s with nextHandle }
  lock : ∀ s lock, R s { s with lock }
  register : ∀ s registry, R s { s with registry }
  drop : ∀ handler : ChainedHandler, (handler.drop sv).Within R E

namespace Frame.AllowsInstall

variable {R E : ProcessState → ProcessState → Prop} {sv : Services}

section

variable (h : Frame.AllowsInstall R E sv)
include h

private lemma setAction_within (signo : Int32) (a : SignalAction) :
    (setAction signo a).Within R E := by
  intro s
  unfold setAction
  rw [TrapM.run_get_bind]
  split
  · exact h.reset s _
  · exact h.fail s _

private lemma lockRegistry_within : lockRegistry.Within R E := by
  intro s
  unfold lockRegistry
  rw [TrapM.run_get_bind]
  dsimp only
  split
  · exact h.ends (h.refl s)
  · exact h.lock s _

private lemma unlockRegistry_within : unlockRegistry.Within R E :=
  TrapM.within_modify fun s => h.lock s _

private lemma add_within (e : RegisteredHandler ChainedHandler) :
    (Registration.add sv e).Within R E := by
  have hc := h.toChains.composes
  unfold Registration.add
  refine hc.bind h.lockRegistry_within fun _ => hc.bind (fun s => h.refl s) fun s => ?_
  split
  · next registry _ =>
    exact hc.bind (TrapM.within_modify fun s => h.register s registry) fun _ =>
      hc.bind h.unlockRegistry_within fun _ => hc.pure _
  · exact hc.bind h.unlockRegistry_within fun _ => hc.bind (h.drop _) fun _ => hc.pure _

private lemma remove_within (handle : HandlerHandle) (requester : Registrar) :
    (Registration.remove sv handle requester).Within R E := by
  have hc := h.toChains.composes
  unfold Registration.remove
  refine hc.bind h.lockRegistry_within fun _ => hc.bind (fun s => h.refl s) fun s => ?_
  split
  · next e registry _ =>
    exact hc.bind (TrapM.within_modify fun s => h.register s registry) fun _ =>
      hc.bind (h.drop _) fun _ => hc.bind h.unlockRegistry_within fun _ => hc.pure _
  · exact hc.bind h.unlockRegistry_within fun _ => hc.pure _

private lemma keepAction_within (signal : Signal) {a : SignalAction} (ha : a.Foreign) :
    (keepAction sv signal a).Within R E := by
  have hc := h.toChains.composes
  unfold keepAction
  exact hc.bind (fun s => h.keep s signal a ha) fun slot =>
    hc.bind (fun s => h.count s _) fun handle => h.add_within _

private lemma takeOver_within (signal : Signal) : (takeOver sv signal).Within R E := by
  have hc := h.toChains.composes
  have hsay : ∀ level text, (TrapM.say level text).Within R E :=
    fun level text => TrapM.within_modify fun s => h.say s level text
  unfold takeOver
  refine hc.bind (h.setAction_within _ _) fun answer => ?_
  split
  · exact hc.bind (hsay _ _) fun _ => hc.pure _
  · split
    · exact hc.pure _
    · next hother =>
      refine hc.bind (hsay _ _) fun _ =>
        hc.bind (h.keepAction_within _ (not_or.mp hother)) fun kept => ?_
      split <;> exact hc.pure _

private lemma undo_within (step : Replaced) : (undo sv step).Within R E := by
  have hc := h.toChains.composes
  unfold undo
  refine hc.bind (h.setAction_within _ _) fun _ => ?_
  split
  · exact hc.bind (h.remove_within _ _) fun _ => hc.pure _
  · exact hc.pure _

/-- Undoing steps stays within the frame. -/
lemma undoAll_within (steps : List Replaced) : (undoAll sv steps).Within R E := by
  have hc := h.toChains.composes
  have hall : ∀ l : List Replaced, (l.forM (undo sv)).Within R E := by
    intro l
    induction l with
    | nil => exact hc.pure _
    | cons step l ih => exact hc.bind (h.undo_within step) fun _ => ih
  unfold undoAll
  exact hc.bind (hall _) fun _ => TrapM.within_modify fun s => h.say s _ _

private lemma installAfter_within (steps : List Replaced) (signals : List Signal) :
    (installAfter sv steps signals).Within R E := by
  have hc := h.toChains.composes
  induction signals generalizing steps with
  | nil => exact hc.pure _
  | cons signal rest ih =>
    refine hc.bind (h.takeOver_within signal) fun taken => ?_
    dsimp only
    split
    · exact ih _
    · exact hc.bind (h.undoAll_within _) fun _ => hc.pure _

/-- All of an installation stays within a frame that allows each part of it. -/
theorem installEntry_within (signals : List Signal) : (installEntry sv signals).Within R E :=
  h.installAfter_within [] signals

end

end Frame.AllowsInstall

end ManagedFaults
