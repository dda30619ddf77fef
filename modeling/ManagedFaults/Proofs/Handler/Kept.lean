import ManagedFaults.Proofs.Trap.SideBySide

/-!
# Offers to kept actions

A kept action runs as its own flags say, and leaves the mask of the thread as it was.  One that is
to run only once is spent before its function is called.  Whatever the function does, and whatever
happens later, it stays spent, so that further offers are declined without a call
(`kept_action_follows_flags`).
-/

namespace ManagedFaults

open ProcessState TrapM

/-! ## One offer -/

namespace KeptAction

/-- What is left of the action once a signal was offered to it. -/
def offered (p : KeptAction) : KeptAction :=
  match p.action.handler with
  | .default => p
  | .ignore => p
  | _ => p.called

/-- Whether the action accepts a signal that it is offered. -/
def accepts (p : KeptAction) : Bool :=
  !p.isDefault

/-- What is left of an action that was called is not changed by further calls. -/
lemma called_called (p : KeptAction) : p.called.called = p.called := by
  unfold called
  split <;> rfl

/-- Nothing is spent of the default action. -/
lemma called_of_default {p : KeptAction} (h : p.action.handler = .default) : p.called = p := by
  obtain ⟨signal, handler, flags, mask⟩ := p
  obtain rfl : handler = .default := h
  unfold called
  split <;> rfl

lemma called_signal (p : KeptAction) : p.called.signal = p.signal := by
  unfold called
  split <;> rfl

/-- A call leaves the handler, or the default one. -/
lemma called_handler (p : KeptAction) :
    p.called.action.handler = if p.action.flags.resethand then .default else p.action.handler := by
  unfold called
  split <;> rfl

/-- An action that is left by a call accepts a signal if it may run more than once. -/
lemma offered_accepts (p : KeptAction) :
    p.offered.accepts = true ↔
      p.action.handler = .ignore ∨ p.accepts = true ∧ p.action.flags.resethand = false := by
  unfold offered accepts isDefault
  cases hhandler : p.action.handler with
  | default => simp [hhandler]
  | ignore => simp [hhandler]
  | trapEntry => cases hreset : p.action.flags.resethand <;> simp [called_handler, hhandler, hreset]
  | foreign address =>
    cases hreset : p.action.flags.resethand <;> simp [called_handler, hhandler, hreset]

/-- Further offers leave what the first one has left. -/
lemma offered_offered (p : KeptAction) : p.offered.offered = p.offered := by
  have hcalled : p.called.offered = p.called := by
    unfold offered
    split
    · rfl
    · rfl
    · exact p.called_called
  cases hhandler : p.action.handler with
  | default =>
    have hsame : p.offered = p := by
      unfold offered
      rw [hhandler]
    rw [hsame, hsame]
  | ignore =>
    have hsame : p.offered = p := by
      unfold offered
      rw [hhandler]
    rw [hsame, hsame]
  | trapEntry =>
    have hspent : p.offered = p.called := by
      unfold offered
      rw [hhandler]
    rw [hspent, hcalled]
  | foreign address =>
    have hspent : p.offered = p.called := by
      unfold offered
      rw [hhandler]
    rw [hspent, hcalled]

/-- While the action runs, the signals of its mask are blocked, and its own unless it asked for
more of them. -/
lemma runMask_has (p : KeptAction) (husable : isUsableSignal p.signal.number = true) (n : Int32) :
    p.runMask.has n = true ↔
      p.action.mask.has n = true ∨ p.action.flags.nodefer = false ∧ n = p.signal.number := by
  unfold runMask
  cases p.action.flags.nodefer with
  | true => simp
  | false => simp [SignalSet.insert, husable]

end KeptAction

/-- The process in which the function of a kept action runs. -/
def ProcessState.calling (s : ProcessState) (slot : Nat) (p : KeptAction) : ProcessState :=
  { s with
    previous := s.previous.set slot p.called
    os := { s.os with mask := p.runMask.stored } }

/-- The process `t` in which the function of a kept action has returned, once the mask that was in
force in `s` is so again and the call was announced. -/
def ProcessState.backTo (t s : ProcessState) (p : KeptAction) (info : SignalCause) : ProcessState :=
  { t with
    os := { t.os with mask := s.os.mask.stored }
    scene := t.scene.say .debug
      (p.signal.text ++ " forwarded to previous handler (" ++ info.text ++ ")") }

lemma ProcessState.visible_backTo (t s : ProcessState) (p : KeptAction) (info : SignalCause) :
    (t.backTo s p info).visible =
      { t.visible with os := { t.visible.os with mask := s.os.mask.stored } } :=
  congrArg
    (fun scene : Scene =>
      { t.visible with os := { t.visible.os with mask := s.os.mask.stored }, scene })
    (Scene.visible_console (t.scene.console.blank_say _ _))

section Offer

variable {sys : Dispatcher} {sv : Services} {slot : Nat} {s t : ProcessState} {p : KeptAction}

lemma callKept_run (info : SignalCause) (raw : Delivery) :
    (callKept sys sv p info raw).run { s with previous := s.previous.set slot p.called } =
      match (callForeign sys sv p.action.handler (p.arguments raw)).run (s.calling slot p) with
      | .ok () t => .ok true (t.backTo s p info)
      | .error e t => .error e t := by
  have hmask : (setMask p.runMask).run { s with previous := s.previous.set slot p.called } =
      .ok () (s.calling slot p) := rfl
  unfold callKept
  rw [run_get_bind, run_bind_of_ok hmask]
  cases hcall : (callForeign sys sv p.action.handler (p.arguments raw)).run (s.calling slot p) with
  | ok u t =>
    rw [run_bind_of_ok hcall]
    rfl
  | error e t => rw [run_bind_of_error hcall]

variable (hp : s.previous[slot]? = some p)
include hp

lemma tryKept_run_of_default (h : p.action.handler = .default) (info : SignalCause)
    (raw : Delivery) : (tryKept sys sv slot info raw).run s = .ok false s := by
  rw [tryKept_run, hp]
  dsimp only
  rw [h]

lemma tryKept_run_of_ignore (h : p.action.handler = .ignore) (info : SignalCause)
    (raw : Delivery) : (tryKept sys sv slot info raw).run s = .ok true s := by
  rw [tryKept_run, hp]
  dsimp only
  rw [h]

lemma tryKept_run_of_foreign {address : Word} (h : p.action.handler = .foreign address)
    (info : SignalCause) (raw : Delivery) :
    (tryKept sys sv slot info raw).run s =
      match ((sys.runtime.foreign address (p.arguments raw)).run sv).run (s.calling slot p) with
      | .ok _ t => .ok true (t.backTo s p info)
      | .error e t => .error e t := by
  have hcall : (callForeign sys sv p.action.handler (p.arguments raw)).run (s.calling slot p) =
      match ((sys.runtime.foreign address (p.arguments raw)).run sv).run (s.calling slot p) with
      | .ok _ t => .ok () t
      | .error e t => .error e t := by
    rw [h]
    show ((sys.runtime.foreign address (p.arguments raw)).run sv >>= fun _ => pure ()).run _ = _
    rw [EStateM.run_bind]
    cases ((sys.runtime.foreign address (p.arguments raw)).run sv).run (s.calling slot p) <;> rfl
  have htry : (tryKept sys sv slot info raw).run s =
      (callKept sys sv p info raw).run { s with previous := s.previous.set slot p.called } := by
    rw [tryKept_run, hp]
    dsimp only
    rw [h]
  rw [htry, callKept_run, hcall]
  cases ((sys.runtime.foreign address (p.arguments raw)).run sv).run (s.calling slot p) <;> rfl

end Offer

/-! ## What stays in a slot -/

/-- What a call leaves as it is stays where it is kept, whatever is called. -/
lemma Dispatcher.agreeOn_slot (sys : Dispatcher) {slot : Nat} {q : KeptAction}
    (hq : q.called = q) : sys.AgreeOn (fun kept => kept[slot]? = some q) sys := by
  refine sys.agreeOn_self fun {kept k p} hslot hp => ?_
  by_cases hk : k = slot
  · subst hk
    obtain rfl : p = q := Option.some.inj (hp.symm.trans hslot)
    have hlt : k < kept.length := (List.getElem?_eq_some_iff.mp hslot).1
    rw [List.getElem?_set_self hlt, hq]
  · rw [List.getElem?_set_ne hk]
    exact hslot

section Settled

variable {sys : Dispatcher} {room slot : Nat} {s t : ProcessState} {p q : KeptAction}

lemma callForeign_keeps (hq : q.called = q) (hs : s.previous[slot]? = some q)
    {handler : ActionHandler} {call : ForeignCall}
    (hrun : (callForeign sys (services sys room) handler call).run s = .ok () t) :
    t.previous[slot]? = some q := by
  have hagree : sys.AgreeOn (fun kept => kept[slot]? = some q) sys := sys.agreeOn_slot hq
  exact AlikeUnder.kept (callForeign_alike (services_alike hagree (Nat.le_refl room)) handler call
    fun _ _ => rfl) hs hrun

lemma tryHandle_keeps (hq : q.called = q) (hs : s.previous[slot]? = some q)
    {handler : ChainedHandler} {info : SignalCause} {raw : Delivery} {handled : Bool}
    (hrun : (handler.tryHandle sys (services sys room) info raw).run s = .ok handled t) :
    t.previous[slot]? = some q := by
  have hagree : sys.AgreeOn (fun kept => kept[slot]? = some q) sys := sys.agreeOn_slot hq
  exact AlikeUnder.kept (ChainedHandler.tryHandle_alike (services_alike hagree (Nat.le_refl room))
    hagree handler info raw) hs hrun

/-- Calling a kept action that is spent leaves it spent. -/
private lemma callKept_offered (hmask : s.os.mask.stored = s.os.mask)
    (hp : s.previous[slot]? = some p) {info : SignalCause} {raw : Delivery} {handled : Bool}
    (hrun : (callKept sys (services sys room) p info raw).run
      { s with previous := s.previous.set slot p.called } = .ok handled t) :
    handled = true ∧ t.previous[slot]? = some p.called ∧ t.os.mask = s.os.mask := by
  have hlt : slot < s.previous.length := (List.getElem?_eq_some_iff.mp hp).1
  have hspent : (s.calling slot p).previous[slot]? = some p.called :=
    List.getElem?_set_self hlt
  rw [callKept_run] at hrun
  cases hcall : (callForeign sys (services sys room) p.action.handler (p.arguments raw)).run
      (s.calling slot p) with
  | error e u => simp [hcall] at hrun
  | ok answer u =>
    rw [hcall, EStateM.Result.ok.injEq] at hrun
    obtain ⟨rfl, rfl⟩ := hrun
    have hkept := callForeign_keeps p.called_called hspent hcall
    exact ⟨rfl, hkept, hmask⟩

/-- An offer is answered by the action as it is kept, and leaves what is left of it and the mask of
the thread. -/
lemma tryKept_offered (hmask : s.os.mask.stored = s.os.mask) (hp : s.previous[slot]? = some p)
    {info : SignalCause} {raw : Delivery} {handled : Bool}
    (hrun : (tryKept sys (services sys room) slot info raw).run s = .ok handled t) :
    handled = p.accepts ∧ t.previous[slot]? = some p.offered ∧ t.os.mask = s.os.mask := by
  rw [tryKept_run, hp] at hrun
  unfold KeptAction.accepts KeptAction.isDefault KeptAction.offered
  cases hhandler : p.action.handler with
  | default =>
    simp only [hhandler, EStateM.Result.ok.injEq] at hrun
    obtain ⟨rfl, rfl⟩ := hrun
    exact ⟨rfl, hp, rfl⟩
  | ignore =>
    simp only [hhandler, EStateM.Result.ok.injEq] at hrun
    obtain ⟨rfl, rfl⟩ := hrun
    exact ⟨rfl, hp, rfl⟩
  | trapEntry =>
    simp only [hhandler] at hrun
    exact callKept_offered hmask hp hrun
  | foreign address =>
    simp only [hhandler] at hrun
    exact callKept_offered hmask hp hrun

end Settled

/-! ## Many offers -/

/-- Offers signals to a kept action, one after the other. -/
def offerAll (sys : Dispatcher) (sv : Services) (slot : Nat)
    (offers : List (SignalCause × Delivery)) : TrapM (List Bool) :=
  offers.mapM fun offer => tryKept sys sv slot offer.1 offer.2

section Offers

variable {sys : Dispatcher} {room slot : Nat} {s t : ProcessState} {p : KeptAction}

/-- A first offer comes before the others. -/
private lemma offerAll_cons (sv : Services) (info : SignalCause) (raw : Delivery)
    (rest : List (SignalCause × Delivery)) :
    offerAll sys sv slot ((info, raw) :: rest) = (do
      let handled ← tryKept sys sv slot info raw
      let answers ← offerAll sys sv slot rest
      return handled :: answers) :=
  List.mapM_cons

/-- Where further offers leave the action as it is, all are answered alike. -/
lemma offerAll_settled (hmask : s.os.mask.stored = s.os.mask) (hp : s.previous[slot]? = some p)
    (hsettled : p.offered = p) {offers : List (SignalCause × Delivery)} {answers : List Bool}
    (hrun : (offerAll sys (services sys room) slot offers).run s = .ok answers t) :
    answers = List.replicate offers.length p.accepts ∧ t.previous[slot]? = some p ∧
      t.os.mask = s.os.mask := by
  induction offers generalizing s answers with
  | nil =>
    obtain ⟨rfl, rfl⟩ := EStateM.Result.ok.inj hrun
    exact ⟨rfl, hp, rfl⟩
  | cons offer rest ih =>
    rw [offerAll_cons, run_bind_ok_iff] at hrun
    obtain ⟨handled, m, hfirst, hrun⟩ := hrun
    obtain ⟨others, u, hrest, hrun⟩ := run_bind_ok_iff.mp hrun
    obtain ⟨rfl, rfl⟩ := EStateM.Result.ok.inj hrun
    obtain ⟨rfl, hslot, hsame⟩ := tryKept_offered hmask hp hfirst
    rw [hsettled] at hslot
    obtain ⟨rfl, hlast, hmasks⟩ := ih (by rw [hsame]; exact hmask) hslot hrest
    exact ⟨rfl, hlast, hmasks.trans hsame⟩

/-- After the first of many offers the others find what it has left. -/
lemma offerAll_answers (hmask : s.os.mask.stored = s.os.mask) (hp : s.previous[slot]? = some p)
    {info : SignalCause} {raw : Delivery} {rest : List (SignalCause × Delivery)}
    {answers : List Bool}
    (hrun : (offerAll sys (services sys room) slot ((info, raw) :: rest)).run s = .ok answers t) :
    answers = p.accepts :: List.replicate rest.length p.offered.accepts ∧
      t.previous[slot]? = some p.offered ∧ t.os.mask = s.os.mask := by
  rw [offerAll_cons, run_bind_ok_iff] at hrun
  obtain ⟨handled, m, hfirst, hrun⟩ := hrun
  obtain ⟨others, u, hrest, hrun⟩ := run_bind_ok_iff.mp hrun
  obtain ⟨rfl, rfl⟩ := EStateM.Result.ok.inj hrun
  obtain ⟨rfl, hslot, hsame⟩ := tryKept_offered hmask hp hfirst
  obtain ⟨rfl, hlast, hmasks⟩ :=
    offerAll_settled (by rw [hsame]; exact hmask) hslot p.offered_offered hrest
  exact ⟨rfl, hlast, hmasks.trans hsame⟩

end Offers

/-! ## Functions that are not called any more -/

/-- No kept action calls the function at this address for this signal. -/
def NoneCalls (address : Word) (signo : Int32) (kept : List KeptAction) : Prop :=
  ∀ p ∈ kept, p.action.handler = .foreign address → p.signal.number ≠ signo

/-- Of the kept actions, only the one in a slot may call the function at this address for this
signal. -/
def OnlyCalls (slot : Nat) (address : Word) (signo : Int32) (kept : List KeptAction) : Prop :=
  ∀ k p, kept[k]? = some p → p.action.handler = .foreign address → p.signal.number = signo →
    k = slot

/-- The system in which the function at an address does something else for one signal. -/
def Dispatcher.withFunction (sys : Dispatcher) (address : Word) (signo : Int32)
    (f : ForeignCall → Script) : Dispatcher :=
  { sys with
    classifier :=
      { sys.classifier with
        runtime :=
          { sys.classifier.runtime with
            foreign := fun a call =>
              if a = address ∧ call.signo = signo then f call
              else sys.classifier.runtime.foreign a call } } }

namespace Dispatcher

variable (sys : Dispatcher) (address : Word) (signo : Int32) (f : ForeignCall → Script)

lemma sameRules_withFunction : sys.SameRules (sys.withFunction address signo f) :=
  fun _ => rfl

/-- What a function does makes no difference as long as nobody calls it. -/
lemma agreeOn_withFunction :
    sys.AgreeOn (NoneCalls address signo) (sys.withFunction address signo f) where
  control := rfl
  reporter := rfl
  called {kept slot p} hnone hp := by
    intro q hq haddress
    rcases List.mem_or_eq_of_mem_set hq with hmem | rfl
    · exact hnone q hmem haddress
    · rw [KeptAction.called_handler] at haddress
      rw [KeptAction.called_signal]
      split at haddress
      · cases haddress
      · exact hnone p (List.mem_of_getElem? hp) haddress
  foreign {kept slot p} hnone hp a raw ha := by
    have hother : ¬ (a = address ∧ (p.arguments raw).signo = signo) := by
      rintro ⟨rfl, hsigno⟩
      exact hnone p (List.mem_of_getElem? hp) ha hsigno
    show (if a = address ∧ (p.arguments raw).signo = signo then f (p.arguments raw)
      else sys.classifier.runtime.foreign a (p.arguments raw)) = _
    rw [if_neg hother]
    rfl

end Dispatcher

/-- Between systems with the same rules only the kept actions matter. -/
lemma ProcessState.sheltered_of_sameRules {K : List KeptAction → Prop} {sys sys' : Dispatcher}
    (h : sys.SameRules sys') (room : Nat) :
    Sheltered K sys sys' room = fun s => K s.previous :=
  funext fun _ => propext ⟨fun hs => hs.kept, fun hs => ⟨hs, .inl h⟩⟩

/-- Nothing that foreign code can call depends on a function that no kept action calls, and none
will. -/
theorem services_withFunction (sys : Dispatcher) (address : Word) (signo : Int32)
    (f : ForeignCall → Script) (room : Nat) :
    (services sys room).Alike (fun s => NoneCalls address signo s.previous)
      (services (sys.withFunction address signo f) room) := by
  rw [← sheltered_of_sameRules (sys.sameRules_withFunction address signo f) room]
  exact services_alike (sys.agreeOn_withFunction address signo f) (Nat.le_refl room)

section OneShot

variable {sys : Dispatcher} {room slot : Nat} {s : ProcessState} {p : KeptAction} {address : Word}

/-- While the only caller of a function runs, nobody is left to call it. -/
lemma noneCalls_calling (honly : OnlyCalls slot address p.signal.number s.previous)
    (hp : s.previous[slot]? = some p) (hreset : p.action.flags.resethand = true) :
    NoneCalls address p.signal.number (s.calling slot p).previous := by
  have hlt : slot < s.previous.length := (List.getElem?_eq_some_iff.mp hp).1
  intro q hq haddress hsigno
  obtain ⟨k, hk⟩ := List.getElem?_of_mem hq
  have hset : (s.calling slot p).previous = s.previous.set slot p.called := rfl
  rw [hset] at hk
  by_cases hslot : k = slot
  · subst hslot
    rw [List.getElem?_set_self hlt] at hk
    obtain rfl := Option.some.inj hk
    rw [KeptAction.called_handler, if_pos hreset] at haddress
    cases haddress
  · rw [List.getElem?_set_ne (Ne.symm hslot)] at hk
    exact hslot (honly k q hk haddress hsigno)

/-- Nothing but the first offer of an action that is to run once calls its function: it makes no
difference what the function does in all that is called from there, or later. -/
lemma tryKept_once (honly : OnlyCalls slot address p.signal.number s.previous)
    (hp : s.previous[slot]? = some p) (haddress : p.action.handler = .foreign address)
    (hreset : p.action.flags.resethand = true) (f : ForeignCall → Script) (info : SignalCause)
    (raw : Delivery) :
    visibleResult ((tryKept sys (services sys room) slot info raw).run s) =
        visibleResult ((tryKept sys
          (services (sys.withFunction address p.signal.number f) room) slot info raw).run s) ∧
      EndsIn (fun t => NoneCalls address p.signal.number t.previous) (fun _ => True)
        ((tryKept sys (services sys room) slot info raw).run s) := by
  have hservices := services_alike (sys.agreeOn_withFunction address p.signal.number f)
    (Nat.le_refl room)
  have hscript := Script.run_alike hservices (sys.runtime.foreign address (p.arguments raw))
    (s.calling slot p) (s.calling slot p) rfl
    ⟨noneCalls_calling honly hp hreset, .inl (sys.sameRules_withFunction address _ f)⟩
  rw [tryKept_run_of_foreign hp haddress, tryKept_run_of_foreign hp haddress]
  obtain ⟨hresult, hends⟩ := hscript
  generalize (Script.run (services sys room) (sys.runtime.foreign address (p.arguments raw))).run
    (s.calling slot p) = out at hresult hends
  generalize (Script.run (services (sys.withFunction address p.signal.number f) room)
    (sys.runtime.foreign address (p.arguments raw))).run (s.calling slot p) = out' at hresult
  cases out with
  | ok handled t =>
    cases out' with
    | error e t' => simp [visibleResult] at hresult
    | ok handled' t' =>
      simp only [visibleResult, EStateM.Result.ok.injEq] at hresult
      refine ⟨congrArg (EStateM.Result.ok true) ?_, hends.kept⟩
      rw [visible_backTo, visible_backTo, hresult.2]
  | error e t =>
    cases out' with
    | ok handled' t' => simp [visibleResult] at hresult
    | error e' t' => exact ⟨hresult, trivial⟩

end OneShot

/-! ## Handlers behind a spent action -/

section Spent

variable {sys : Dispatcher} {room slot : Nat} {s t : ProcessState} {q : KeptAction}

/-- A spent action declines whenever it is asked. -/
lemma asked_of_spent (hspent : q.action.handler = .default)
    (hs : s.previous[slot]? = some q) {info : SignalCause} {raw : Delivery}
    {asked : List (RegisteredHandler ChainedHandler × Bool)}
    (h : Asked (offerTo sys (services sys room) info raw) s asked t) :
    ∀ x ∈ asked, x.1.handler = .previous slot → x.2 = false := by
  induction h with
  | nobody s => simp
  | @next e answer s m t rest first more ih =>
    have hm : m.previous[slot]? = some q :=
      tryHandle_keeps (KeptAction.called_of_default hspent) hs first
    refine List.forall_mem_cons.mpr ⟨fun he => ?_, ih hm⟩
    unfold offerTo at first
    have he' : e.handler = .previous slot := he
    rw [he'] at first
    have hdeclined := first.symm.trans (tryKept_run_of_default hs hspent info raw)
    exact (EStateM.Result.ok.inj hdeclined).1

/-- A spent action never makes the verdict: the handlers behind it are asked, and if they decline
as well then the signal is not recognised. -/
lemma verdict_of_spent (hspent : q.action.handler = .default) {call : SignalCall}
    (hs : s.previous[slot]? = some q) (houter : (s.os.mark.enter call.sp).1 = false)
    {cl : Classification} {m : ProcessState} (h : call.verdict.run s = .ok cl m) :
    ∃ asked, call.Asks s asked ∧ cl = call.verdictBy s asked ∧
      (∀ x ∈ asked, x.1.handler = .previous slot → x.2 = false) := by
  obtain ⟨asked, hasks, hcl⟩ := SignalCall.verdict_asks houter h
  refine ⟨asked, hasks, hcl, ?_⟩
  cases hasks with
  | decided _ => simp
  | busy _ _ => simp
  | inOrder _ _ hrun _ =>
    have hslot : ((call.ruled s).offering (call.input s.thread).info.signal).previous[slot]? =
        some q := hs
    exact asked_of_spent hspent hslot hrun

/-- If all other handlers decline as well, a signal that no rule knows is not recognised. -/
lemma unrecognized_of_declined {call : SignalCall}
    {asked : List (RegisteredHandler ChainedHandler × Bool)}
    (hrules : ((call.ownRules s.thread).run s.scene).1 = none)
    (hpipe : call.info.signal.isBrokenPipe = false) (hdeclined : ∀ x ∈ asked, x.2 = false) :
    call.verdictBy s asked = Classifier.unrecognized := by
  have hagreed : anyAgreed asked = false := by
    unfold anyAgreed
    rw [List.any_eq_false]
    exact fun x hx => by simp [hdeclined x hx]
  have hsignal : (call.input s.thread).signal = call.info.signal := call.signal_input s.thread
  unfold SignalCall.verdictBy Classifier.byAnswer
  rw [hrules, hagreed, hsignal, hpipe]
  rfl

end Spent

/-! ## The flags -/

/-- A kept action runs by its own flags and leaves no trace.  The default action declines and an
ignoring one accepts, both without a call.  Any other calls its function once for an offer, with the
arguments it takes and under its own mask, and the mask of the thread is then as before; so it is
after any sequence of offers, whatever is called in between.  If the action is to run once, then it
is spent from its first call on: the function may be replaced by any other for all that is called
from there or later, all later offers are declined, and the handlers behind it decide. -/
theorem kept_action_follows_flags (sys : Dispatcher) {s : ProcessState} {slot : Nat}
    {p : KeptAction} (hp : s.previous[slot]? = some p)
    (husable : isUsableSignal p.signal.number = true) (hmask : s.os.mask.stored = s.os.mask) :
    (p.action.handler = .default →
      ∀ sv info raw, (tryKept sys sv slot info raw).run s = .ok false s) ∧
    (p.action.handler = .ignore →
      ∀ sv info raw, (tryKept sys sv slot info raw).run s = .ok true s) ∧
    (∀ address, p.action.handler = .foreign address →
      (∀ sv info raw, (tryKept sys sv slot info raw).run s =
        match ((sys.runtime.foreign address
          { signo := p.signal.number
            delivered := if p.action.flags.siginfo then some raw else none }).run sv).run
              (s.calling slot p) with
        | .ok _ t => .ok true (t.backTo s p info)
        | .error e t => .error e t) ∧
      (∀ n, (s.calling slot p).os.mask.has n = true ↔ isUnblockable n = false ∧
        (p.action.mask.has n = true ∨ p.action.flags.nodefer = false ∧ n = p.signal.number)) ∧
      ∀ (t : ProcessState) info, (t.backTo s p info).os.mask = s.os.mask) ∧
    (∀ room info raw rest answers t,
      (offerAll sys (services sys room) slot ((info, raw) :: rest)).run s = .ok answers t →
      answers = p.accepts :: List.replicate rest.length p.offered.accepts ∧
        t.previous[slot]? = some p.offered ∧ t.os.mask = s.os.mask) ∧
    (p.offered.accepts = true ↔
      p.action.handler = .ignore ∨ p.accepts = true ∧ p.action.flags.resethand = false) ∧
    (∀ address, p.action.handler = .foreign address → p.action.flags.resethand = true →
      OnlyCalls slot address p.signal.number s.previous → ∀ f room info raw,
        visibleResult ((tryKept sys (services sys room) slot info raw).run s) =
          visibleResult ((tryKept sys
            (services (sys.withFunction address p.signal.number f) room) slot info raw).run s) ∧
        EndsIn (fun t => NoneCalls address p.signal.number t.previous) (fun _ => True)
          ((tryKept sys (services sys room) slot info raw).run s) ∧
        (services sys room).Alike (fun t => NoneCalls address p.signal.number t.previous)
          (services (sys.withFunction address p.signal.number f) room)) ∧
    ∀ t : ProcessState, t.previous[slot]? = some p.offered → p.offered.accepts = false →
      ∀ (call : SignalCall) cl m, (t.os.mark.enter call.sp).1 = false →
        call.verdict.run t = .ok cl m →
        ∃ asked, call.Asks t asked ∧ cl = call.verdictBy t asked ∧
          (∀ x ∈ asked, x.1.handler = .previous slot → x.2 = false) ∧
          (((call.ownRules t.thread).run t.scene).1 = none →
            call.info.signal.isBrokenPipe = false →
            (∀ x ∈ asked, x.1.handler ≠ .previous slot → x.2 = false) →
            cl = Classifier.unrecognized) := by
  refine ⟨fun h sv => tryKept_run_of_default hp h, fun h sv => tryKept_run_of_ignore hp h,
    fun address h => ⟨fun sv => tryKept_run_of_foreign hp h, fun n => ?_, fun _ _ => hmask⟩,
    fun room info raw rest answers t => offerAll_answers hmask hp, p.offered_accepts,
    fun address h hreset honly f room info raw => ?_, fun t ht hspent call cl m houter hrun => ?_⟩
  · have hstored : (s.calling slot p).os.mask.has n = (p.runMask.has n && !isUnblockable n) := rfl
    rw [hstored, Bool.and_eq_true, p.runMask_has husable, Bool.not_eq_true', and_comm]
  · obtain ⟨hsame, hnone⟩ := tryKept_once honly hp h hreset f info raw
    exact ⟨hsame, hnone, services_withFunction sys address p.signal.number f room⟩
  · have hdefault : p.offered.action.handler = .default := by
      unfold KeptAction.accepts KeptAction.isDefault at hspent
      simpa using hspent
    obtain ⟨asked, hasks, hcl, hdeclined⟩ := verdict_of_spent hdefault ht houter hrun
    refine ⟨asked, hasks, hcl, hdeclined, fun hrules hpipe hothers => ?_⟩
    rw [hcl]
    refine unrecognized_of_declined hrules hpipe fun x hx => ?_
    by_cases hslot : x.1.handler = .previous slot
    · exact hdeclined x hx hslot
    · exact hothers x hx hslot

/-- A runtime whose functions leave a mark, and offer the signal again. -/
def ManagedRuntime.offeringAgain : ManagedRuntime :=
  { ManagedRuntime.silent with
    foreign := fun _ call =>
      .note "called" (.offer { signal := .segv } { signo := call.signo } .answer) }

/-- A system of this runtime. -/
def Dispatcher.offeringAgain : Dispatcher :=
  { classifier := { settings := {}, runtime := .offeringAgain }, control := .system }

/-- An action that is to run once. -/
def KeptAction.oneShot : KeptAction :=
  { signal := .segv
    action :=
      { handler := .foreign 0x7000, flags := { resethand := true }, mask := SignalSet.empty } }

/-- A process that keeps an action that is to run once. -/
def ProcessState.withOneShot : ProcessState :=
  { (default : ProcessState) with
    previous := [KeptAction.oneShot]
    registry :=
      { entries :=
          [{ handler := .previous 0, priority := 255, description := "kept", signal := some .segv
             protection := .runtime, owner := runtimeRegistrar, handle := 1 }] } }

/-- Of two offers the first is accepted and the second declined.  The function runs once, though it
offers the signal again while it runs. -/
theorem one_shot_called_once :
    ∃ t, (offerAll .offeringAgain (services .offeringAgain 2) 0
        [({ signal := .segv }, { signo := 11 }), ({ signal := .segv }, { signo := 11 })]).run
          .withOneShot = .ok [true, false] t ∧
      t.scene.interactions = [.mark "called", .dispatch .segv] ∧
      t.os.mask = ProcessState.withOneShot.os.mask := by
  have hp : ProcessState.withOneShot.previous[0]? = some KeptAction.oneShot := rfl
  obtain ⟨-, -, -, hoffers, -, -, -⟩ :=
    kept_action_follows_flags .offeringAgain hp (by decide) rfl
  have hcalls : (match (offerAll .offeringAgain (services .offeringAgain 2) 0
      [({ signal := .segv }, { signo := 11 }), ({ signal := .segv }, { signo := 11 })]).run
        .withOneShot with
      | .ok _ t => decide (t.scene.interactions = [.mark "called", .dispatch .segv])
      | .error _ _ => false) = true := by
    decide +kernel
  have hanswers := hoffers 2 { signal := .segv } { signo := 11 }
    [({ signal := .segv }, { signo := 11 })]
  generalize EStateM.run (offerAll _ _ _ _) _ = out at hcalls hanswers ⊢
  cases out with
  | error e t => simp at hcalls
  | ok answers t =>
    obtain ⟨rfl, -, hmask⟩ := hanswers answers t rfl
    exact ⟨t, rfl, of_decide_eq_true hcalls, hmask⟩

end ManagedFaults
