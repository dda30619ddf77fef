import ManagedFaults.Proofs.Trap.Halves
import ManagedFaults.Proofs.Trap.Rules

/-!
# What the trap system is composed of

The trap system is a composition of a few steps.  A property of computations that is inherited by
sequences, and that these steps have, is one of everything that foreign code can call, however deep
the calls nest (`services_have`).  Which steps are needed for a part of the system is what the
structures `TrapM.AllowsDispatch`, `AllowsForeign`, `AllowsRules`, `AllowsEscalation`, `AllowsEntry`
and `AllowsHandling` say.
-/

namespace ManagedFaults

/-! ## What the trap system looks at -/

/-- All that the trap system looks at. -/
def ProcessState.visible (s : ProcessState) : ProcessState :=
  { s with scene := s.scene.visible }

/-- The record of a fatal trap does not tell more than what is visible. -/
lemma unrecoverableTrap_visible (s : ProcessState) (info : SignalCause) (context : Option Context)
    (pc : Word) (rule : TrapRule) :
    unrecoverableTrap s.visible info context pc rule =
      unrecoverableTrap s info context pc rule := by
  have hstack : s.visible.scene.guard.map (·.layout.bounds) =
      s.scene.guard.map (·.layout.bounds) := by
    show (s.scene.guard.map (·.visible)).map (·.layout.bounds) = _
    cases s.scene.guard <;> rfl
  unfold unrecoverableTrap
  rw [hstack]
  rfl

/-! ## Properties of compositions -/

/-- Properties that sequences of computations inherit.  What is read in between can only be what
is visible. -/
structure TrapM.Composes (P : ∀ {α : Type}, TrapM α → Prop) : Prop where
  pure : ∀ {α : Type} (a : α), P (pure a : TrapM α)
  bind : ∀ {α β : Type} {x : TrapM α} {f : α → TrapM β}, P x → (∀ a, P (f a)) → P (x >>= f)
  read : ∀ {α : Type} {f : ProcessState → TrapM α}, (∀ s, f s.visible = f s) → (∀ s, P (f s)) →
    P (get >>= f)

/-- Properties of all that dispatching does, and foreign code that leaves the delivered registers
alone.  The lock of the registry and the mask of the thread are put back. -/
structure TrapM.AllowsDispatch (P : ∀ {α : Type}, TrapM α → Prop) : Prop
    extends TrapM.Composes P where
  mark : ∀ text, P (TrapM.record (.mark text))
  offer : ∀ signal, P (TrapM.record (.dispatch signal))
  say : ∀ level text, P (TrapM.say level text)
  log : ∀ event, P (TrapM.logTrap event)
  spend : ∀ slot kept,
    P (modify fun s => { s with previous := s.previous.set slot kept } : TrapM Unit)
  locked : ∀ {α : Type} {x : TrapM α}, P x → P (do
    modify fun s => { s with lock := { s.lock with readers := s.lock.readers + 1 } }
    let a ← x
    modify fun s => { s with lock := { s.lock with readers := s.lock.readers - 1 } }
    return a)
  masked : ∀ {α : Type} (mask : SignalSet) {x : TrapM Unit} {k : TrapM α}, P x → P k → P (do
    let s ← get
    TrapM.setMask mask
    x
    TrapM.setMask s.os.mask
    k)

/-- Properties of all that foreign code and dispatching do by themselves. -/
structure TrapM.AllowsForeign (P : ∀ {α : Type}, TrapM α → Prop) : Prop
    extends TrapM.AllowsDispatch P where
  rewrite : ∀ registers, P (TrapM.rewrite registers)

/-- Properties of all that the rules of classification do. -/
structure TrapM.AllowsRules (P : ∀ {α : Type}, TrapM α → Prop) : Prop
    extends TrapM.Composes P where
  say : ∀ level text, P (TrapM.say level text)
  ask : ∀ {α : Type} {x : RuleM α}, x.OnlyAsks → P (TrapM.onScene x)
  guard : ∀ (c : Classifier) (i : Trap), P (TrapM.onScene (c.stackGuard i))

/-- Properties of all that escalating a trap does. -/
structure TrapM.AllowsEscalation (P : ∀ {α : Type}, TrapM α → Prop) : Prop
    extends TrapM.AllowsForeign P where
  throw : ∀ {α : Type} (e : Ending), P (throw e : TrapM α)
  unblock : ∀ (control : SignalAuthority) signal, P (control.unblock signal)
  claim : P (modify fun s => { s with latch := s.latch.claim.2 } : TrapM Unit)
  name : P (modify fun s => { s with latch := s.latch.name s.os.id } : TrapM Unit)
  report : ∀ lines, P (TrapM.report lines)

/-- Properties of all that the entries do around the handler. -/
structure TrapM.AllowsEntry (P : ∀ {α : Type}, TrapM α → Prop) : Prop
    extends TrapM.Composes P where
  reset : ∀ signo, P (resetAction signo)
  fail : ∀ errno, P (TrapM.modifyOs fun t => { t with errno })

/-- Properties of all that handling a signal does but for escalating it. -/
structure TrapM.AllowsConclusion (P : ∀ {α : Type}, TrapM α → Prop) : Prop
    extends TrapM.AllowsForeign P, TrapM.AllowsRules P, TrapM.AllowsEntry P where
  unblock : ∀ (control : SignalAuthority) signal, P (control.unblock signal)
  enter : ∀ sp, P (TrapM.enterTrap sp)
  leave : ∀ nested, P (TrapM.leaveTrap nested)
  count : P TrapM.nextSequence
  save : ∀ pc,
    P (modify fun s => if s.thread.isSome then { s with savedPc := pc } else s : TrapM Unit)

/-- Properties of all that handling a signal does. -/
structure TrapM.AllowsHandling (P : ∀ {α : Type}, TrapM α → Prop) : Prop
    extends TrapM.AllowsEscalation P, TrapM.AllowsConclusion P

/-- Everything that foreign code can call has a property. -/
structure Services.Have (P : ∀ {α : Type}, TrapM α → Prop) (sv : Services) : Prop where
  handle : ∀ info raw context abort, P (sv.handle info raw context abort)
  dispatch : ∀ info raw, P (sv.dispatch info raw)
  entry : ∀ raw, P (sv.entry raw)

variable {P : ∀ {α : Type}, TrapM α → Prop} {sv : Services}

namespace TrapM.Composes

/-- Asking one after the other until one agrees. -/
lemma anyM {α : Type} (h : TrapM.Composes P) {f : α → TrapM Bool} (l : List α)
    (hf : ∀ a ∈ l, P (f a)) : P (l.anyM f) := by
  induction l with
  | nil => exact h.pure false
  | cons a l ih =>
    refine h.bind (hf a List.mem_cons_self) fun found => ?_
    cases found with
    | false => exact ih fun a' ha' => hf a' (List.mem_cons_of_mem a ha')
    | true => exact h.pure true

lemma findSomeM? {α β : Type} (h : TrapM.Composes P) {f : α → TrapM (Option β)} (l : List α)
    (hf : ∀ a, P (f a)) : P (l.findSomeM? f) := by
  induction l with
  | nil => exact h.pure none
  | cons a l ih =>
    rw [List.findSomeM?_cons]
    refine h.bind (hf a) fun found => ?_
    cases found with
    | some b => exact h.pure (some b)
    | none => exact ih

end TrapM.Composes

/-! ## Foreign code -/

/-- Foreign code that does not write to the delivered registers, whatever it is answered. -/
def Script.LeavesRegisters : Script → Prop
  | .answer _ => True
  | .note _ next => next.LeavesRegisters
  | .readRegisters next => ∀ written, (next written).LeavesRegisters
  | .writeRegisters _ _ => False
  | .readMask next => ∀ mask, (next mask).LeavesRegisters
  | .handle _ _ _ _ next => ∀ handled context, (next handled context).LeavesRegisters
  | .offer _ _ next => ∀ handled, (next handled).LeavesRegisters
  | .log _ next => next.LeavesRegisters
  | .askFatal next => ∀ fatal, (next fatal).LeavesRegisters

/-- A chained handler that does not write to the delivered registers. -/
def ChainedHandler.LeavesRegisters (rt : ManagedRuntime) : ChainedHandler → Prop
  | .script run _ => ∀ info raw, (run info raw).LeavesRegisters
  | .previous _ => ∀ address call, (rt.foreign address call).LeavesRegisters

section Dispatch

variable (h : TrapM.AllowsDispatch P) (hsv : sv.Have P)
include h hsv

/-- Foreign code has the property if the services it calls do, and its writes, should it write. -/
theorem Script.run_has_of (p : Script)
    (hwrite : p.LeavesRegisters ∨ ∀ registers, P (TrapM.rewrite registers)) : P (p.run sv) := by
  induction p with
  | answer handled => exact h.pure handled
  | note text next ih => exact h.bind (h.mark text) fun _ => ih hwrite
  | readRegisters next ih =>
    exact h.read (fun _ => rfl) fun s => ih s.rewritten (hwrite.imp_left (· s.rewritten))
  | writeRegisters registers next ih =>
    have hwrite := hwrite.resolve_left id
    exact h.bind (hwrite registers) fun _ => ih (.inr hwrite)
  | readMask next ih =>
    exact h.read (fun _ => rfl) fun s => ih s.os.mask (hwrite.imp_left (· s.os.mask))
  | handle info raw context abort next ih =>
    exact h.bind (hsv.handle info raw context abort) fun r =>
      ih r.1 r.2 (hwrite.imp_left (· r.1 r.2))
  | offer info raw next ih =>
    exact h.bind (hsv.dispatch info raw) fun handled => ih handled (hwrite.imp_left (· handled))
  | log event next ih => exact h.bind (h.log event) fun _ => ih hwrite
  | askFatal next ih =>
    exact h.read (fun _ => rfl) fun s =>
      ih s.latch.inProgress (hwrite.imp_left (· s.latch.inProgress))

variable (sys : Dispatcher)

lemma callForeign_has (handler : ActionHandler) (call : ForeignCall)
    (hwrite : (∀ address call, (sys.runtime.foreign address call).LeavesRegisters) ∨
      ∀ registers, P (TrapM.rewrite registers)) : P (callForeign sys sv handler call) := by
  unfold callForeign
  split
  · next address =>
    exact h.bind (Script.run_has_of h hsv _ (hwrite.imp_left (· address call))) fun _ => h.pure ()
  · exact hsv.entry _
  · exact h.pure ()
  · exact h.pure ()

lemma tryKept_has (slot : Nat) (info : SignalCause) (raw : Delivery)
    (hwrite : (∀ address call, (sys.runtime.foreign address call).LeavesRegisters) ∨
      ∀ registers, P (TrapM.rewrite registers)) : P (tryKept sys sv slot info raw) := by
  unfold tryKept
  refine h.read (fun _ => rfl) fun s => ?_
  split
  · exact h.pure false
  · next p _ =>
    split
    · exact h.pure false
    · exact h.pure true
    · refine h.bind (h.spend slot p.called) fun _ => ?_
      exact h.masked p.runMask (callForeign_has h hsv sys _ _ hwrite)
        (h.bind (h.say _ _) fun _ => h.pure true)

/-- Offering a signal to one handler has the property under the same conditions. -/
lemma ChainedHandler.tryHandle_has (handler : ChainedHandler) (info : SignalCause)
    (raw : Delivery)
    (hwrite : handler.LeavesRegisters sys.runtime ∨ ∀ registers, P (TrapM.rewrite registers)) :
    P (handler.tryHandle sys sv info raw) := by
  cases handler with
  | script run onDrop => exact Script.run_has_of h hsv _ (hwrite.imp_left (· info raw))
  | previous slot => exact tryKept_has h hsv sys slot info raw hwrite

end Dispatch

section Foreign

variable (h : TrapM.AllowsForeign P) (hsv : sv.Have P)
include h hsv

/-- Whatever foreign code does has the property if the services it calls do. -/
theorem Script.run_has (p : Script) : P (p.run sv) :=
  p.run_has_of h.toAllowsDispatch hsv (.inr h.rewrite)

/-- So has offering a signal to the chained handlers. -/
theorem dispatch_has (sys : Dispatcher) (info : SignalCause) (raw : Delivery) :
    P (dispatch sys sv info raw) := by
  unfold dispatch
  refine h.bind (h.offer info.signal) fun _ => ?_
  refine h.read (fun _ => rfl) fun s => ?_
  split
  · exact h.bind (h.say _ _) fun _ => h.pure false
  · exact h.locked (h.anyM _ fun e _ =>
      e.handler.tryHandle_has h.toAllowsDispatch hsv sys info raw (.inr h.rewrite))

end Foreign

/-! ## Classification -/

namespace Classifier

variable (h : TrapM.AllowsRules P) (c : Classifier) (i : Trap) {offer : TrapM Bool}
include h

lemma brokenPipe_has (hoffer : P offer) : P (brokenPipe offer i) := by
  unfold brokenPipe
  split
  · refine h.bind hoffer fun handled => ?_
    split
    · exact h.bind (h.say _ _) fun _ => h.pure _
    · exact h.pure _
  · exact h.pure _

lemma attempt_has (hoffer : P offer) (stage : Stage) : P (c.attempt offer i stage) := by
  cases stage with
  | brokenPipe => exact brokenPipe_has h i hoffer
  | safeFetch => exact h.ask (c.onlyAsks_safeFetch i)
  | stackGuard => exact h.guard c i
  | managedCode => exact h.ask (c.onlyAsks_managedCode i)
  | runtimeUnsafeAccess => exact h.ask (c.onlyAsks_runtimeUnsafeAccess i)
  | fastAccessorSlowCase => exact h.ask (c.onlyAsks_fastAccessorSlowCase i)
  | serializePage => exact h.ask (c.onlyAsks_serializePage i)
  | chained =>
    refine h.bind hoffer fun handled => ?_
    split
    · exact h.pure _
    · exact h.pure _
  | unrecognized => exact h.pure _

/-- Classification has the property if offering the signal to the chained handlers does. -/
theorem classify_has (hoffer : P offer) : P (c.classify offer i) := by
  unfold classify
  refine h.bind (h.findSomeM? _ (attempt_has h c i hoffer)) fun found => ?_
  dsimp only
  split
  · exact h.read (fun _ => rfl) fun s => h.bind (h.say _ _) fun _ => h.pure _
  · exact h.pure _

end Classifier

/-! ## Escalation -/

/-- Escalation tries to claim the latch, and goes on by what it was before. -/
lemma escalate_eq {α : Type} (sys : Dispatcher) (sv : Services) (trap : UnrecoverableTrap)
    (raw : Delivery) : (escalate sys sv trap raw : TrapM α) = (do
      let s ← get
      modify fun s => { s with latch := s.latch.claim.2 }
      if s.latch.claim.1 then
        modify fun s => { s with latch := s.latch.name s.os.id }
        let s ← get
        match FatalReport.lines sys.runtime s.memory s.loggedEvents trap with
        | none => throw .unreadable
        | some lines =>
          TrapM.report lines
          let _ ← (sys.runtime.reporter trap raw).run sv
          throw .reported
      else if s.latch.isMine s.os.id then
        TrapM.report [FatalReport.nestedLine trap]
        throw .aborted
      else
        throw .parked) :=
  rfl

lemma escalate_has {α : Type} (h : TrapM.AllowsEscalation P) (hsv : sv.Have P) (sys : Dispatcher)
    (trap : UnrecoverableTrap) (raw : Delivery) : P (escalate sys sv trap raw : TrapM α) := by
  rw [escalate_eq]
  refine h.read (fun _ => rfl) fun s => ?_
  refine h.bind h.claim fun _ => ?_
  -- whoever wins the claim reports; the same thread again aborts; any other one waits
  split
  · refine h.bind h.name fun _ => ?_
    refine h.read (fun _ => rfl) fun s => ?_
    split
    · exact h.throw _
    · refine h.bind (h.report _) fun _ => ?_
      exact h.bind (Script.run_has h.toAllowsForeign hsv _) fun _ => h.throw _
  · split
    · exact h.bind (h.report _) fun _ => h.throw _
    · exact h.throw _

/-! ## Handling a signal -/

section Conclusion

variable (h : TrapM.AllowsConclusion P)
include h

lemma resume_has (cl : Classification) (context : Option Context) (pc : Word) :
    P (resume cl context pc) := by
  unfold resume
  split
  · exact h.pure _
  · split
    · exact h.bind (h.save pc) fun _ => h.pure _
    · exact h.pure _
  · exact h.pure _

section

variable {sys : Dispatcher}
  (hescalate : ∀ trap raw, P (escalate sys sv trap raw : TrapM (Bool × Option Context)))
include hescalate

lemma carryOut_has_of_escalate (info : SignalCause) (raw : Delivery) (context : Option Context)
    (abort nested : Bool) (cl : Classification) :
    P (carryOut sys sv info raw context abort nested cl) := by
  unfold carryOut
  refine h.bind (resume_has h cl context _) fun resumed => ?_
  split
  · exact h.bind (h.leave nested) fun _ => h.pure _
  · split
    · refine h.bind (h.unblock sys.control info.signal) fun _ => ?_
      refine h.read (fun s => ?_) fun s => hescalate _ raw
      rw [unrecoverableTrap_visible]
    · exact h.bind (h.leave nested) fun _ => h.pure _

lemma conclude_has_of_escalate (info : SignalCause) (raw : Delivery) (context : Option Context)
    (abort nested : Bool) (thread : Option ManagedThread) (cl : Classification) :
    P (conclude sys sv info raw context abort nested thread cl) := by
  unfold conclude
  refine h.bind h.count fun sequence => ?_
  exact h.bind (h.log _) fun _ =>
    carryOut_has_of_escalate h hescalate info raw context abort nested cl

end

variable (hsv : sv.Have P)
include hsv

/-- Finding a verdict has the property if the services that run below it do. -/
lemma verdict_has (sys : Dispatcher) (sp : Nat) (info : SignalCause) (raw : Delivery)
    (context : Option Context) : P (verdict sys sv sp info raw context) := by
  unfold verdict
  refine h.bind (h.enter sp) fun nested => ?_
  refine h.read (fun _ => rfl) fun s => ?_
  dsimp only
  split
  · exact h.pure _
  · exact sys.classifier.classify_has h.toAllowsRules _
      (dispatch_has h.toAllowsForeign hsv sys _ raw)

/-- Handling a signal has the property if escalating it does, and the services that run below. -/
theorem handle_has_of_escalate {sys : Dispatcher}
    (hescalate : ∀ trap raw, P (escalate sys sv trap raw : TrapM (Bool × Option Context)))
    (sp : Nat) (info : SignalCause) (raw : Delivery) (context : Option Context) (abort : Bool) :
    P (handle sys sv sp info raw context abort) := by
  rw [handle_eq]
  refine h.bind (h.enter sp) fun nested => ?_
  refine h.read (fun _ => rfl) fun s => ?_
  dsimp only
  split
  · exact conclude_has_of_escalate h hescalate info raw context abort nested s.thread _
  · refine h.bind (sys.classifier.classify_has h.toAllowsRules _
      (dispatch_has h.toAllowsForeign hsv sys _ raw)) fun cl => ?_
    exact h.read (fun _ => rfl) fun m =>
      conclude_has_of_escalate h hescalate info raw _ abort nested s.thread cl

end Conclusion

section Handling

variable (h : TrapM.AllowsHandling P) (hsv : sv.Have P)
include h hsv

lemma conclude_has (sys : Dispatcher) (info : SignalCause) (raw : Delivery)
    (context : Option Context) (abort nested : Bool) (thread : Option ManagedThread)
    (cl : Classification) : P (conclude sys sv info raw context abort nested thread cl) :=
  conclude_has_of_escalate h.toAllowsConclusion (escalate_has h.toAllowsEscalation hsv sys) info
    raw context abort nested thread cl

/-- Handling a signal has the property if the services that run below it do. -/
theorem handle_has (sys : Dispatcher) (sp : Nat) (info : SignalCause) (raw : Delivery)
    (context : Option Context) (abort : Bool) : P (handle sys sv sp info raw context abort) :=
  handle_has_of_escalate h.toAllowsConclusion hsv (escalate_has h.toAllowsEscalation hsv sys) sp
    info raw context abort

end Handling

/-! ## Every level of the stack -/

section Entry

variable (h : TrapM.AllowsEntry P)
  {handle : SignalCause → Delivery → Option Context → Bool → TrapM (Bool × Option Context)}
  (hhandle : ∀ info raw context abort, P (handle info raw context abort))
include h hhandle

lemma forwardSignal_has (raw : Delivery) (abort : Bool) : P (forwardSignal handle raw abort) := by
  unfold forwardSignal
  refine h.read (fun _ => rfl) fun s => ?_
  split
  · exact h.pure _
  · refine h.bind (hhandle _ _ _ _) fun r => ?_
    split <;> exact h.pure _

lemma enterFromKernel_has (raw : Delivery) : P (enterFromKernel handle raw) := by
  unfold enterFromKernel
  refine h.read (fun _ => rfl) fun s => ?_
  refine h.bind (forwardSignal_has h hhandle raw true) fun r => ?_
  have hlast : P (do
      TrapM.modifyOs fun t => { t with errno := s.os.errno }
      return r.2 : TrapM (Option MachineContext)) :=
    h.bind (h.fail s.os.errno) fun _ => h.pure _
  dsimp only
  split
  · exact h.bind (h.reset raw.signo) fun _ => hlast
  · exact hlast

end Entry

/-- If handling and offering a signal on one level have a property whenever what can be called below
has it, then what foreign code can call has the property on every level. -/
theorem services_have_of (hentry : TrapM.AllowsEntry P)
    (hthrow : ∀ {α : Type}, P (throw .stackExhausted : TrapM α)) (sys : Dispatcher) {room n : Nat}
    (hhandle : ∀ m < room, (services sys m).Have P → ∀ info raw context abort,
      P (handle sys (services sys m) (m + 1) info raw context abort))
    (hdispatch : ∀ m < room, (services sys m).Have P → ∀ info raw,
      P (dispatch sys (services sys m) info raw))
    (hn : n ≤ room) : (services sys n).Have P := by
  -- each level is made of the one below it; the lowest one only ends the thread
  induction n with
  | zero =>
    exact ⟨fun _ _ _ _ => hthrow, fun _ _ => hthrow, fun _ => hthrow⟩
  | succ n ih =>
    have hlower := ih (by omega)
    have hlevel := hhandle n (by omega) hlower
    exact {
      handle := hlevel
      dispatch := hdispatch n (by omega) hlower
      entry := fun raw => hentry.bind (enterFromKernel_has hentry hlevel raw) fun _ =>
        hentry.pure () }

/-- Where foreign code may do anything, only handling a signal has to be looked at. -/
theorem services_have_of_handle (hforeign : TrapM.AllowsForeign P) (hentry : TrapM.AllowsEntry P)
    (hthrow : ∀ {α : Type}, P (throw .stackExhausted : TrapM α)) (sys : Dispatcher) {room n : Nat}
    (hhandle : ∀ m < room, (services sys m).Have P → ∀ info raw context abort,
      P (handle sys (services sys m) (m + 1) info raw context abort))
    (hn : n ≤ room) : (services sys n).Have P :=
  services_have_of hentry hthrow sys hhandle
    (fun _ _ hlower => dispatch_has hforeign hlower sys) hn

/-- However much room there is on the stack, what foreign code can call has every property that
all that handling a signal does has. -/
theorem services_have (h : TrapM.AllowsHandling P) (sys : Dispatcher) (room : Nat) :
    (services sys room).Have P :=
  services_have_of_handle h.toAllowsForeign h.toAllowsEntry (h.throw _) sys
    (fun m _ hlower => handle_has h hlower sys (m + 1)) (Nat.le_refl room)

end ManagedFaults
