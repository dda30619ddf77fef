import ManagedFaults.Proofs.Registers.Copy
import ManagedFaults.Proofs.Trap.Justification
import ManagedFaults.Proofs.Trap.LeftAlone
import ManagedFaults.Proofs.Trap.Offering

/-!
# How a disposition is applied

An outermost handler finds a verdict, logs it, and does to the interrupted thread what the
disposition says and nothing else (`disposition_applied`).  The registers it is applied to are those
that were delivered, unless a chained handler that was asked has written over them.
-/

namespace ManagedFaults

/-! ## Registers -/

/-- Two contexts of one kind that differ in the program counter at most. -/
inductive Context.SameButPc : Context → Context → Prop
  | portable {r r' : SavedRegisters} (x : r'.x = r.x) (sp : r'.sp = r.sp)
      (pstate : r'.pstate = r.pstate) : SameButPc (.portable r) (.portable r')
  | delivered {c c' : MachineContext}
      (others : ∀ i, i ≠ MachineContext.pcIndex → c'.register i = c.register i) :
      SameButPc (.delivered c) (.delivered c')
  | exposed {e e' : ExposedRegisters} (sp : e'.sp = e.sp) (fp : e'.fp = e.fp) (lr : e'.lr = e.lr)
      (gpr : e'.gpr = e.gpr) (count : e'.count = e.count) : SameButPc (.exposed e) (.exposed e')

namespace MachineContext

lemma register_setRegister_self {c : MachineContext} {i : Nat} (h : i < deliveredRegisters)
    (w : Word) : (c.setRegister i w).register i = w := by
  unfold register setRegister
  rw [Vector.getElem?_setIfInBounds_self_of_lt h]
  rfl

lemma register_setRegister_of_ne {c : MachineContext} {i j : Nat} (h : j ≠ i) (w : Word) :
    (c.setRegister i w).register j = c.register j := by
  unfold register setRegister
  rw [Vector.getElem?_setIfInBounds_ne h.symm]

end MachineContext

namespace Context

lemma pc_setPc (c : Context) (w : Word) : (c.setPc w).pc = w := by
  cases c with
  | portable r => rfl
  | delivered c => exact MachineContext.register_setRegister_self (by decide) w
  | exposed e => rfl

lemma sameButPc_setPc (c : Context) (w : Word) : SameButPc c (c.setPc w) := by
  cases c with
  | portable r => exact .portable rfl rfl rfl
  | delivered c => exact .delivered fun i hi => MachineContext.register_setRegister_of_ne hi w
  | exposed e => exact .exposed rfl rfl rfl rfl rfl

end Context

/-! ## What classification leaves as it is -/

/-- The quiet part without the stack, which classification may change. -/
def QuietPart.apartFromStack (q : QuietPart) : QuietPart :=
  { q with guard := none, pages := default }

/-- Below an active handler, with this much room on the stack, nothing changes but the stack. -/
def ProcessState.CalmBelow (room : Nat) (s t : ProcessState) : Prop :=
  room < s.os.mark.recorded → t.quiet.apartFromStack = s.quiet.apartFromStack

/-- No chained handler is asked about a signal. -/
def ProcessState.NobodyAsked (s : ProcessState) (signal : Signal) : Prop :=
  s.lock.writing = true ∨ s.registry.accepting signal = []

/-- Where no chained handler is asked, nothing is logged, and nobody writes over the registers. -/
def ProcessState.SilentUnlessAsked (signal : Signal) (s t : ProcessState) : Prop :=
  s.NobodyAsked signal → t.NobodyAsked signal ∧ t.log = s.log ∧ t.rewritten = s.rewritten

/-- A change of the scene alone that asks to unblock nothing is calm. -/
lemma ProcessState.calm_of_scene {s : ProcessState} {scene : Scene}
    (h : scene.unblocked = s.scene.unblocked) :
    { s with scene }.quiet.apartFromStack = s.quiet.apartFromStack := by
  have hquiet : { s with scene }.quiet.apartFromStack =
      { s.quiet.apartFromStack with unblocked := scene.unblocked } := rfl
  rw [hquiet, h]
  rfl

/-- Questions ask to unblock nothing. -/
lemma Scene.unblocked_of_questions {s t : Scene} {asked : List Interaction}
    (hasked : ∀ i ∈ asked, i.isQuestion = true)
    (ht : t.interactions = s.interactions ++ asked) : t.unblocked = s.unblocked := by
  have hnone : ∀ signal, Interaction.unblock signal ∉ asked := by
    intro signal hmem
    exact absurd (hasked _ hmem) (by simp [Interaction.isQuestion])
  calc t.unblocked
      = Scene.unblocked { s with interactions := s.interactions ++ asked } := by
        unfold Scene.unblocked
        rw [ht]
    _ = s.unblocked := Scene.unblocked_append hnone

namespace Frame

open ProcessState

lemma allowsRules_calmBelow (room : Nat) :
    Frame.AllowsRules (CalmBelow room) (fun _ _ => True) where
  refl _ := fun _ => rfl
  trans {s m t} hsm hmt := by
    intro h
    have hmark : m.os.mark = s.os.mark := congrArg (fun q : QuietPart => q.mark) (hsm h)
    exact (hmt (by rwa [hmark])).trans (hsm h)
  ends _ := trivial
  trans_ends _ _ := trivial
  say _ _ _ := fun _ => rfl
  ask _ _ hasked := fun _ => calm_of_scene (Scene.unblocked_of_questions hasked rfl)
  guard s c i := by
    intro _
    obtain ⟨asked, hasked, hinteractions⟩ := c.inquires_stackGuard i s.scene
    exact calm_of_scene (Scene.unblocked_of_questions hasked hinteractions)

lemma allowsRules_silentUnlessAsked (signal : Signal) :
    Frame.AllowsRules (SilentUnlessAsked signal) (fun _ _ => True) where
  refl _ := fun h => ⟨h, rfl, rfl⟩
  trans hsm hmt := by
    intro h
    obtain ⟨hnobody, hlog, hrewritten⟩ := hsm h
    obtain ⟨hnobody', hlog', hrewritten'⟩ := hmt hnobody
    exact ⟨hnobody', hlog'.trans hlog, hrewritten'.trans hrewritten⟩
  ends _ := trivial
  trans_ends _ _ := trivial
  say _ _ _ := fun h => ⟨h, rfl, rfl⟩
  ask _ _ _ := fun h => ⟨h, rfl, rfl⟩
  guard _ _ _ := fun h => ⟨h, rfl, rfl⟩

end Frame

/-- Offering a signal that no chained handler is asked about logs nothing. -/
lemma dispatch_silentUnlessAsked (sys : Dispatcher) (sv : Services) (info : SignalCause)
    (raw : Delivery) :
    (dispatch sys sv info raw).Within (ProcessState.SilentUnlessAsked info.signal)
      (fun _ _ => True) := by
  intro s
  by_cases hs : s.NobodyAsked info.signal
  · unfold dispatch
    rw [TrapM.run_bind_of_ok (TrapM.run_record _), TrapM.run_get_bind]
    dsimp only
    split
    · exact fun _ => ⟨hs, rfl, rfl⟩
    · next hwriting =>
      have hnone : s.registry.accepting info.signal = [] := hs.resolve_left hwriting
      rw [hnone]
      exact fun _ => ⟨.inr hnone, rfl, rfl⟩
  · cases hrun : (dispatch sys sv info raw).run s with
    | ok a t => exact fun h => absurd h hs
    | error e t => trivial

/-- Classification ends the thread only where offering the signal does. -/
lemma allowsRules_failsOnly (P : Ending → ProcessState → Prop) :
    TrapM.AllowsRules fun x => x.FailsOnly P where
  pure := TrapM.failsOnly_pure
  bind hx hf := hx.bind hf
  read _ hf := (TrapM.failsOnly_of_returns fun _ => ⟨_, _, rfl⟩).bind hf
  say _ _ := TrapM.failsOnly_of_returns fun _ => ⟨(), _, rfl⟩
  ask _ := TrapM.failsOnly_onScene _
  guard _ _ := TrapM.failsOnly_onScene _

/-! ## The verdict of an outermost handler -/

/-- What an outermost handler relies on is still there when it has its verdict: the thread, its
saved program counter and the mark, nobody has come to the log or gone, nothing was unblocked and
nothing reported. -/
structure ProcessState.Undisturbed (sp : Nat) (s m : ProcessState) : Prop where
  thread : m.thread = s.thread
  savedPc : m.savedPc = s.savedPc
  mark : m.os.mark = { recorded := sp }
  logLocked : m.logLocked = s.logLocked
  latch : m.latch = s.latch
  unblocked : m.scene.unblocked = s.scene.unblocked
  mask : m.os.mask.stored = s.os.mask.stored

section Verdict

open ProcessState

variable {call : SignalCall} {s : ProcessState}

lemma SignalCall.signal_input (call : SignalCall) (thread : Option ManagedThread) :
    (call.input thread).info.signal = call.info.signal := by
  unfold input Trap.ofSignal
  cases call.context <;> rfl

/-- Handlers that are asked below an active one keep quiet, or end the thread. -/
lemma SignalCall.offer_quiet (call : SignalCall) (thread : Option ManagedThread) :
    (call.offer thread).Within (QuietBelow call.room) (HoldsBelow call.room) :=
  dispatch_has (Frame.allowsForeign_quietBelow call.room).within
    (services_nested call.sys (Nat.le_refl call.room)) call.sys _ call.raw

/-- Either way they hold what the active one relies on. -/
lemma SignalCall.offer_holds (call : SignalCall) (thread : Option ManagedThread) :
    (call.offer thread).Within (HoldsBelow call.room) (HoldsBelow call.room) :=
  (call.offer_quiet thread).mono (fun _ _ hst h => held_of_quiet (hst h)) fun _ _ hst => hst

/-- So does all that is done about a trap that cannot be recovered. -/
lemma SignalCall.escalate_holds (call : SignalCall) (trap : UnrecoverableTrap) :
    (escalate call.sys call.below trap call.raw : TrapM (Bool × Option Context)).Within
      (HoldsBelow call.room) (HoldsBelow call.room) :=
  escalate_has (Frame.allowsEscalation_holdsBelow call.room).within
    ((services_nested call.sys (Nat.le_refl call.room)).widen
      (Frame.chains_quietBelow call.room)) call.sys trap call.raw

/-- Finding the verdict disturbs nothing. -/
lemma verdict_undisturbed (hroom : call.room < call.sp)
    (houter : (s.os.mark.enter call.sp).1 = false) {cl : Classification} {m : ProcessState}
    (h : call.verdict.run s = .ok cl m) : Undisturbed call.sp s m := by
  have hcalm : (call.offer s.thread).Within (CalmBelow call.room) (fun _ _ => True) :=
    (call.offer_quiet s.thread).mono
      (fun s t hst h => congrArg QuietPart.apartFromStack (hst h)) fun _ _ _ => trivial
  have hclassify := call.sys.classifier.classify_has
    (Frame.allowsRules_calmBelow call.room).within (call.input s.thread) hcalm (s.entered call.sp)
  rw [← call.verdict_run houter, h] at hclassify
  have heq := hclassify (call.active_entered hroom houter)
  exact ⟨congrArg (fun q : QuietPart => q.thread) heq,
    congrArg (fun q : QuietPart => q.savedPc) heq,
    (congrArg (fun q : QuietPart => q.mark) heq).trans (mark_entered houter),
    congrArg (fun q : QuietPart => q.logLocked) heq, congrArg (fun q : QuietPart => q.latch) heq,
    congrArg (fun q : QuietPart => q.unblocked) heq, congrArg (fun q : QuietPart => q.mask) heq⟩

/-- If there is no chained handler to ask, finding the verdict logs nothing, and nobody writes over
the registers. -/
private lemma verdict_silent_of_nobody (houter : (s.os.mark.enter call.sp).1 = false)
    (hnobody : s.NobodyAsked call.info.signal) {cl : Classification} {m : ProcessState}
    (h : call.verdict.run s = .ok cl m) : m.log = s.log ∧ m.rewritten = none := by
  have hoffer : (call.offer s.thread).Within (SilentUnlessAsked (call.input s.thread).info.signal)
      (fun _ _ => True) :=
    dispatch_silentUnlessAsked call.sys call.below (call.input s.thread).info call.raw
  rw [call.signal_input] at hoffer
  have hclassify := call.sys.classifier.classify_has
    (Frame.allowsRules_silentUnlessAsked call.info.signal).within (call.input s.thread) hoffer
    (s.entered call.sp)
  rw [← call.verdict_run houter, h] at hclassify
  obtain ⟨-, hlog, hrewritten⟩ := hclassify hnobody
  exact ⟨hlog, hrewritten.trans (rewritten_entered houter)⟩

/-- No chained handler is asked on the way to a verdict: there is none to ask, or the verdict is
that of a rule, as it is if it redirects. -/
inductive SignalCall.AsksNobody (call : SignalCall) (s : ProcessState) (cl : Classification) : Prop
  | nobody (nobody : s.NobodyAsked call.info.signal)
  | redirect {stub : Word} (redirect : cl.disposition = .redirect stub)
  | rule (pipe : cl.rule ≠ .brokenPipe) (chained : cl.rule ≠ .chained)
      (known : cl.rule ≠ .unrecognized)

/-- If no chained handler is asked, nothing is logged on the way to the verdict, and nobody writes
over the registers. -/
lemma verdict_silent (houter : (s.os.mark.enter call.sp).1 = false) {cl : Classification}
    {m : ProcessState} (hasks : call.AsksNobody s cl) (h : call.verdict.run s = .ok cl m) :
    m.log = s.log ∧ m.rewritten = none := by
  by_cases hnobody : s.NobodyAsked call.info.signal
  · exact verdict_silent_of_nobody houter hnobody h
  · rcases SignalCall.verdict_cases houter h with ⟨scene, rfl⟩ | ⟨handled, rfl⟩
    · exact ⟨rfl, rewritten_entered houter⟩
    · -- the answer of handlers is no verdict of a rule
      have hanswer := Classifier.byAnswer_cases (call.input s.thread) handled
      cases hasks with
      | nobody h => exact absurd h hnobody
      | redirect h => rcases hanswer with heq | heq | heq <;> simp [heq] at h
      | rule hpipe hchained hknown =>
        rcases hanswer with heq | heq | heq
        · simp [heq] at hpipe
        · simp [heq] at hchained
        · simp [heq] at hknown

/-- If there is no verdict, a chained handler has ended the thread. -/
lemma verdict_error (houter : (s.os.mark.enter call.sp).1 = false) {e : Ending} {t : ProcessState}
    (h : call.verdict.run s = .error e t) : ∃ m, (call.offer s.thread).run m = .error e t := by
  have hoffer : (call.offer s.thread).FailsOnly fun e t =>
      ∃ m, (call.offer s.thread).run m = .error e t :=
    fun m e t hrun => ⟨m, hrun⟩
  rw [call.verdict_run houter] at h
  exact call.sys.classifier.classify_has (allowsRules_failsOnly _) (call.input s.thread) hoffer _
    e t h

end Verdict

/-! ## Applying the disposition -/

/-- The process once the outermost handler has left. -/
def ProcessState.left (m : ProcessState) : ProcessState :=
  { m with os := { m.os with mark := {} } }

/-- The signal of a call is unblocked, once: it is taken from those that the thread blocks, or
whoever else controls signals is asked to do that.  Nothing else changes. -/
inductive SignalCall.Unblocks (call : SignalCall) (m : ProcessState) : ProcessState → Prop
  | system {mask : SignalSet} (control : call.sys.control = .system)
      (erased : ∀ n, mask.has n = true ↔ m.os.mask.has n = true ∧ n ≠ call.info.signal.number) :
      call.Unblocks m { m with os := { m.os with mask } }
  | delegated (control : call.sys.control = .delegated) :
      call.Unblocks m
        { m with
          scene := { m.scene with
            interactions := m.scene.interactions ++ [.unblock call.info.signal] } }

/-- How the handling of a signal with these registers ends once its event is logged, in state `m`,
by the classification of the trap. -/
inductive Applied (call : SignalCall) (context : Option Context) (cl : Classification)
    (m : ProcessState) : EStateM.Result Ending ProcessState (Bool × Option Context) → Prop
  /-- An ignored trap is handled, and nothing is done. -/
  | ignored (ignore : cl.disposition = .ignore) :
      Applied call context cl m (.ok (true, context) m.left)
  /-- The thread resumes at the stub, and the old program counter is saved for it, unless the
  faulting instruction is tried again. -/
  | redirected {stub : Word} {r r' : Context} (redirect : cl.disposition = .redirect stub)
      (known : context = some r) (pc : r'.pc = stub) (others : r.SameButPc r') :
      Applied call context cl m
        (.ok (true, some r')
          { m.left with
            savedPc := if m.thread.isSome ∧ cl.rule ≠ .reservedStack then r.pc else m.savedPc })
  /-- A trap that cannot be resumed is left to the caller. -/
  | declined (fatal : cl.disposition ≠ .ignore)
      (unknown : ∀ stub, cl.disposition = .redirect stub → context = none)
      (stay : call.abort = false) :
      Applied call context cl m (.ok (false, context) m.left)
  /-- A trap that cannot be resumed is escalated with a snapshot of the registers, once its signal
  is unblocked. -/
  | escalated (fatal : cl.disposition ≠ .ignore)
      (unknown : ∀ stub, cl.disposition = .redirect stub → context = none)
      (stop : call.abort = true) {u t : ProcessState} {e : Ending} {trap : UnrecoverableTrap}
      (unblocks : call.Unblocks m u)
      (thread : trap.thread = m.thread.map (·.id)) (cause : trap.info = call.info)
      (pc : trap.pc = interruptedPc context) (rule : trap.rule = cl.rule)
      (stack : m.thread = none → trap.stack = none)
      (registers : ∀ r, context = some r → trap.registers.SnapshotOf r)
      (blank : context = none → trap.registers = .zero)
      (ends : (escalate call.sys call.below trap call.raw :
        TrapM (Bool × Option Context)).run u = .error e t)
      (savedPc : t.savedPc = m.savedPc) :
      Applied call context cl m (.error e t)

section Conclusion

open ProcessState

variable {call : SignalCall} {context : Option Context} {cl : Classification} {m : ProcessState}

/-- Carries out the disposition of the call on these registers. -/
def SignalCall.carryOut (call : SignalCall) (context : Option Context) (cl : Classification) :
    TrapM (Bool × Option Context) :=
  ManagedFaults.carryOut call.sys call.below call.info call.raw context call.abort false cl

/-- A handler with a verdict logs its own event before it applies the disposition. -/
lemma run_of_verdict {s : ProcessState} (houter : (s.os.mark.enter call.sp).1 = false)
    (h : call.verdict.run s = .ok cl m) :
    call.run.run s = (call.carryOut (call.registersAfter m) cl).run
      (m.logged (ownEvent s.thread call.info (call.registersAfter m) cl m.sequence)) := by
  unfold SignalCall.verdict at h
  unfold SignalCall.run
  rw [handle_run, h, houter]
  rfl

/-- A handler that does not find a verdict ends its thread there. -/
lemma run_of_verdict_error {s t : ProcessState} {e : Ending} (h : call.verdict.run s = .error e t) :
    call.run.run s = .error e t := by
  unfold SignalCall.verdict at h
  unfold SignalCall.run
  rw [handle_run, h]

/-- Unblocking a signal does that and nothing else. -/
lemma SignalCall.unblock_run (call : SignalCall) (m : ProcessState) :
    ∃ u, (call.sys.control.unblock call.info.signal).run m = .ok () u ∧ call.Unblocks m u := by
  cases hcontrol : call.sys.control with
  | system =>
    refine ⟨_, rfl, .system hcontrol fun n => ?_⟩
    unfold SignalSet.erase
    rw [Bool.and_eq_true, bne_iff_ne]
  | delegated => exact ⟨_, rfl, .delegated hcontrol⟩

lemma SignalCall.Unblocks.held {u : ProcessState} (h : call.Unblocks m u) : u.held = m.held := by
  cases h <;> rfl

/-- The registers of a trap that cannot be recovered are a snapshot, or zero if there are none. -/
private lemma registers_unrecoverableTrap (s : ProcessState) (info : SignalCause)
    (context : Option Context) (pc : Word) (rule : TrapRule) :
    (∀ r, context = some r →
        (unrecoverableTrap s info context pc rule).registers.SnapshotOf r) ∧
      (context = none → (unrecoverableTrap s info context pc rule).registers = .zero) := by
  constructor
  · rintro r rfl
    exact r.snapshotOf_saved
  · rintro rfl
    rfl

/-- A trap that cannot be resumed is declined or escalated. -/
private lemma applied_of_unresumed (hroom : call.room < m.os.mark.recorded)
    (hresume : resume cl context (interruptedPc context) = pure none)
    (hfatal : cl.disposition ≠ .ignore)
    (hunknown : ∀ stub, cl.disposition = .redirect stub → context = none) :
    Applied call context cl m ((call.carryOut context cl).run m) := by
  unfold SignalCall.carryOut carryOut
  rw [hresume, pure_bind]
  dsimp only
  cases habort : call.abort with
  | false => exact .declined hfatal hunknown habort
  | true =>
    rw [if_pos rfl]
    obtain ⟨u, hunblock, hunblocks⟩ := call.unblock_run m
    rw [TrapM.run_bind_of_ok hunblock, TrapM.run_get_bind]
    have hheld : u.held = m.held := hunblocks.held
    have hthread : u.thread = m.thread := congrArg HeldPart.thread hheld
    have hmark : u.os.mark = m.os.mark := congrArg HeldPart.mark hheld
    let trap := unrecoverableTrap u call.info context (interruptedPc context) cl.rule
    obtain ⟨hregisters, hblank⟩ :=
      registers_unrecoverableTrap u call.info context (interruptedPc context) cl.rule
    have hends := call.escalate_holds trap u
    cases hrun : (escalate call.sys call.below trap call.raw :
        TrapM (Bool × Option Context)).run u with
    | ok a t => exact (escalate_never call.sys call.below _ call.raw u a t hrun).elim
    | error e t =>
      rw [hrun] at hends
      have hheld' := (hends (by rwa [hmark])).trans hheld
      have hstack : m.thread = none → trap.stack = none := by
        intro hnone
        show u.thread.bind (fun _ => u.scene.guard.map (·.layout.bounds)) = none
        rw [hthread, hnone]
        rfl
      exact .escalated hfatal hunknown habort hunblocks (by rw [← hthread]; rfl) rfl rfl rfl
        hstack hregisters hblank hrun (congrArg HeldPart.savedPc hheld')

/-- Redirecting sets the program counter of the registers, and saves the old one for the thread. -/
private lemma resume_redirect_run {stub : Word} (h : cl.disposition = .redirect stub)
    {context : Option Context} {r : Context} (hcontext : context = some r) :
    (resume cl context (interruptedPc context)).run m =
      .ok (some (some (r.setPc stub)))
        { m with
          savedPc := if m.thread.isSome ∧ cl.rule ≠ .reservedStack then r.pc else m.savedPc } := by
  subst hcontext
  have hsave : (modify fun s : ProcessState =>
      if s.thread.isSome then { s with savedPc := r.pc } else s : TrapM PUnit).run m =
        .ok () (if m.thread.isSome then { m with savedPc := r.pc } else m) := rfl
  simp only [resume, h]
  by_cases hretry : cl.rule = .reservedStack
  · rw [if_neg (not_not_intro hretry), if_neg (fun h => h.2 hretry)]
    rfl
  · rw [if_pos hretry]
    refine (TrapM.run_bind_of_ok hsave).trans ?_
    by_cases hthread : m.thread.isSome = true
    · rw [if_pos hthread, if_pos ⟨hthread, hretry⟩]
      rfl
    · rw [if_neg hthread, if_neg (fun h => hthread h.1)]
      rfl

/-- Carrying out the disposition does what it says, and nothing else. -/
lemma carryOut_applied (hroom : call.room < m.os.mark.recorded) :
    Applied call context cl m ((call.carryOut context cl).run m) := by
  cases hdisposition : cl.disposition with
  | ignore =>
    have hresume : (resume cl context (interruptedPc context)).run m =
        .ok (some context) m := by
      simp only [resume, hdisposition]
      rfl
    unfold SignalCall.carryOut carryOut
    rw [TrapM.run_bind_of_ok hresume]
    exact .ignored hdisposition
  | redirect stub =>
    cases context with
    | none =>
      refine applied_of_unresumed hroom ?_ (by simp [hdisposition]) fun _ _ => rfl
      simp only [resume, hdisposition]
    | some r =>
      unfold SignalCall.carryOut carryOut
      rw [TrapM.run_bind_of_ok (resume_redirect_run hdisposition rfl)]
      exact .redirected hdisposition rfl (r.pc_setPc stub) (r.sameButPc_setPc stub)
  | escalate =>
    refine applied_of_unresumed hroom ?_ (by simp [hdisposition]) (by simp [hdisposition])
    simp only [resume, hdisposition]

/-- An outermost handler that has its verdict applies it. -/
lemma applied_of_verdict {s : ProcessState} (hroom : call.room < call.sp)
    (houter : (s.os.mark.enter call.sp).1 = false) (h : call.verdict.run s = .ok cl m) :
    Applied call (call.registersAfter m) cl
      (m.logged (ownEvent s.thread call.info (call.registersAfter m) cl m.sequence))
      (call.run.run s) := by
  rw [run_of_verdict houter h]
  refine carryOut_applied ?_
  show call.room < m.os.mark.recorded
  rw [(verdict_undisturbed hroom houter h).mark]
  exact hroom

end Conclusion

/-! ## The registers that the disposition is applied to -/

/-- Nobody can have written over the registers of a signal before there is a verdict: they are not
what the kernel has delivered, the handlers leave those alone, or no handler was asked. -/
inductive SignalCall.KeepsRegisters (call : SignalCall) (s : ProcessState) (cl : Classification) :
    Prop
  | apart (apart : ∀ registers, call.context = some (.delivered registers) →
      call.raw.context ≠ some registers)
  | leaving (leave : s.HandlersLeaveRegisters call.sys.runtime)
  | unasked (asksNobody : call.AsksNobody s cl)

/-- Nobody writes to registers but those that the kernel has delivered. -/
lemma SignalCall.registersAfter_of_apart {call : SignalCall}
    (h : ∀ registers, call.context = some (.delivered registers) →
      call.raw.context ≠ some registers) (m : ProcessState) :
    call.registersAfter m = call.context := by
  show call.context.map (m.current call.raw) = call.context
  cases hcontext : call.context with
  | none => rfl
  | some context =>
    have howns : call.raw.owns context = false := by
      cases context with
      | portable saved => rfl
      | delivered registers => exact beq_eq_false_iff_ne.mpr (h registers hcontext)
      | exposed e => rfl
    rw [Option.map_some]
    unfold ProcessState.current
    rw [howns]
    cases m.rewritten <;> rfl

/-- Then the registers are those that came with the signal. -/
lemma registersAfter_of_keeps {call : SignalCall} {s m : ProcessState} {cl : Classification}
    (hroom : call.room < call.sp) (houter : (s.os.mark.enter call.sp).1 = false)
    (hverdict : call.verdict.run s = .ok cl m) (h : call.KeepsRegisters s cl) :
    call.registersAfter m = call.context := by
  cases h with
  | apart hapart => exact SignalCall.registersAfter_of_apart hapart m
  | leaving hleave => exact registersAfter_of_leaving hroom houter hverdict hleave
  | unasked hasks =>
    exact call.registersAfter_of_rewritten (verdict_silent houter hasks hverdict).2

/-- An outermost handler, unless a chained handler ends the thread, finds a verdict without
disturbing anything, offers one event of its own to the log, which takes it unless it is locked,
and carries the verdict out and does nothing else.  If no chained handler was asked, that event is
the only one, and unless one that was asked has written over them, the registers are those that came
with the signal. -/
theorem disposition_applied (call : SignalCall) (s : ProcessState) (hroom : call.room < call.sp)
    (houter : (s.os.mark.enter call.sp).1 = false) :
    (∃ e t m, call.run.run s = .error e t ∧ (call.offer s.thread).run m = .error e t) ∨
    ∃ cl m context event, call.verdict.run s = .ok cl m ∧ s.Undisturbed call.sp m ∧
      (call.AsksNobody s cl → m.log = s.log) ∧
      context = call.registersAfter m ∧ (call.KeepsRegisters s cl → context = call.context) ∧
      event =
        { sequence := m.sequence, thread := s.thread.map (·.id), info := call.info
          pc := interruptedPc context, rule := cl.rule, disposition := cl.disposition } ∧
      (m.logged event).log = (if s.logLocked then m.log else m.log.push event) ∧
      Applied call context cl (m.logged event) (call.run.run s) := by
  cases hverdict : call.verdict.run s with
  | error e t =>
    obtain ⟨m, hoffer⟩ := verdict_error houter hverdict
    exact .inl ⟨e, t, m, run_of_verdict_error hverdict, hoffer⟩
  | ok cl m =>
    have hundisturbed := verdict_undisturbed hroom houter hverdict
    refine .inr ⟨cl, m, call.registersAfter m, _, rfl, hundisturbed,
      fun h => (verdict_silent houter h hverdict).1, rfl,
      registersAfter_of_keeps hroom houter hverdict, rfl, ?_,
      applied_of_verdict hroom houter hverdict⟩
    rw [← hundisturbed.logLocked]
    rfl

/-- The interpreter uses a null reference. -/
def SignalCall.nullUse : SignalCall :=
  { sys :=
      { classifier := { settings := {}, runtime := .interpreter 0x10000000 0x10010000 0x60000100 }
        control := .system }
    room := 1
    sp := 2
    info := { signal := .segv, faultAddress := some 8 }
    raw := { signo := 11 }
    context := some (.portable { pc := 0x10000040 })
    abort := true }

/-- A process that runs an interpreted method. -/
def ProcessState.interpreting : ProcessState :=
  { ProcessState.armedThread with thread := some { id := 7, state := .managed } }

/-- A fault that the kernel delivers, about which only the chained handlers are asked. -/
def SignalCall.strange : SignalCall :=
  { SignalCall.nullUse with
    sys := .silent
    raw := { signo := 11, context := some {} }
    context := some (.delivered {}) }

/-- A process with a handler that handles every signal. -/
def ProcessState.withWilling : ProcessState :=
  { (default : ProcessState) with
    registry :=
      { entries :=
          [{ handler := .answering true, priority := 1, description := "h", signal := none
             protection := .user, owner := 2, handle := 1 }] } }

/-- The fault counts as handled, and its registers are answered as they were delivered. -/
private lemma SignalCall.strange_run :
    ∃ t, SignalCall.strange.run.run .withWilling = .ok (true, some (.delivered {})) t := by
  have hreturned : (match SignalCall.strange.run.returned .withWilling with
      | some (handled, some (.delivered registers)) => handled && registers == {}
      | some (_, some (.portable _)) => false
      | some (_, some (.exposed _)) => false
      | some (_, none) => false
      | none => false) = true := by
    decide +kernel
  refine ⟨_, TrapM.returned_eq_some_iff.mp ?_⟩
  generalize SignalCall.strange.run.returned .withWilling = out at hreturned ⊢
  split at hreturned
  · obtain ⟨rfl, hsame⟩ := Bool.and_eq_true_iff.mp hreturned
    rw [beq_iff_eq.mp hsame]
  all_goals cases hreturned

/-- The use of a null reference is redirected to the stub that raises the exception, and nobody
else is asked about it.  A fault that a chained handler accepts leaves the registers as they were
delivered. -/
theorem null_use_redirected :
    (∃ m t, SignalCall.nullUse.verdict.run .interpreting =
        .ok { rule := .implicitNull, disposition := .redirect 0x60000100 } m ∧
      m.log = RingBuffer.empty ∧
      Applied .nullUse SignalCall.nullUse.context
        { rule := .implicitNull, disposition := .redirect 0x60000100 }
        (m.logged
          { sequence := 0, thread := some 7, info := { signal := .segv, faultAddress := some 8 }
            pc := 0x10000040, rule := .implicitNull, disposition := .redirect 0x60000100 })
        (.ok (true, some (.portable { pc := 0x60000100 })) t)) ∧
    ∃ cl m t, Applied .strange SignalCall.strange.context cl m
      (.ok (true, some (.delivered {})) t) := by
  constructor
  · have hrun : SignalCall.nullUse.run.run .interpreting =
        .ok (true, some (.portable { pc := 0x60000100 })) _ := rfl
    have hverdict : SignalCall.nullUse.verdict.run .interpreting =
        .ok { rule := .implicitNull, disposition := .redirect 0x60000100 } _ := rfl
    rcases disposition_applied .nullUse .interpreting (by decide) rfl with
      ⟨e, t, -, herror, -⟩ |
        ⟨cl, m, context, event, hfound, -, hsilent, -, hkeeps, rfl, -, happlied⟩
    · rw [hrun] at herror
      simp at herror
    · have hsame := hverdict.symm.trans hfound
      rw [EStateM.Result.ok.injEq] at hsame
      obtain ⟨rfl, rfl⟩ := hsame
      obtain rfl := hkeeps (.unasked (.redirect rfl))
      rw [hrun] at happlied
      exact ⟨_, _, hverdict, hsilent (.redirect rfl), happlied⟩
  · obtain ⟨t, hrun⟩ := SignalCall.strange_run
    have hleave : ProcessState.withWilling.HandlersLeaveRegisters .silent := by
      intro e he
      obtain rfl := List.mem_singleton.mp he
      exact fun _ _ => trivial
    rcases disposition_applied .strange .withWilling (by decide) rfl with
      ⟨e, t, -, herror, -⟩ | ⟨cl, m, context, event, -, -, -, -, hkeeps, -, -, happlied⟩
    · rw [hrun] at herror
      simp at herror
    · obtain rfl := hkeeps (.leaving hleave)
      rw [hrun] at happlied
      exact ⟨_, _, _, happlied⟩

end ManagedFaults
