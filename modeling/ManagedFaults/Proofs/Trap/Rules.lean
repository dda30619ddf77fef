import ManagedFaults.Proofs.Stack.Guard
import ManagedFaults.Trap.Rules

/-!
# What the rules do to the scene

Every rule but one only asks: it leaves questions behind, and neither the guard nor the pages nor
the console change (`OnlyAsks`).  The stack-guard rule is the exception.  `stackGuard_outcome`
lists all that it can do: pass, or hit a zone and perform exactly one operation on the guarded
stack.
-/

namespace ManagedFaults

/-! ## Computations that only ask -/

/-- Whether an interaction is a question to the runtime. -/
def Interaction.isQuestion : Interaction → Bool
  | .dispatch _ => false
  | .install _ => false
  | .unblock _ => false
  | .mark _ => false
  | _ => true

/-- Whether an interaction is a question that is answered without a wait. -/
def Interaction.isPlain : Interaction → Bool
  | .blockOnSerializePage => false
  | i => i.isQuestion

lemma Interaction.isQuestion_of_isPlain {i : Interaction} (h : i.isPlain = true) :
    i.isQuestion = true := by
  cases i with
  | blockOnSerializePage => rfl
  | _ => exact h

/-- Properties of computations on scenes that sequences inherit, and that every plain question
has. -/
structure RuleM.AllowsQuestions (P : ∀ {α : Type}, RuleM α → Prop) : Prop where
  pure : ∀ {α : Type} (a : α), P (pure a)
  bind : ∀ {α β : Type} {x : RuleM α} {f : α → RuleM β}, P x → (∀ a, P (f a)) → P (x >>= f)
  ask : ∀ {α : Type} {i : Interaction}, i.isPlain = true → ∀ a : α, P (RuleM.ask i a)

/-- A computation that only asks: it answers the same in every scene, and leaves nothing behind
but its questions. -/
def RuleM.OnlyAsks {α : Type} (x : RuleM α) : Prop :=
  ∃ (a : α) (asked : List Interaction), (∀ i ∈ asked, i.isQuestion = true) ∧ ∀ s : Scene,
    x.run s = (a, { s with interactions := s.interactions ++ asked })

namespace RuleM

variable {α β : Type}

lemma run_ask_bind (i : Interaction) (a : α) (f : α → RuleM β) (s : Scene) :
    (RuleM.ask i a >>= f).run s = (f a).run (s.record i) :=
  rfl

lemma onlyAsks_pure (a : α) : OnlyAsks (pure a) :=
  ⟨a, [], by simp, fun s => by simp [StateT.run_pure]; rfl⟩

lemma onlyAsks_ask {i : Interaction} (hi : i.isQuestion = true) (a : α) :
    OnlyAsks (RuleM.ask i a) :=
  ⟨a, [i], by simp [hi], fun _ => rfl⟩

lemma OnlyAsks.bind {x : RuleM α} {f : α → RuleM β} (hx : x.OnlyAsks)
    (hf : ∀ a, (f a).OnlyAsks) : (x >>= f).OnlyAsks := by
  obtain ⟨a, asked, hasked, hx⟩ := hx
  obtain ⟨b, more, hmore, hf⟩ := hf a
  refine ⟨b, asked ++ more, List.forall_mem_append.mpr ⟨hasked, hmore⟩, fun s => ?_⟩
  have hrun : (x >>= f).run s =
      (f a).run { s with interactions := s.interactions ++ asked } := by
    rw [StateT.run_bind, hx]
    rfl
  rw [hrun, hf, List.append_assoc]

lemma allowsQuestions_onlyAsks : RuleM.AllowsQuestions OnlyAsks where
  pure := onlyAsks_pure
  bind := OnlyAsks.bind
  ask hi := onlyAsks_ask (Interaction.isQuestion_of_isPlain hi)

end RuleM

/-! ## The rules that only ask -/

namespace Classifier

section Asking

variable {P : ∀ {α : Type}, RuleM α → Prop} (h : RuleM.AllowsQuestions P) (c : Classifier)
  (i : Trap)
include h

/-- Asking for a stub and redirecting to it if there is one. -/
private lemma stub_has {i : Interaction} (hi : i.isPlain = true) (stub : Option Word)
    (f : Word → Option Classification) :
    P (do let stub ← RuleM.ask i stub; return stub.bind f) :=
  h.bind (h.ask hi _) fun _ => h.pure _

lemma safeFetch_has : P (c.safeFetch i) :=
  stub_has h rfl _ _

private lemma bangingFrame_has (context : Context) : P (c.bangingFrame context) := by
  unfold bangingFrame
  refine h.bind (h.ask rfl _) fun interprets => ?_
  split
  · exact h.pure _
  · exact h.bind (h.ask rfl _) fun _ => h.pure _

private lemma reserveHolder_has (thread : ManagedThread) (context : Context) :
    P (c.reserveHolder thread context) := by
  unfold reserveHolder
  refine h.bind (bangingFrame_has h c context) fun frame => ?_
  split
  · exact h.pure _
  · exact h.ask rfl _

private lemma implicit_has (thread : ManagedThread) (rule : TrapRule) (kind : ImplicitException) :
    P (c.implicit i thread rule kind) :=
  stub_has h rfl _ _

private lemma uncheckedAccess_has (thread : ManagedThread) : P (c.uncheckedAccess i thread) := by
  unfold uncheckedAccess
  refine h.bind (h.ask rfl _) fun method => ?_
  split
  · exact h.pure _
  · split
    · exact h.pure _
    · exact h.bind (h.ask rfl _) fun _ => h.pure _

private lemma managedSegv_has (thread : ManagedThread) (address : Word) :
    P (c.managedSegv i thread address) := by
  unfold managedSegv
  refine h.bind (h.ask rfl _) fun poll => ?_
  split
  · exact stub_has h rfl _ _
  · split
    · exact h.pure _
    · exact implicit_has h c i _ _ _

private lemma zombieEntry_has : P (c.zombieEntry i) := by
  unfold zombieEntry
  refine h.bind (h.ask rfl _) fun outdated => ?_
  split
  · exact h.bind (h.ask rfl _) fun _ => h.pure _
  · exact h.pure _

lemma managedCode_has : P (c.managedCode i) := by
  unfold managedCode
  split
  · exact h.pure _
  · split
    · exact h.pure _
    · split
      · exact zombieEntry_has h c i
      · exact zombieEntry_has h c i
      · exact managedSegv_has h c i _ _
      · exact uncheckedAccess_has h c i _
      · split
        · exact implicit_has h c i _ _ _
        · exact h.pure _
      · exact h.pure _

lemma runtimeUnsafeAccess_has : P (c.runtimeUnsafeAccess i) := by
  unfold runtimeUnsafeAccess
  split
  · exact h.pure _
  · split
    · exact h.pure _
    · exact h.bind (h.ask rfl _) fun _ => h.pure _

lemma fastAccessorSlowCase_has : P (c.fastAccessorSlowCase i) := by
  unfold fastAccessorSlowCase
  split
  · exact h.pure _
  · exact stub_has h rfl _ _

end Asking

open RuleM

lemma onlyAsks_safeFetch (c : Classifier) (i : Trap) : (c.safeFetch i).OnlyAsks :=
  safeFetch_has allowsQuestions_onlyAsks c i

lemma onlyAsks_reserveHolder (c : Classifier) (thread : ManagedThread) (context : Context) :
    (c.reserveHolder thread context).OnlyAsks :=
  reserveHolder_has allowsQuestions_onlyAsks c thread context

lemma onlyAsks_managedCode (c : Classifier) (i : Trap) : (c.managedCode i).OnlyAsks :=
  managedCode_has allowsQuestions_onlyAsks c i

lemma onlyAsks_runtimeUnsafeAccess (c : Classifier) (i : Trap) :
    (c.runtimeUnsafeAccess i).OnlyAsks :=
  runtimeUnsafeAccess_has allowsQuestions_onlyAsks c i

lemma onlyAsks_fastAccessorSlowCase (c : Classifier) (i : Trap) :
    (c.fastAccessorSlowCase i).OnlyAsks :=
  fastAccessorSlowCase_has allowsQuestions_onlyAsks c i

/-- The last rule waits besides, which is not a plain question. -/
lemma onlyAsks_serializePage (c : Classifier) (i : Trap) : (c.serializePage i).OnlyAsks := by
  unfold serializePage
  split
  · exact onlyAsks_pure _
  · split
    · exact onlyAsks_pure _
    · refine (onlyAsks_ask rfl _).bind fun page => ?_
      split
      · exact (onlyAsks_ask rfl _).bind fun _ => onlyAsks_pure _
      · exact onlyAsks_pure _

end Classifier

/-! ## The steps of the stack-guard rule -/

/-- All that is looked at of a guard: not whether red is armed, nor how often a zone was opened. -/
def StackGuard.visible (g : StackGuard) : StackGuard :=
  { g with redArmed := true, openings := 0 }

/-- All that is looked at of a scene: not the pages, nor what was printed. -/
def Scene.visible (s : Scene) : Scene :=
  { guard := s.guard.map (·.visible), pages := default, console := { s.console with printed := [] }
    interactions := s.interactions }

/-- Properties that all steps of the stack-guard rule have.  What is read in between can only be
the guard, and of it only what is visible. -/
structure RuleM.AllowsSteps (P : ∀ {α : Type}, RuleM α → Prop) : Prop
    extends RuleM.AllowsQuestions P where
  read : ∀ {α : Type} {f : Scene → RuleM α}, (∀ s, f s.visible = f s) →
    (∀ s t, s.guard = t.guard → f s = f t) → (∀ s, P (f s)) → P (get >>= f)
  say : ∀ level text, P (RuleM.say level text)
  openYellow : P (RuleM.onGuard GuardedStack.openYellow)
  openRed : P (RuleM.onGuard GuardedStack.openRed)
  lend : ∀ holder, P (RuleM.onGuard fun g => g.lendReservedTo holder)

/-- Properties of computations on scenes that sequences inherit, and that everything the
stack-guard rule does has.  What is read in between can only be what is visible. -/
structure RuleM.AllowsGuard (P : ∀ {α : Type}, RuleM α → Prop) : Prop where
  bind : ∀ {α β : Type} {x : RuleM α} {f : α → RuleM β}, P x → (∀ a, P (f a)) → P (x >>= f)
  read : ∀ {α : Type} {f : Scene → RuleM α}, (∀ s, f s.visible = f s) → (∀ s, P (f s)) →
    P (get >>= f)
  ask : ∀ {α : Type} {x : RuleM α}, x.OnlyAsks → P x
  say : ∀ level text, P (RuleM.say level text)
  openYellow : P (RuleM.onGuard GuardedStack.openYellow)
  openRed : P (RuleM.onGuard GuardedStack.openRed)
  lend : ∀ holder, P (RuleM.onGuard fun g => g.lendReservedTo holder)

lemma RuleM.AllowsGuard.steps {P : ∀ {α : Type}, RuleM α → Prop} (h : RuleM.AllowsGuard P) :
    RuleM.AllowsSteps P where
  pure a := h.ask (RuleM.onlyAsks_pure a)
  bind := h.bind
  ask hi a := h.ask (RuleM.onlyAsks_ask (Interaction.isQuestion_of_isPlain hi) a)
  read hvisible _ := h.read hvisible
  say := h.say
  openYellow := h.openYellow
  openRed := h.openRed
  lend := h.lend

namespace Classifier

section Steps

variable {P : ∀ {α : Type}, RuleM α → Prop} (h : RuleM.AllowsSteps P) (c : Classifier) (i : Trap)
include h

private lemma managedOverflow_has (thread : ManagedThread) (guard : StackGuard)
    (address : Word) : P (c.managedOverflow i thread guard address) := by
  have hoverflow : P (do
      RuleM.onGuard GuardedStack.openYellow
      let stub ← c.implicitException thread i.pc .stackOverflow
      return stub.bind (redirect .stackOverflow)) :=
    h.bind h.openYellow fun _ => stub_has h.toAllowsQuestions rfl _ _
  unfold managedOverflow
  split
  · have hholder := reserveHolder_has h.toAllowsQuestions c thread i.context
    refine h.bind hholder fun activation => ?_
    cases activation with
    | some holder =>
      exact h.bind (h.lend holder.address) fun _ => h.bind (h.say _ _) fun _ => h.pure _
    | none => exact hoverflow
  · rw [pure_bind]
    exact hoverflow

/-- The stack-guard rule has every property that all of its steps have. -/
lemma stackGuard_has_of_steps : P (c.stackGuard i) := by
  have hpass : P (pure none : RuleM (Option Classification)) := h.pure none
  unfold stackGuard
  split
  · exact hpass
  · refine h.read (fun s => ?_) (fun s t hguard => ?_) fun s => ?_
    · -- of the guard only the zones and the phase are read
      unfold Scene.visible
      cases i.fault? <;> cases s.guard <;> rfl
    · dsimp only
      rw [hguard]
    · split
      · dsimp only
        split
        · exact hpass
        · split
          · split
            · exact h.bind h.openYellow fun _ => h.pure _
            · exact managedOverflow_has h c i _ _ _
          · split
            · exact h.bind h.openRed fun _ => h.bind (h.say _ _) fun _ =>
                h.bind (h.say _ _) fun _ => h.pure _
            · exact hpass
      · exact hpass

end Steps

lemma stackGuard_has {P : ∀ {α : Type}, RuleM α → Prop} (h : RuleM.AllowsGuard P)
    (c : Classifier) (i : Trap) : P (c.stackGuard i) :=
  stackGuard_has_of_steps h.steps c i

end Classifier

/-! ## What is kept of the questions -/

/-- A computation that adds nothing but questions to the record of interactions, whatever else it
does to the scene. -/
def RuleM.Inquires {α : Type} (x : RuleM α) : Prop :=
  ∀ s : Scene, ∃ asked : List Interaction, (∀ i ∈ asked, i.isQuestion = true) ∧
    (x.run s).2.interactions = s.interactions ++ asked

/-- From one scene to the other the runtime was asked and nothing else was kept; `waits` times the
serialization page was waited for. -/
def Scene.Asks (s t : Scene) (waits : Nat) : Prop :=
  ∃ asked : List Interaction, t.interactions = s.interactions ++ asked ∧
    (∀ q ∈ asked, q.isQuestion = true) ∧ asked.count .blockOnSerializePage = waits

namespace Scene

lemma asks_of_same {s t : Scene} (h : t.interactions = s.interactions) : s.Asks t 0 :=
  ⟨[], by rw [h, List.append_nil], by simp, rfl⟩

lemma Asks.trans {s t u : Scene} {m n : Nat} (hst : s.Asks t m) (htu : t.Asks u n) :
    s.Asks u (m + n) := by
  obtain ⟨asked, hasked, hquestions, hwaits⟩ := hst
  obtain ⟨more, hmore, hquestions', hwaits'⟩ := htu
  refine ⟨asked ++ more, ?_, List.forall_mem_append.mpr ⟨hquestions, hquestions'⟩, ?_⟩
  · rw [hmore, hasked, List.append_assoc]
  · rw [List.count_append, hwaits, hwaits']

end Scene

namespace RuleM

/-- A computation that may ask, but never waits for the serialization page. -/
def NeverWaits {α : Type} (x : RuleM α) : Prop :=
  ∀ s : Scene, s.Asks (x.run s).2 0

lemma neverWaits_ask {α : Type} {q : Interaction} (hq : q.isPlain = true) (a : α) :
    (RuleM.ask q a).NeverWaits := by
  have hne : q ≠ .blockOnSerializePage := by
    rintro rfl
    cases hq
  intro s
  refine ⟨[q], rfl, ?_, ?_⟩
  · simp [Interaction.isQuestion_of_isPlain hq]
  · simp [hne]

lemma interactions_onGuard (f : GuardedStack → GuardedStack) (s : Scene) :
    ((RuleM.onGuard f).run s).2.interactions = s.interactions := by
  have hrun : ((RuleM.onGuard f).run s).2 = (s.mapGuard fun g => ((), f g)).2 := rfl
  rw [hrun, Scene.mapGuard]
  split <;> rfl

lemma neverWaits_onGuard (f : GuardedStack → GuardedStack) : (RuleM.onGuard f).NeverWaits :=
  fun s => Scene.asks_of_same (interactions_onGuard f s)

lemma allowsSteps_neverWaits : RuleM.AllowsSteps NeverWaits where
  pure _ _ := Scene.asks_of_same rfl
  bind hx hf s := (hx s).trans (hf _ _)
  ask := neverWaits_ask
  read _ _ hf s := hf s s
  say _ _ _ := Scene.asks_of_same rfl
  openYellow := neverWaits_onGuard _
  openRed := neverWaits_onGuard _
  lend _ := neverWaits_onGuard _

end RuleM

namespace Classifier

variable (c : Classifier) (i : Trap)

lemma neverWaits_stackGuard : (c.stackGuard i).NeverWaits :=
  stackGuard_has_of_steps RuleM.allowsSteps_neverWaits c i

/-- The stack-guard rule asks, and does nothing else that is kept. -/
lemma inquires_stackGuard : (c.stackGuard i).Inquires := by
  intro s
  obtain ⟨asked, hasked, hquestions, -⟩ := c.neverWaits_stackGuard i s
  exact ⟨asked, hquestions, hasked⟩

end Classifier

/-! ## The guarded stack of a scene -/

/-- The guarded stack that a scene shows, warnings left out. -/
def Scene.Shows (s : Scene) (g : GuardedStack) : Prop :=
  s.guard = some g.guard ∧ s.pages = g.pages

/-- Changing the guard leaves a scene that shows the changed stack. -/
lemma RuleM.shows_onGuard {s : Scene} {g : StackGuard} (hg : s.guard = some g)
    (f : GuardedStack → GuardedStack) :
    ((RuleM.onGuard f).run s).2.Shows (f { guard := g, pages := s.pages }) := by
  have hrun : ((RuleM.onGuard f).run s).2 = (s.mapGuard fun g => ((), f g)).2 := rfl
  rw [hrun, Scene.mapGuard, hg]
  exact ⟨rfl, rfl⟩

/-- A scene with the same guard and pages shows the same stack. -/
lemma Scene.Shows.congr {s t : Scene} {g : GuardedStack} (h : s.Shows g)
    (hguard : t.guard = s.guard) (hpages : t.pages = s.pages) : t.Shows g :=
  ⟨hguard.trans h.1, hpages.trans h.2⟩

/-! ## The stack-guard rule -/

namespace Classifier

/-- The address as which a fault address is compared with the zones. -/
def lowered (c : Classifier) (address : Word) : Word :=
  address.saturatingSub c.settings.kernelGuardBytes

/-- A segmentation fault on the stack of a thread with this guard. -/
structure StackFault (c : Classifier) (i : Trap) (s : Scene) (thread : ManagedThread)
    (address : Word) (g : StackGuard) : Prop where
  signal : i.signal = .segv
  known : i.fault? = some (thread, address)
  guarded : s.guard = some g
  onStack : g.layout.onStack (c.lowered address) = true

/-- What is done about a fault on the stack of a guarded thread, by the thread, its guard and the
lowered address; nothing is done about other traps. -/
def onStackFault (c : Classifier) (i : Trap)
    (overflow : ManagedThread → StackGuard → Word → RuleM (Option Classification)) :
    RuleM (Option Classification) := do
  if i.signal ≠ .segv then
    return none
  match i.fault?, (← get).guard with
  | some (thread, address), some guard =>
    if !guard.layout.onStack (c.lowered address) then
      return none
    else
      overflow thread guard (c.lowered address)
  | _, _ => return none

/-- What a fault on the stack runs. -/
lemma run_onStackFault {c : Classifier} {i : Trap} {s : Scene} {thread : ManagedThread}
    {address : Word} {g : StackGuard} (fault : c.StackFault i s thread address g)
    (overflow : ManagedThread → StackGuard → Word → RuleM (Option Classification)) :
    (c.onStackFault i overflow).run s = (overflow thread g (c.lowered address)).run s := by
  unfold onStackFault
  rw [if_neg (not_not_intro fault.signal)]
  simp only [StateT.run_bind, StateT.run_get, pure_bind, fault.known, fault.guarded]
  rw [if_neg (by simp [fault.onStack])]

/-- No other trap runs anything. -/
lemma run_onStackFault_of_none {c : Classifier} {i : Trap} {s : Scene}
    (hnone : ∀ thread address g, ¬c.StackFault i s thread address g)
    (overflow : ManagedThread → StackGuard → Word → RuleM (Option Classification)) :
    (c.onStackFault i overflow).run s = (none, s) := by
  unfold onStackFault
  by_cases hsignal : i.signal = .segv
  · rw [if_neg (not_not_intro hsignal)]
    simp only [StateT.run_bind, StateT.run_get, pure_bind]
    -- a fault on the stack needs both a fault address and a guard
    match hknown : i.fault?, hguard : s.guard with
    | none, _ => rfl
    | some _, none => rfl
    | some (thread, address), some g =>
      dsimp only
      rw [if_pos]
      · rfl
      · have hout := fun hstack => hnone thread address g ⟨hsignal, hknown, hguard, hstack⟩
        simpa using hout
  · rw [if_pos hsignal]
    rfl

/-- What is done about a fault in the yellow or reserved zone. -/
def yellowOverflow (c : Classifier) (i : Trap) (thread : ManagedThread) (guard : StackGuard)
    (address : Word) : RuleM (Option Classification) := do
  if thread.state ≠ .managed then
    RuleM.onGuard GuardedStack.openYellow
    return some { rule := .nativeStackOverflow, disposition := .ignore }
  else
    c.managedOverflow i thread guard address

/-- The yellow and reserved zones are tested before the red zone. -/
def yellowFirst (c : Classifier) (i : Trap) (thread : ManagedThread) (guard : StackGuard)
    (address : Word) : RuleM (Option Classification) :=
  if guard.layout.inYellowOrReserved address then c.yellowOverflow i thread guard address
  else if guard.layout.inRed address then redOverflow
  else return none

lemma stackGuard_eq (c : Classifier) (i : Trap) :
    c.stackGuard i = c.onStackFault i (c.yellowFirst i) :=
  rfl

/-- All that the stack-guard rule can do: what it answers, and the scene it leaves. -/
inductive StackGuardOutcome (c : Classifier) (i : Trap) (s : Scene) :
    Option Classification → Scene → Prop
  /-- No guard zone was hit. -/
  | passed
      (miss : ∀ thread address g, c.StackFault i s thread address g →
        g.layout.inYellowOrReserved (c.lowered address) = false ∧
        g.layout.inRed (c.lowered address) = false) :
      StackGuardOutcome c i s none s
  /-- Native code gains the yellow and reserved zones. -/
  | native {thread : ManagedThread} {address : Word} {g : StackGuard} {t : Scene}
      (fault : c.StackFault i s thread address g)
      (hit : g.layout.inYellowOrReserved (c.lowered address) = true)
      (unmanaged : thread.state ≠ .managed)
      (shows : t.Shows (GuardedStack.openYellow { guard := g, pages := s.pages })) :
      StackGuardOutcome c i s (some { rule := .nativeStackOverflow, disposition := .ignore }) t
  /-- The reserved zone is lent to an activation that needs it. -/
  | lent {thread : ManagedThread} {address : Word} {g : StackGuard} {t : Scene}
      (fault : c.StackFault i s thread address g)
      (hit : g.layout.inYellowOrReserved (c.lowered address) = true)
      (managed : thread.state = .managed)
      (reserved : g.layout.inReserved (c.lowered address) = true)
      (armed : g.reservedArmed = true)
      (holder : ReserveHolder)
      (shows : t.Shows
        (GuardedStack.lendReservedTo { guard := g, pages := s.pages } holder.address)) :
      StackGuardOutcome c i s (redirect .reservedStack i.pc) t
  /-- The zones are opened and the exception is raised, if it has a stub. -/
  | overflow {thread : ManagedThread} {address : Word} {g : StackGuard} {t : Scene}
      (fault : c.StackFault i s thread address g)
      (hit : g.layout.inYellowOrReserved (c.lowered address) = true)
      (managed : thread.state = .managed)
      (shows : t.Shows (GuardedStack.openYellow { guard := g, pages := s.pages })) :
      StackGuardOutcome c i s
        ((c.runtime.raiseStub thread i.pc .stackOverflow).bind (redirect .stackOverflow)) t
  /-- The red zone is opened, and the trap is fatal. -/
  | red {thread : ManagedThread} {address : Word} {g : StackGuard} {t : Scene}
      (fault : c.StackFault i s thread address g)
      (hit : g.layout.inRed (c.lowered address) = true)
      (shows : t.Shows (GuardedStack.openRed { guard := g, pages := s.pages })) :
      StackGuardOutcome c i s (some { rule := .stackRedZone, disposition := .escalate }) t

/-- Which thread, address and guard a fault on the stack is about is read off the trap and the
scene. -/
lemma StackFault.unique {c : Classifier} {i : Trap} {s : Scene} {thread thread' : ManagedThread}
    {address address' : Word} {g g' : StackGuard} (fault : c.StackFault i s thread address g)
    (hknown : i.fault? = some (thread', address')) (hguard : s.guard = some g') :
    thread = thread' ∧ address = address' ∧ g = g' := by
  have hpair := fault.known.symm.trans hknown
  have hsame := fault.guarded.symm.trans hguard
  simp only [Option.some.injEq, Prod.mk.injEq] at hpair hsame
  exact ⟨hpair.1, hpair.2, hsame⟩

/-- The frame that was testing the stack when the context was interrupted. -/
inductive BangingFrame (c : Classifier) (context : Context) : Frame → Prop
  /-- The interpreter tests the stack in its own frame. -/
  | interpreted (interpreter : c.runtime.interprets context.pc = true) :
      BangingFrame c context { sp := context.sp, fp := context.fp, pc := context.pc }
  /-- A compiled method that has not built its frame tests the stack in that of its caller, which
  goes on after the call. -/
  | compiled {m : CompiledMethod} {lr : Word} (compiled : c.runtime.interprets context.pc = false)
      (method : c.runtime.methodAt context.pc = some m) (unbuilt : m.frameBuilt = false)
      (link : context.lr = some lr) :
      BangingFrame c context
        { sp := context.sp, fp := context.fp, pc := lr - Word.instructionBytes }

/-- The frame that is found is the one that was testing the stack. -/
lemma bangingFrame_iff (c : Classifier) (context : Context) (s : Scene) (frame : Frame) :
    ((c.bangingFrame context).run s).1 = some frame ↔ c.BangingFrame context frame := by
  unfold bangingFrame
  dsimp only
  rw [RuleM.run_ask_bind]
  cases hinterprets : c.runtime.interprets context.pc with
  | true =>
    constructor
    · rintro ⟨⟩
      exact .interpreted hinterprets
    · rintro (_ | ⟨hcompiled, _, _, _⟩)
      · rfl
      · rw [hinterprets] at hcompiled
        cases hcompiled
  | false =>
    rw [if_neg (by simp), RuleM.run_ask_bind]
    show ((c.runtime.methodAt context.pc).bind fun m =>
      if m.frameBuilt then none
      else context.lr.map fun lr => _) = some frame ↔ _
    simp only [Option.bind_eq_some_iff]
    constructor
    · rintro ⟨m, hmethod, hframe⟩
      split at hframe
      · cases hframe
      · next hbuilt =>
        obtain ⟨lr, hlr, rfl⟩ := Option.map_eq_some_iff.mp hframe
        exact .compiled hinterprets hmethod (by simpa using hbuilt) hlr
    · rintro (hinterpreter | ⟨_, hmethod, hbuilt, hlr⟩)
      · rw [hinterprets] at hinterpreter
        cases hinterpreter
      · exact ⟨_, hmethod, by simp [hbuilt, hlr]⟩

/-- The activation that is found is what the runtime answers about the frame that was testing the
stack. -/
lemma reserveHolder_iff (c : Classifier) (thread : ManagedThread) (context : Context) (s : Scene)
    (holder : ReserveHolder) :
    ((c.reserveHolder thread context).run s).1 = some holder ↔
      ∃ frame, c.BangingFrame context frame ∧
        c.runtime.reserveHolder thread frame = some holder := by
  have hframe := c.bangingFrame_iff context s
  unfold reserveHolder
  rw [StateT.run_bind]
  generalize (c.bangingFrame context).run s = out at hframe
  obtain ⟨r, t⟩ := out
  cases r with
  | none =>
    constructor
    · rintro ⟨⟩
    · rintro ⟨frame, hbanging, -⟩
      exact absurd ((hframe frame).mpr hbanging) (by simp)
  | some frame =>
    have hbanging := (hframe frame).mp rfl
    constructor
    · intro hholder
      exact ⟨frame, hbanging, hholder⟩
    · rintro ⟨frame', hbanging', hholder⟩
      have hsame := (hframe frame').mpr hbanging'
      simp only [Option.some.injEq] at hsame
      exact hsame ▸ hholder

/-- The reserved zone is armed, the fault is in it, and the runtime has an activation for the frame
that was testing the stack. -/
structure Lends (c : Classifier) (i : Trap) (thread : ManagedThread) (g : StackGuard)
    (address : Word) (holder : ReserveHolder) : Prop where
  reserved : g.layout.inReserved address = true
  armed : g.state = .enabled
  holds : ∃ frame, c.BangingFrame i.context frame ∧
    c.runtime.reserveHolder thread frame = some holder

/-- What becomes of an overflow into the yellow or reserved zone of managed code. -/
lemma run_managedOverflow {c : Classifier} {i : Trap} {s : Scene} {g : StackGuard}
    (hguarded : s.guard = some g) (thread : ManagedThread) (address : Word) :
    ∃ r t, (c.managedOverflow i thread g address).run s = (r, t) ∧
      ((∃ holder, c.Lends i thread g address holder ∧ r = redirect .reservedStack i.pc ∧
        t.Shows (GuardedStack.lendReservedTo { guard := g, pages := s.pages } holder.address)) ∨
      ((∀ holder, ¬c.Lends i thread g address holder) ∧
        r = (c.runtime.raiseStub thread i.pc .stackOverflow).bind (redirect .stackOverflow) ∧
        t.Shows (GuardedStack.openYellow { guard := g, pages := s.pages }))) := by
  have hholder := c.reserveHolder_iff thread i.context s
  unfold managedOverflow
  by_cases hzone : (g.layout.inReserved address && g.reservedArmed) = true
  · rw [if_pos hzone]
    rw [Bool.and_eq_true, StackGuard.reservedArmed_iff] at hzone
    -- the activation is found by questions alone, so the guard is still that of `s` afterwards
    obtain ⟨activation, asked, -, hask⟩ := c.onlyAsks_reserveHolder thread i.context
    rw [StateT.run_bind, hask]
    rw [hask] at hholder
    have hguarded' : { s with interactions := s.interactions ++ asked }.guard = some g := hguarded
    cases activation with
    | some holder =>
      refine ⟨_, _, rfl, .inl ⟨holder, ⟨hzone.1, hzone.2, (hholder holder).mp rfl⟩, rfl, ?_⟩⟩
      exact (RuleM.shows_onGuard hguarded' _).congr rfl rfl
    | none =>
      refine ⟨_, _, rfl, .inr ⟨fun holder hlends => ?_, rfl, ?_⟩⟩
      · exact absurd ((hholder holder).mpr hlends.holds) (by simp)
      · exact (RuleM.shows_onGuard hguarded' _).congr rfl rfl
  · rw [if_neg hzone]
    refine ⟨_, _, rfl, .inr ⟨fun holder hlends => hzone ?_, rfl, ?_⟩⟩
    · rw [Bool.and_eq_true, StackGuard.reservedArmed_iff]
      exact ⟨hlends.reserved, hlends.armed⟩
    · exact (RuleM.shows_onGuard hguarded _).congr rfl rfl

/-- The outcomes of an overflow into the yellow or reserved zone of managed code. -/
private lemma managedOverflow_outcome {c : Classifier} {i : Trap} {s : Scene}
    {thread : ManagedThread} {address : Word} {g : StackGuard}
    (fault : c.StackFault i s thread address g)
    (hit : g.layout.inYellowOrReserved (c.lowered address) = true)
    (managed : thread.state = .managed) :
    StackGuardOutcome c i s
      ((c.managedOverflow i thread g (c.lowered address)).run s).1
      ((c.managedOverflow i thread g (c.lowered address)).run s).2 := by
  obtain ⟨r, t, hrun, ⟨holder, hlends, rfl, hshows⟩ | ⟨-, rfl, hshows⟩⟩ :=
    run_managedOverflow fault.guarded thread (c.lowered address)
  · rw [hrun]
    exact .lent fault hit managed hlends.reserved
      (StackGuard.reservedArmed_iff.mpr hlends.armed) holder hshows
  · rw [hrun]
    exact .overflow fault hit managed hshows

/-- The stack-guard rule does one of the things that `StackGuardOutcome` lists. -/
theorem stackGuard_outcome (c : Classifier) (i : Trap) (s : Scene) :
    StackGuardOutcome c i s ((c.stackGuard i).run s).1 ((c.stackGuard i).run s).2 := by
  rw [stackGuard_eq]
  by_cases hfault : ∃ thread address g, c.StackFault i s thread address g
  · obtain ⟨thread, address, g, fault⟩ := hfault
    rw [run_onStackFault fault]
    unfold yellowFirst yellowOverflow
    by_cases hyellow : g.layout.inYellowOrReserved (c.lowered address) = true
    · rw [if_pos hyellow]
      by_cases hstate : thread.state = .managed
      · rw [if_neg (not_not_intro hstate)]
        exact managedOverflow_outcome fault hyellow hstate
      · rw [if_pos hstate]
        exact .native fault hyellow hstate ((RuleM.shows_onGuard fault.guarded _).congr rfl rfl)
    · rw [if_neg hyellow]
      by_cases hred : g.layout.inRed (c.lowered address) = true
      · rw [if_pos hred]
        exact .red fault hred ((RuleM.shows_onGuard fault.guarded _).congr rfl rfl)
      · rw [if_neg hred]
        refine .passed fun _ _ _ fault' => ?_
        obtain ⟨rfl, rfl, rfl⟩ := fault'.unique fault.known fault.guarded
        exact ⟨by simpa using hyellow, by simpa using hred⟩
  · simp only [not_exists] at hfault
    rw [run_onStackFault_of_none hfault]
    exact .passed fun thread address g fault => absurd fault (hfault thread address g)

/-- Where no zone is hit, the stack-guard rule passes and leaves nothing behind. -/
lemma run_stackGuard_of_outside {c : Classifier} {i : Trap} {s : Scene}
    (houtside : ∀ thread address g, c.StackFault i s thread address g →
      g.layout.isOutside (c.lowered address) = true) :
    (c.stackGuard i).run s = (none, s) := by
  have hmiss : ∀ thread address g, c.StackFault i s thread address g →
      g.layout.inRed (c.lowered address) ≠ true ∧
        g.layout.inYellowOrReserved (c.lowered address) ≠ true := by
    intro thread address g fault
    have hout := houtside thread address g fault
    rw [GuardZones.isOutside, Bool.and_eq_true, Bool.not_eq_true', Bool.not_eq_true'] at hout
    simp [hout]
  have houtcome := c.stackGuard_outcome i s
  generalize (c.stackGuard i).run s = out at houtcome
  obtain ⟨r, t⟩ := out
  cases houtcome with
  | passed => rfl
  | native fault hit => exact absurd hit (hmiss _ _ _ fault).2
  | lent fault hit => exact absurd hit (hmiss _ _ _ fault).2
  | overflow fault hit => exact absurd hit (hmiss _ _ _ fault).2
  | red fault hit => exact absurd hit (hmiss _ _ _ fault).1

end Classifier

end ManagedFaults
