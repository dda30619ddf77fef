import ManagedFaults.Proofs.Trap.Rules
import ManagedFaults.Proofs.Trap.Running
import Mathlib.Logic.Basic

/-!
# Where a redirected thread goes on

A trap is never redirected to an address out of nowhere.  `StubOf` says, rule by rule, what a rule
requires of the trap and whose answer the stub is; every redirection that classification decides
is one of these, and the rules that ignore or escalate a trap are few
(`stub_owned_of_classify`).
-/

namespace ManagedFaults

/-! ## Justified classifications -/

/-- The fault of a trap is known if its thread and its fault address are. -/
lemma Trap.fault?_eq_some_iff {i : Trap} {thread : ManagedThread} {address : Word} :
    i.fault? = some (thread, address) ↔
      i.thread = some thread ∧ i.info.faultAddress = some address := by
  unfold Trap.fault?
  cases i.thread <;> cases i.info.faultAddress <;> simp

/-- The thread and the fault address of a trap are known, and this is what the thread was doing. -/
structure Trap.FaultsWhile (i : Trap) (activity : Activity) (thread : ManagedThread)
    (address : Word) : Prop where
  known : i.fault? = some (thread, address)
  state : thread.state = activity

/-- The stub at which a rule may resume this trap: all that the rule requires is there, and the
stub is what the runtime answers the rule's question about this very trap. -/
inductive StubOf (c : Classifier) (i : Trap) : TrapRule → Word → Prop
  | safeFetch {stub : Word} (answer : c.runtime.speculativeStub i.pc = some stub) :
      StubOf c i .safeFetch stub
  /-- A retry on the reserved zone: the thread goes on where it was. -/
  | reservedStack {thread : ManagedThread} {address : Word} (signal : i.signal = .segv)
      (fault : i.FaultsWhile .managed thread address) :
      StubOf c i .reservedStack i.pc
  | stackOverflow {thread : ManagedThread} {address stub : Word} (signal : i.signal = .segv)
      (fault : i.FaultsWhile .managed thread address)
      (answer : c.runtime.raiseStub thread i.pc .stackOverflow = some stub) :
      StubOf c i .stackOverflow stub
  | zombieEntry {thread : ManagedThread} {address : Word}
      (signal : i.signal = .ill ∨ i.signal = .trap)
      (fault : i.FaultsWhile .managed thread address)
      (outdated : c.runtime.isOutdatedEntry i.pc = true) :
      StubOf c i .zombieEntry c.runtime.resolveStub
  | safepointPoll {thread : ManagedThread} {address stub : Word} (signal : i.signal = .segv)
      (fault : i.FaultsWhile .managed thread address)
      (poll : c.runtime.isPoll address = true)
      (answer : c.runtime.safepointStub i.pc = some stub) :
      StubOf c i .safepointPoll stub
  | unsafeAccess {thread : ManagedThread} {address : Word} (signal : i.signal = .bus)
      (fault : i.FaultsWhile .managed thread address)
      (unchecked : ∃ m, c.runtime.methodAt i.pc = some m ∧ m.uncheckedAccesses = true) :
      StubOf c i .unsafeAccess (c.runtime.uncheckedStub thread (i.pc + Word.instructionBytes))
  | divideByZero {thread : ManagedThread} {address stub : Word} (signal : i.signal = .fpe)
      (fault : i.FaultsWhile .managed thread address)
      (division : i.info.dividesByZero = true)
      (answer : c.runtime.raiseStub thread i.pc .divideByZero = some stub) :
      StubOf c i .divideByZero stub
  | implicitNull {thread : ManagedThread} {address stub : Word} (signal : i.signal = .segv)
      (fault : i.FaultsWhile .managed thread address)
      (noPoll : c.runtime.isPoll address = false)
      (null : c.settings.beyondNullPage address = false)
      (answer : c.runtime.raiseStub thread i.pc .null = some stub) :
      StubOf c i .implicitNull stub
  | runtimeUnsafeAccess {thread : ManagedThread} {address : Word} (signal : i.signal = .bus)
      (fault : i.FaultsWhile .runtime thread address)
      (unchecked : thread.inUncheckedAccess = true) :
      StubOf c i .runtimeUnsafeAccess
        (c.runtime.uncheckedStub thread (i.pc + Word.instructionBytes))
  | fastAccessorSlowCase {thread : ManagedThread} {address stub : Word}
      (signal : i.signal = .segv ∨ i.signal = .bus)
      (known : i.fault? = some (thread, address))
      (answer : c.runtime.slowPath i.pc = some stub) :
      StubOf c i .fastAccessorSlowCase stub

/-- The rules that may ignore a trap. -/
def TrapRule.mayIgnore : List TrapRule :=
  [.brokenPipe, .nativeStackOverflow, .serializePage, .chained]

/-- The rules that may escalate a trap. -/
def TrapRule.mayEscalate : List TrapRule :=
  [.stackRedZone, .unrecognized]

/-- A classification that its rule may give to the trap. -/
def Classification.Justified (c : Classifier) (i : Trap) (cl : Classification) : Prop :=
  match cl.disposition with
  | .ignore => cl.rule ∈ TrapRule.mayIgnore
  | .redirect stub => StubOf c i cl.rule stub
  | .escalate => cl.rule ∈ TrapRule.mayEscalate

/-- The rules that a stage may answer with. -/
def Stage.rules : Stage → List TrapRule
  | .brokenPipe => [.brokenPipe]
  | .safeFetch => [.safeFetch]
  | .stackGuard => [.stackRedZone, .reservedStack, .stackOverflow, .nativeStackOverflow]
  | .managedCode => [.zombieEntry, .safepointPoll, .unsafeAccess, .divideByZero, .implicitNull]
  | .runtimeUnsafeAccess => [.runtimeUnsafeAccess]
  | .fastAccessorSlowCase => [.fastAccessorSlowCase]
  | .serializePage => [.serializePage]
  | .chained => [.chained]
  | .unrecognized => [.unrecognized]

/-- What a stage answers is justified and by one of its rules, if it is anything. -/
def JustifiedIfAny (c : Classifier) (i : Trap) (stage : Stage) (r : Option Classification) :
    Prop :=
  ∀ cl, r = some cl → cl.Justified c i ∧ cl.rule ∈ stage.rules

lemma justifiedIfAny_none (c : Classifier) (i : Trap) (stage : Stage) :
    JustifiedIfAny c i stage none :=
  fun _ h => by simp at h

lemma justifiedIfAny_some {c : Classifier} {i : Trap} {stage : Stage} {cl : Classification}
    (hrule : cl.rule ∈ stage.rules) (h : cl.Justified c i) :
    JustifiedIfAny c i stage (some cl) := by
  intro cl' heq
  rw [Option.some.injEq] at heq
  exact heq ▸ ⟨h, hrule⟩

/-- Redirecting to the stub that was found, if there is one. -/
lemma justifiedIfAny_redirect {c : Classifier} {i : Trap} {stage : Stage} {rule : TrapRule}
    (hrule : rule ∈ stage.rules) {stub : Option Word}
    (h : ∀ w, stub = some w → StubOf c i rule w) :
    JustifiedIfAny c i stage (stub.bind (Classifier.redirect rule)) := by
  cases stub with
  | none => exact justifiedIfAny_none c i stage
  | some w => exact justifiedIfAny_some hrule (h w rfl)

/-! ## Every rule answers what it may -/

namespace Classifier

open RuleM

variable (c : Classifier) (i : Trap)

lemma answers_safeFetch : (c.safeFetch i).Answers (JustifiedIfAny c i .safeFetch) :=
  answers_ask_bind (answers_pure (justifiedIfAny_redirect (by decide) fun _ => .safeFetch))

lemma answers_stackGuard : (c.stackGuard i).Answers (JustifiedIfAny c i .stackGuard) := by
  intro s
  have houtcome := c.stackGuard_outcome i s
  generalize (c.stackGuard i).run s = out at houtcome ⊢
  obtain ⟨r, t⟩ := out
  cases houtcome with
  | passed => exact justifiedIfAny_none c i _
  | native =>
    exact justifiedIfAny_some (by decide) (by simp [Classification.Justified, TrapRule.mayIgnore])
  | lent fault _ managed =>
    have hrule : TrapRule.reservedStack ∈ Stage.stackGuard.rules := by decide
    exact justifiedIfAny_some hrule (.reservedStack fault.signal ⟨fault.known, managed⟩)
  | overflow fault _ managed =>
    exact justifiedIfAny_redirect (by decide) fun _ =>
      .stackOverflow fault.signal ⟨fault.known, managed⟩
  | red =>
    exact justifiedIfAny_some (by decide)
      (by simp [Classification.Justified, TrapRule.mayEscalate])

variable {i} {thread : ManagedThread} {address : Word}

lemma answers_zombieEntry (signal : i.signal = .ill ∨ i.signal = .trap)
    (fault : i.FaultsWhile .managed thread address) :
    (c.zombieEntry i).Answers (JustifiedIfAny c i .managedCode) := by
  unfold zombieEntry
  refine answers_ask_bind ?_
  split
  · next outdated =>
    have hrule : TrapRule.zombieEntry ∈ Stage.managedCode.rules := by decide
    exact answers_ask_bind
      (answers_pure (justifiedIfAny_some hrule (.zombieEntry signal fault outdated)))
  · exact answers_pure (justifiedIfAny_none c i _)

lemma answers_managedSegv (signal : i.signal = .segv)
    (fault : i.FaultsWhile .managed thread address) :
    (c.managedSegv i thread address).Answers (JustifiedIfAny c i .managedCode) := by
  unfold managedSegv
  refine answers_ask_bind ?_
  split
  · next poll =>
    exact answers_ask_bind (answers_pure
      (justifiedIfAny_redirect (by decide) fun _ => .safepointPoll signal fault poll))
  · next noPoll =>
    split
    · exact answers_pure (justifiedIfAny_none c i _)
    · next null =>
      exact answers_ask_bind (answers_pure (justifiedIfAny_redirect (by decide) fun _ =>
        .implicitNull signal fault (by simpa using noPoll) (by simpa using null)))

lemma answers_uncheckedAccess (signal : i.signal = .bus)
    (fault : i.FaultsWhile .managed thread address) :
    (c.uncheckedAccess i thread).Answers (JustifiedIfAny c i .managedCode) := by
  unfold uncheckedAccess
  refine answers_ask_bind ?_
  split
  · exact answers_pure (justifiedIfAny_none c i _)
  · next method hmethod =>
    split
    · exact answers_pure (justifiedIfAny_none c i _)
    · next hunchecked =>
      have hrule : TrapRule.unsafeAccess ∈ Stage.managedCode.rules := by decide
      have hmarked : method.uncheckedAccesses = true := by simpa using hunchecked
      exact answers_ask_bind (answers_pure
        (justifiedIfAny_some hrule (.unsafeAccess signal fault ⟨method, hmethod, hmarked⟩)))

variable (i)

lemma answers_managedCode : (c.managedCode i).Answers (JustifiedIfAny c i .managedCode) := by
  unfold managedCode
  split
  · exact answers_pure (justifiedIfAny_none c i _)
  · next hactivity =>
    split
    · exact answers_pure (justifiedIfAny_none c i _)
    · next thread address hknown =>
      have fault : i.FaultsWhile .managed thread address := by
        have hthread := (Trap.fault?_eq_some_iff.mp hknown).1
        rw [Trap.activity, hthread] at hactivity
        exact ⟨hknown, by simpa using hactivity⟩
      split
      · next signal => exact c.answers_zombieEntry (.inl signal) fault
      · next signal => exact c.answers_zombieEntry (.inr signal) fault
      · next signal => exact c.answers_managedSegv signal fault
      · next signal => exact c.answers_uncheckedAccess signal fault
      · next signal =>
        split
        · next division =>
          exact answers_ask_bind (answers_pure (justifiedIfAny_redirect (by decide) fun _ =>
            .divideByZero signal fault division))
        · exact answers_pure (justifiedIfAny_none c i _)
      · exact answers_pure (justifiedIfAny_none c i _)

lemma answers_runtimeUnsafeAccess :
    (c.runtimeUnsafeAccess i).Answers (JustifiedIfAny c i .runtimeUnsafeAccess) := by
  unfold runtimeUnsafeAccess
  split
  · exact answers_pure (justifiedIfAny_none c i _)
  · next thread address hknown =>
    split
    · exact answers_pure (justifiedIfAny_none c i _)
    · next happlies =>
      simp only [not_or, not_not, Bool.not_eq_true', Bool.not_eq_false] at happlies
      obtain ⟨signal, state, unchecked⟩ := happlies
      have hrule : TrapRule.runtimeUnsafeAccess ∈ Stage.runtimeUnsafeAccess.rules := by decide
      exact answers_ask_bind (answers_pure
        (justifiedIfAny_some hrule (.runtimeUnsafeAccess signal ⟨hknown, state⟩ unchecked)))

lemma answers_fastAccessorSlowCase :
    (c.fastAccessorSlowCase i).Answers (JustifiedIfAny c i .fastAccessorSlowCase) := by
  unfold fastAccessorSlowCase
  split
  · exact answers_pure (justifiedIfAny_none c i _)
  · next happlies =>
    rw [not_or, not_and_or, not_not, not_not] at happlies
    obtain ⟨hknown, signal⟩ := happlies
    cases hfault : i.fault? with
    | none => simp [hfault] at hknown
    | some f =>
      exact answers_ask_bind (answers_pure (justifiedIfAny_redirect (by decide) fun _ =>
        .fastAccessorSlowCase signal hfault))

lemma answers_serializePage :
    (c.serializePage i).Answers (JustifiedIfAny c i .serializePage) := by
  unfold serializePage
  split
  · exact answers_pure (justifiedIfAny_none c i _)
  · split
    · exact answers_pure (justifiedIfAny_none c i _)
    · refine answers_ask_bind ?_
      split
      · refine answers_ask_bind (answers_pure (justifiedIfAny_some (by decide) ?_))
        simp [Classification.Justified, TrapRule.mayIgnore]
      · exact answers_pure (justifiedIfAny_none c i _)

lemma returns_brokenPipe (offer : TrapM Bool) :
    (brokenPipe offer i).Returns (JustifiedIfAny c i .brokenPipe) := by
  have hignore : JustifiedIfAny c i .brokenPipe
      (some { rule := .brokenPipe, disposition := .ignore }) :=
    justifiedIfAny_some (by decide) (by simp [Classification.Justified, TrapRule.mayIgnore])
  unfold brokenPipe
  split
  · refine TrapM.returns_bind (TrapM.returns_any _) fun handled _ => ?_
    split
    · exact TrapM.returns_bind (TrapM.returns_any _) fun _ _ => TrapM.returns_pure hignore
    · exact TrapM.returns_pure hignore
  · exact TrapM.returns_pure (justifiedIfAny_none c i _)

lemma returns_chained (offer : TrapM Bool) :
    (chained offer).Returns (JustifiedIfAny c i .chained) := by
  refine TrapM.returns_bind (TrapM.returns_any _) fun handled _ => ?_
  split
  · refine TrapM.returns_pure (justifiedIfAny_some (by decide) ?_)
    simp [Classification.Justified, TrapRule.mayIgnore]
  · exact TrapM.returns_pure (justifiedIfAny_none c i _)

lemma returns_attempt (offer : TrapM Bool) (stage : Stage) :
    (c.attempt offer i stage).Returns (JustifiedIfAny c i stage) := by
  cases stage with
  | brokenPipe => exact returns_brokenPipe c i offer
  | safeFetch => exact TrapM.returns_onScene (c.answers_safeFetch i)
  | stackGuard => exact TrapM.returns_onScene (c.answers_stackGuard i)
  | managedCode => exact TrapM.returns_onScene (c.answers_managedCode i)
  | runtimeUnsafeAccess => exact TrapM.returns_onScene (c.answers_runtimeUnsafeAccess i)
  | fastAccessorSlowCase => exact TrapM.returns_onScene (c.answers_fastAccessorSlowCase i)
  | serializePage => exact TrapM.returns_onScene (c.answers_serializePage i)
  | chained => exact returns_chained c i offer
  | unrecognized =>
    refine TrapM.returns_pure (justifiedIfAny_some (by decide) ?_)
    simp [Classification.Justified, unrecognized, TrapRule.mayEscalate]

/-- Whatever classification returns, its rule may give it. -/
lemma returns_classify (offer : TrapM Bool) :
    (c.classify offer i).Returns (Classification.Justified c i) := by
  have hstages := TrapM.returns_findSomeM? Stage.order fun stage _ =>
    (c.returns_attempt i offer stage).mono fun _ hanswer cl hcl => (hanswer cl hcl).1
  unfold classify
  refine TrapM.returns_bind hstages fun found hfound => ?_
  have hjustified : (found.getD unrecognized).Justified c i := by
    cases found with
    | some cl => exact hfound cl rfl
    | none => simp [Classification.Justified, unrecognized, TrapRule.mayEscalate]
  dsimp only
  split
  · refine TrapM.returns_bind (TrapM.returns_any _) fun _ _ => ?_
    exact TrapM.returns_bind (TrapM.returns_any _) fun _ _ => TrapM.returns_pure hjustified
  · exact TrapM.returns_pure hjustified

end Classifier

/-! ## No redirection out of nowhere -/

/-- Every rule with a stub but two requires a fault in managed code or in the runtime, and the
fast accessors require a known fault. -/
lemma StubOf.required {c : Classifier} {i : Trap} {rule : TrapRule} {stub : Word}
    (h : StubOf c i rule stub) :
    rule = .safeFetch ∨
      (rule = .fastAccessorSlowCase ∧ ∃ thread address, i.fault? = some (thread, address)) ∨
      ∃ activity thread address, (activity = .managed ∨ activity = .runtime) ∧
        i.FaultsWhile activity thread address := by
  cases h with
  | safeFetch => exact .inl rfl
  | fastAccessorSlowCase _ known => exact .inr (.inl ⟨rfl, _, _, known⟩)
  | reservedStack _ fault => exact .inr (.inr ⟨_, _, _, .inl rfl, fault⟩)
  | stackOverflow _ fault => exact .inr (.inr ⟨_, _, _, .inl rfl, fault⟩)
  | zombieEntry _ fault => exact .inr (.inr ⟨_, _, _, .inl rfl, fault⟩)
  | safepointPoll _ fault => exact .inr (.inr ⟨_, _, _, .inl rfl, fault⟩)
  | unsafeAccess _ fault => exact .inr (.inr ⟨_, _, _, .inl rfl, fault⟩)
  | divideByZero _ fault => exact .inr (.inr ⟨_, _, _, .inl rfl, fault⟩)
  | implicitNull _ fault => exact .inr (.inr ⟨_, _, _, .inl rfl, fault⟩)
  | runtimeUnsafeAccess _ fault => exact .inr (.inr ⟨_, _, _, .inr rfl, fault⟩)

/-- Without a managed thread only a speculative read has a stub. -/
lemma StubOf.eq_safeFetch_of_no_thread {c : Classifier} {i : Trap} {rule : TrapRule} {stub : Word}
    (h : StubOf c i rule stub) (hthread : i.thread = none) : rule = .safeFetch := by
  have hunknown : ∀ thread address, i.fault? ≠ some (thread, address) := by
    intro thread address hknown
    have := (Trap.fault?_eq_some_iff.mp hknown).1
    simp [hthread] at this
  rcases h.required with hsafe | ⟨-, thread, address, known⟩ | ⟨_, thread, address, -, fault⟩
  · exact hsafe
  · exact absurd known (hunknown thread address)
  · exact absurd fault.known (hunknown thread address)

/-- While a thread runs native code or is blocked, only speculative reads and fast accessors have
a stub. -/
lemma StubOf.rule_of_outside {c : Classifier} {i : Trap} {rule : TrapRule} {stub : Word}
    {thread : ManagedThread} (h : StubOf c i rule stub) (hthread : i.thread = some thread)
    (hstate : thread.state = .native ∨ thread.state = .blocked) :
    rule = .safeFetch ∨ rule = .fastAccessorSlowCase := by
  rcases h.required with hsafe | ⟨hfast, -⟩ | ⟨activity, thread', _, hactivity, fault⟩
  · exact .inl hsafe
  · exact .inr hfast
  · have hsame := (Trap.fault?_eq_some_iff.mp fault.known).1
    rw [hthread, Option.some.injEq] at hsame
    rw [hsame, fault.state] at hstate
    rcases hactivity with rfl | rfl <;> simp at hstate

/-- Whoever is asked and whatever the guard: if classification redirects the thread, then to a
stub that the rule owns for this trap, and if it ignores or escalates the trap, then by one of the
few rules that may. -/
theorem stub_owned_of_classify {c : Classifier} {offer : TrapM Bool} {i : Trap}
    {s t : ProcessState} {cl : Classification} (h : (c.classify offer i).run s = .ok cl t) :
    (∀ stub, cl.disposition = .redirect stub →
      StubOf c i cl.rule stub ∧
      (i.thread = none → cl.rule = .safeFetch) ∧
      (∀ thread, i.thread = some thread → thread.state = .native ∨ thread.state = .blocked →
        cl.rule = .safeFetch ∨ cl.rule = .fastAccessorSlowCase)) ∧
    (cl.disposition = .escalate → cl.rule = .stackRedZone ∨ cl.rule = .unrecognized) ∧
    (cl.disposition = .ignore →
      cl.rule = .brokenPipe ∨ cl.rule = .nativeStackOverflow ∨ cl.rule = .serializePage ∨
        cl.rule = .chained) := by
  have hjustified := c.returns_classify i offer s cl t h
  unfold Classification.Justified at hjustified
  refine ⟨fun stub hstub => ?_, fun hescalate => ?_, fun hignore => ?_⟩
  · rw [hstub] at hjustified
    exact ⟨hjustified, hjustified.eq_safeFetch_of_no_thread,
      fun _ hthread hstate => hjustified.rule_of_outside hthread hstate⟩
  · rw [hescalate] at hjustified
    simpa [TrapRule.mayEscalate] using hjustified
  · rw [hignore] at hjustified
    simpa [TrapRule.mayIgnore] using hjustified

/-- A runtime that knows no code, has no stubs and no foreign functions. -/
def ManagedRuntime.silent : ManagedRuntime where
  interprets _ := false
  methodAt _ := none
  isOutdatedEntry _ := false
  raiseStub _ _ _ := none
  resolveStub := 0
  safepointStub _ := none
  uncheckedStub _ _ := 0
  reserveHolder _ _ := none
  speculativeStub _ := none
  slowPath _ := none
  isPoll _ := false
  isSerialization _ := false
  foreign _ _ := .answer false
  reporter _ _ := .answer false

/-- A system whose runtime recognises nothing. -/
def Dispatcher.silent : Dispatcher :=
  { classifier := { settings := {}, runtime := .silent }, control := .system }

/-- A runtime that raises exceptions for faults in its interpreter, and lends the reserved zone to
every interpreted frame. -/
def ManagedRuntime.interpreter (low high stub : Word) : ManagedRuntime :=
  { ManagedRuntime.silent with
    interprets := fun pc => decide (low ≤ pc) && decide (pc < high)
    raiseStub := fun _ pc _ => if low ≤ pc ∧ pc < high then some stub else none
    reserveHolder := fun _ frame => some { frame, callerSp := frame.sp, interpreted := true } }

/-- A fault in the reserved zone while the interpreter tests the stack. -/
def Trap.inReserve : Trap :=
  { info := { signal := .segv, faultAddress := some 0x1000003010 }
    raw := { signo := 11 }
    context := .portable { pc := 0x10000040, sp := 0x1000003020 }
    thread := some { id := 7, state := .managed } }

/-- A process whose thread has an armed guard, the pages of which are not touched. -/
def ProcessState.armedThread : ProcessState :=
  { scene :=
      { pages := default
        guard := some
          { layout :=
              { stackBase := 0x1000010000, stackSize := 0x10000, redSize := 0x1000
                yellowSize := 0x2000, reservedSize := 0x1000 }
            mode := .tracked, state := .enabled, redArmed := true } } }

/-- A fault in the reserved zone of an interpreted method resumes at the faulting instruction. -/
theorem reserved_retry_owned :
    ∃ t, (Classifier.classify
          { settings := {}, runtime := .interpreter 0x10000000 0x10010000 0x60000100 }
          (return false) .inReserve).run .armedThread =
        .ok { rule := .reservedStack, disposition := .redirect 0x10000040 } t ∧
      StubOf { settings := {}, runtime := .interpreter 0x10000000 0x10010000 0x60000100 }
        .inReserve .reservedStack 0x10000040 := by
  have hrun : (Classifier.classify
        { settings := {}, runtime := .interpreter 0x10000000 0x10010000 0x60000100 }
        (return false) .inReserve).run .armedThread =
      .ok { rule := .reservedStack, disposition := .redirect 0x10000040 } _ := rfl
  exact ⟨_, hrun, ((stub_owned_of_classify hrun).1 _ rfl).1⟩

end ManagedFaults
