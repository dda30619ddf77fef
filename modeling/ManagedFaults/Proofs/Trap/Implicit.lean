import ManagedFaults.Proofs.Trap.Overflow

/-!
# Implicit exceptions

Managed code tests neither a divisor nor a reference before it uses them: the fault of the
instruction stands for the exception.  No fault is taken for one that is not, since every stub
has its owner (`Classifier.returns_classify`); what is shown here besides is that none is missed,
so that an exception is raised if and only if the fault stands for it and the runtime has a stub
(`implicit_exception_iff`).
-/

namespace ManagedFaults

/-! ## Faults that stand for exceptions -/

lemma SignalCause.dividesByZero_iff {cause : SignalCause} :
    cause.dividesByZero = true ↔
      cause.signal = .fpe ∧
        (cause.code = some intDivideCode ∨ cause.code = some floatDivideCode) := by
  simp only [dividesByZero, Bool.and_eq_true, Bool.or_eq_true, beq_iff_eq]

namespace TrapSettings

variable {c : TrapSettings} {a : Word}

/-- The addresses at which a null reference is used: less than a page above zero, or less than a
page above the base that references count from. -/
def InNullWindow (c : TrapSettings) (a : Word) : Prop :=
  a < c.pageSize ∨ ∃ base, c.heapBase = some base ∧ base ≤ a ∧ a - base < c.pageSize

/-- An address above the heap base is only compared with the base, which loses nothing: it is
farther from zero. -/
lemma nullOffset_lt_iff : c.nullOffset a < c.pageSize ↔ c.InNullWindow a := by
  unfold nullOffset InNullWindow
  cases c.heapBase with
  | none => simp
  | some base =>
    simp only [Option.some.injEq, exists_eq_left']
    by_cases hle : base ≤ a
    · have hcloser : (a - base).toNat = a.toNat - base.toNat := UInt64.toNat_sub_of_le _ _ hle
      rw [if_pos hle]
      constructor
      · intro hclose
        exact .inr ⟨hle, hclose⟩
      · rintro (hfirst | ⟨-, hclose⟩)
        · rw [UInt64.lt_iff_toNat_lt] at hfirst ⊢
          omega
        · exact hclose
    · rw [if_neg hle]
      simp [hle]

/-- Offsets that are negative as signed words are at least a page, unless a page is more than half
of all memory. -/
lemma beyondNullPage_eq_false_iff (hpage : c.pageSize ≤ 0x8000000000000000) :
    c.beyondNullPage a = false ↔ c.InNullWindow a := by
  have hhalf : (0x8000000000000000 : Word).toNat = 2 ^ 63 := rfl
  rw [← nullOffset_lt_iff, beyondNullPage, Bool.or_eq_false_iff, decide_eq_false_iff_not,
    decide_eq_false_iff_not, UInt64.not_le, UInt64.not_le]
  rw [UInt64.le_iff_toNat_le] at hpage
  simp only [UInt64.lt_iff_toNat_lt]
  omega

end TrapSettings

/-! ## The rule for managed code -/

namespace Trap.FaultsWhile

variable {i : Trap} {activity : Activity} {thread thread' : ManagedThread} {address address' : Word}

lemma activity_eq (fault : i.FaultsWhile activity thread address) :
    i.activity = some activity := by
  rw [Trap.activity, (Trap.fault?_eq_some_iff.mp fault.known).1, ← fault.state]
  rfl

/-- Which thread and address a fault is about is read off the trap. -/
lemma unique (fault : i.FaultsWhile activity thread address)
    (fault' : i.FaultsWhile activity thread' address') : thread = thread' ∧ address = address' := by
  have hsame := fault.known.symm.trans fault'.known
  simpa using hsame

end Trap.FaultsWhile

/-- The stages after the one for managed code. -/
def Stage.afterManaged : List Stage :=
  [.runtimeUnsafeAccess, .fastAccessorSlowCase, .serializePage, .chained, .unrecognized]

namespace Classifier

variable {c : Classifier} {i : Trap} {s : ProcessState} {thread : ManagedThread} {address : Word}

/-- A division by zero is raised if there is a stub for it. -/
lemma answers_managedCode_of_division (fault : i.FaultsWhile .managed thread address)
    (hdivision : i.info.dividesByZero = true) :
    (c.managedCode i).Answers
      (· = (c.runtime.raiseStub thread i.pc .divideByZero).bind (redirect .divideByZero)) := by
  intro s
  have hsignal : i.signal = .fpe := (SignalCause.dividesByZero_iff.mp hdivision).1
  unfold managedCode
  rw [if_neg (not_not_intro fault.activity_eq)]
  simp only [fault.known, hsignal]
  rw [if_pos hdivision]
  rfl

/-- What becomes of a segmentation fault in managed code. -/
lemma answers_managedCode_of_segv (fault : i.FaultsWhile .managed thread address)
    (hsignal : i.signal = .segv) :
    (c.managedCode i).Answers
      (· = if c.runtime.isPoll address then
            (c.runtime.safepointStub i.pc).bind (redirect .safepointPoll)
          else if c.settings.beyondNullPage address then
            none
          else
            (c.runtime.raiseStub thread i.pc .null).bind (redirect .implicitNull)) := by
  intro s
  unfold managedCode managedSegv
  rw [if_neg (not_not_intro fault.activity_eq)]
  simp only [fault.known, hsignal]
  rw [RuleM.run_ask_bind]
  cases c.runtime.isPoll address with
  | true => rfl
  | false =>
    cases c.settings.beyondNullPage address <;> rfl

/-- A trap that is neither a speculative read nor hits a guard zone, and that handlers are not asked
about first. -/
structure ReachesManaged (c : Classifier) (i : Trap) (s : Scene) : Prop where
  pipe : i.signal.isBrokenPipe = false
  fetch : c.runtime.speculativeStub i.pc = none
  outside : ∀ thread address g, c.StackFault i s thread address g →
    g.layout.isOutside (c.lowered address) = true

/-- Goes on after the rule for managed code: the later stages are tried if it has passed. -/
def afterManaged (c : Classifier) (offer : TrapM Bool) (i : Trap) :
    Option Classification → TrapM Classification
  | some cl => c.announce i cl
  | none => do
    let found ← Stage.afterManaged.findSomeM? (c.attempt offer i)
    c.announce i (found.getD unrecognized)

/-- The stages after the one for managed code classify the trap; all that has happened before is
that questions were asked. -/
def LeftToLater (c : Classifier) (offer : TrapM Bool) (i : Trap) (s : ProcessState) : Prop :=
  ∃ asked : List Interaction, (∀ q ∈ asked, q.isQuestion = true) ∧
    (c.classify offer i).run s = (c.afterManaged offer i none).run
      { s with scene := { s.scene with interactions := s.scene.interactions ++ asked } }

/-- If the stack-guard rule passes, the rule for managed code comes next. -/
lemma run_afterGuard_none (offer : TrapM Bool) :
    (c.afterGuard offer i none).run s =
      (c.afterManaged offer i ((c.managedCode i).run s.scene).1).run
        { s with scene := ((c.managedCode i).run s.scene).2 } := by
  have hstages : Stage.afterGuard = .managedCode :: Stage.afterManaged := rfl
  have hfirst : (c.attempt offer i .managedCode).run s =
      .ok ((c.managedCode i).run s.scene).1
        { s with scene := ((c.managedCode i).run s.scene).2 } := rfl
  unfold afterGuard
  rw [hstages, List.findSomeM?_cons, bind_assoc, TrapM.run_bind_of_ok hfirst]
  cases ((c.managedCode i).run s.scene).1 <;> rfl

/-- What the rule for managed code answers decides about a trap that reaches it. -/
lemma run_classify_of_reached (h : c.ReachesManaged i s.scene) {r : Option Classification}
    (hanswer : (c.managedCode i).Answers (· = r)) (offer : TrapM Bool) :
    ∃ asked : List Interaction, (∀ q ∈ asked, q.isQuestion = true) ∧
      (c.classify offer i).run s = (c.afterManaged offer i r).run
        { s with scene := { s.scene with interactions := s.scene.interactions ++ asked } } := by
  obtain ⟨r', asked, hasked, hmanaged⟩ := c.onlyAsks_managedCode i
  obtain rfl : r' = r := by
    have hsame := hanswer s.scene
    rwa [hmanaged] at hsame
  have hguard : (c.stackGuard i).run (s.scene.record (.speculativeStub i.pc)) =
      (none, s.scene.record (.speculativeStub i.pc)) :=
    run_stackGuard_of_outside fun thread address g fault =>
      h.outside thread address g ⟨fault.signal, fault.known, fault.guarded, fault.onStack⟩
  refine ⟨.speculativeStub i.pc :: asked, ?_, ?_⟩
  · intro q hq
    rcases List.mem_cons.mp hq with rfl | hq
    · rfl
    · exact hasked q hq
  · rw [classify_eq_with, run_classifyWith h.pipe h.fetch, hguard, run_afterGuard_none, hmanaged]
    simp [Scene.record]

/-- A rule for managed code that answers has the last word. -/
lemma returned_of_reached (h : c.ReachesManaged i s.scene) {cl : Classification}
    (hanswer : (c.managedCode i).Answers (· = some cl)) (offer : TrapM Bool) :
    (c.classify offer i).returned s = some cl := by
  obtain ⟨asked, -, hrun⟩ := run_classify_of_reached h hanswer offer
  obtain ⟨t, hannounce, -⟩ := c.run_announce i cl
    { s with scene := { s.scene with interactions := s.scene.interactions ++ asked } }
  have hok : (c.classify offer i).run s = .ok cl _ := hrun.trans hannounce
  unfold TrapM.returned
  rw [hok]

/-- A redirection that is returned goes to a stub that its rule owns. -/
lemma stubOf_of_returned {offer : TrapM Bool} {rule : TrapRule} {stub : Word}
    (h : (c.classify offer i).returned s = some { rule, disposition := .redirect stub }) :
    StubOf c i rule stub :=
  c.returns_classify i offer s _ _ (TrapM.returned_eq_some_iff.mp h)

/-- A fault is not taken for the use of a null reference without a stub to raise the exception. -/
lemma exists_stubOf_of_implicitNull {offer : TrapM Bool} {cl : Classification}
    (h : (c.classify offer i).returned s = some cl) (hrule : cl.rule = .implicitNull) :
    ∃ stub, StubOf c i .implicitNull stub := by
  have hjustified := c.returns_classify i offer s _ _ (TrapM.returned_eq_some_iff.mp h)
  unfold Classification.Justified at hjustified
  rw [hrule] at hjustified
  cases hdisposition : cl.disposition with
  | redirect stub =>
    rw [hdisposition] at hjustified
    exact ⟨stub, hjustified⟩
  | ignore =>
    rw [hdisposition] at hjustified
    simp [TrapRule.mayIgnore] at hjustified
  | escalate =>
    rw [hdisposition] at hjustified
    simp [TrapRule.mayEscalate] at hjustified

end Classifier

/-! ## Recognising implicit exceptions -/

namespace Classifier.ReachesManaged

variable {c : Classifier} {i : Trap} {s : Scene}

/-- A division by zero is no overflow of the stack, whatever its address. -/
lemma of_fpe (hfetch : c.runtime.speculativeStub i.pc = none) (hsignal : i.signal = .fpe) :
    c.ReachesManaged i s where
  pipe := by
    rw [hsignal]
    rfl
  fetch := hfetch
  outside := by
    intro _ _ _ fault
    have hsegv := fault.signal
    rw [hsignal] at hsegv
    cases hsegv

lemma of_segv {activity : Activity} {thread : ManagedThread} {address : Word}
    (fault : i.FaultsWhile activity thread address)
    (hfetch : c.runtime.speculativeStub i.pc = none) (hsignal : i.signal = .segv)
    (houtside : ∀ g, s.guard = some g → g.layout.isOutside (c.lowered address) = true) :
    c.ReachesManaged i s where
  pipe := by
    rw [hsignal]
    rfl
  fetch := hfetch
  outside := by
    intro _ _ g hstack
    obtain ⟨-, rfl, -⟩ := hstack.unique fault.known hstack.guarded
    exact houtside g hstack.guarded

end Classifier.ReachesManaged

open Classifier in
/-- A fault of managed code at a known address, but not at a speculative read.

A division by zero is raised if and only if the runtime has a stub for it at this place, whatever
the address, the guard and the code around.  A segmentation fault that hits no guard zone is the use
of a null reference if and only if its address is no poll, lies in the null window, and the runtime
has a stub; at the address of a poll the stub for the poll is taken if there is one, but never that
for a null reference.  Faults that get no stub are left to the later stages. -/
theorem implicit_exception_iff {c : Classifier} {i : Trap} {thread : ManagedThread}
    {address : Word} (fault : i.FaultsWhile .managed thread address)
    (hfetch : c.runtime.speculativeStub i.pc = none) (offer : TrapM Bool) (s : ProcessState) :
    (i.signal = .fpe →
      i.info.code = some intDivideCode ∨ i.info.code = some floatDivideCode →
      (∀ stub,
        (c.classify offer i).returned s =
            some { rule := .divideByZero, disposition := .redirect stub } ↔
          c.runtime.raiseStub thread i.pc .divideByZero = some stub) ∧
      (c.runtime.raiseStub thread i.pc .divideByZero = none → c.LeftToLater offer i s)) ∧
    (i.signal = .segv →
      (∀ g, s.scene.guard = some g → g.layout.isOutside (c.lowered address) = true) →
      c.settings.pageSize ≤ 0x8000000000000000 →
      (∀ stub,
        (c.classify offer i).returned s =
            some { rule := .implicitNull, disposition := .redirect stub } ↔
          c.runtime.isPoll address = false ∧ c.settings.InNullWindow address ∧
            c.runtime.raiseStub thread i.pc .null = some stub) ∧
      (c.runtime.isPoll address = false →
        ¬c.settings.InNullWindow address ∨ c.runtime.raiseStub thread i.pc .null = none →
        c.LeftToLater offer i s)) ∧
    (i.signal = .segv →
      (∀ g, s.scene.guard = some g → g.layout.isOutside (c.lowered address) = true) →
      c.runtime.isPoll address = true →
      (∀ stub, c.runtime.safepointStub i.pc = some stub →
        (c.classify offer i).returned s =
          some { rule := .safepointPoll, disposition := .redirect stub }) ∧
      (∀ cl, (c.classify offer i).returned s = some cl → cl.rule ≠ .implicitNull) ∧
      (c.runtime.safepointStub i.pc = none → c.LeftToLater offer i s)) := by
  refine ⟨fun hfpe hcode => ?_, fun hsegv houtside hpage => ?_, fun hsegv houtside hpoll => ?_⟩
  · have hreached := ReachesManaged.of_fpe (s := s.scene) hfetch hfpe
    have hanswer := answers_managedCode_of_division (c := c) fault
      (SignalCause.dividesByZero_iff.mpr ⟨hfpe, hcode⟩)
    refine ⟨fun stub => ⟨fun hreturned => ?_, fun hstub => ?_⟩, fun hstub => ?_⟩
    · cases stubOf_of_returned hreturned with
      | divideByZero _ fault' _ answer =>
        obtain ⟨rfl, rfl⟩ := fault.unique fault'
        exact answer
    · rw [hstub] at hanswer
      exact returned_of_reached hreached hanswer offer
    · rw [hstub] at hanswer
      exact run_classify_of_reached hreached hanswer offer
  · have hreached := ReachesManaged.of_segv fault hfetch hsegv houtside
    have hanswer := answers_managedCode_of_segv (c := c) fault hsegv
    have hwindow := TrapSettings.beyondNullPage_eq_false_iff (a := address) hpage
    refine ⟨fun stub => ⟨fun hreturned => ?_, ?_⟩, fun hpoll hnone => ?_⟩
    · cases stubOf_of_returned hreturned with
      | implicitNull _ fault' hpoll hnull answer =>
        obtain ⟨rfl, rfl⟩ := fault.unique fault'
        exact ⟨hpoll, hwindow.mp hnull, answer⟩
    · rintro ⟨hpoll, hnull, hstub⟩
      rw [hpoll, hwindow.mpr hnull, hstub] at hanswer
      exact returned_of_reached hreached hanswer offer
    · -- either the rule does not look for a stub, or it finds none
      refine run_classify_of_reached hreached ?_ offer
      rw [hpoll] at hanswer
      cases hbeyond : c.settings.beyondNullPage address with
      | true =>
        rw [hbeyond] at hanswer
        exact hanswer
      | false =>
        have hstub := hnone.resolve_left (not_not_intro (hwindow.mp hbeyond))
        rw [hbeyond, hstub] at hanswer
        exact hanswer
  · have hreached := ReachesManaged.of_segv fault hfetch hsegv houtside
    have hanswer := answers_managedCode_of_segv (c := c) fault hsegv
    rw [hpoll] at hanswer
    refine ⟨fun stub hstub => ?_, fun cl hreturned hrule => ?_, fun hstub => ?_⟩
    · rw [hstub] at hanswer
      exact returned_of_reached hreached hanswer offer
    · obtain ⟨stub, hstub⟩ := exists_stubOf_of_implicitNull hreturned hrule
      cases hstub with
      | implicitNull _ fault' hnoPoll =>
        obtain ⟨rfl, rfl⟩ := fault.unique fault'
        rw [hpoll] at hnoPoll
        cases hnoPoll
    · rw [hstub] at hanswer
      exact run_classify_of_reached hreached hanswer offer

/-- The rules for an interpreter whose references count from near the end of memory, with a poll
less than a page above that. -/
def Classifier.highHeap : Classifier :=
  { settings := { heapBase := some 0xffffffffffffe000 }
    runtime :=
      { ManagedRuntime.interpreter 0x10000000 0x10010000 0x60000100 with
        isPoll := fun a => a == 0xffffffffffffe010
        safepointStub := fun _ => some 0x60000200 } }

/-- A fault of interpreted code. -/
def Trap.interpreted (signal : Signal) (address : Word) : Trap :=
  { info := { signal, code := some intDivideCode, faultAddress := some address }
    raw := { signo := signal.number }
    context := .portable { pc := 0x10000040 }
    thread := some { id := 7, state := .managed } }

/-- Just above the heap base a reference is null, except where the poll is; and a division by zero
may carry any address. -/
theorem null_above_heap_base_raised :
    (Classifier.highHeap.classify (return false) (.interpreted .segv 0xffffffffffffe008)).returned
        .armedThread = some { rule := .implicitNull, disposition := .redirect 0x60000100 } ∧
      (Classifier.highHeap.classify (return false)
        (.interpreted .segv 0xffffffffffffe010)).returned .armedThread =
          some { rule := .safepointPoll, disposition := .redirect 0x60000200 } ∧
      (Classifier.highHeap.classify (return false) (.interpreted .fpe 0x1000000000)).returned
        .armedThread = some { rule := .divideByZero, disposition := .redirect 0x60000100 } := by
  refine ⟨?_, ?_, ?_⟩
  · have hnull := (implicit_exception_iff (c := .highHeap)
      (i := .interpreted .segv 0xffffffffffffe008) ⟨rfl, rfl⟩ rfl (return false)
      .armedThread).2.1 rfl ?_ (by decide)
    · exact (hnull.1 _).mpr ⟨rfl, .inr ⟨_, rfl, by decide, by decide⟩, rfl⟩
    · intro g hg
      obtain rfl := Option.some.inj hg
      rfl
  · have hpoll := (implicit_exception_iff (c := .highHeap)
      (i := .interpreted .segv 0xffffffffffffe010) ⟨rfl, rfl⟩ rfl (return false)
      .armedThread).2.2 rfl ?_ rfl
    · exact hpoll.1 _ rfl
    · intro g hg
      obtain rfl := Option.some.inj hg
      rfl
  · have hdivision := (implicit_exception_iff (c := .highHeap)
      (i := .interpreted .fpe 0x1000000000) ⟨rfl, rfl⟩ rfl (return false)
      .armedThread).1 rfl (.inl rfl)
    exact (hdivision.1 _).mpr rfl

end ManagedFaults
