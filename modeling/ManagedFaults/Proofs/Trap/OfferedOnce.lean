import ManagedFaults.Proofs.Trap.RuleOrder

/-!
# Offering a signal once

Classification offers a signal to the chained handlers at most once: at once if the signal is of
the broken-pipe class, after the rules if none of them answers, and never if one does
(`Classifier.offers_at_most_once`).  Since the handlers may do anything, what it means to offer a
signal once is said by how classification runs with arbitrary handlers.
-/

namespace ManagedFaults

/-! ## Lines that are printed -/

/-- The process after it has printed these lines. -/
def ProcessState.saying (s : ProcessState) (lines : List (Level × String)) : ProcessState :=
  lines.foldl (fun s line => { s with scene := s.scene.say line.1 line.2 }) s

namespace Classifier

/-- The line about a classification, if it is wanted. -/
def announced (c : Classifier) (i : Trap) (cl : Classification) : List (Level × String) :=
  if c.settings.traceTraps then [(.info, traceLine i cl)] else []

/-- The lines that are printed once the handlers have answered. -/
def answered (c : Classifier) (i : Trap) (handled : Bool) : List (Level × String) :=
  (if i.signal.isBrokenPipe && handled then
    [(.debug, i.signal.text ++ " handled by chained handler")]
  else []) ++ c.announced i (byAnswer i handled)

lemma run_announce_saying (c : Classifier) (i : Trap) (cl : Classification) (s : ProcessState) :
    (c.announce i cl).run s = .ok cl (s.saying (c.announced (i.now s) cl)) := by
  unfold announce announced
  split <;> rfl

lemma run_afterOffer_saying (c : Classifier) (i : Trap) (handled : Bool) (s : ProcessState) :
    (c.afterOffer i handled).run s =
      .ok (byAnswer i handled) (s.saying (c.answered (i.now s) handled)) := by
  -- what is written over the registers does not concern the signal
  have hsignal : (i.now s).signal = i.signal := rfl
  have hanswer : byAnswer (i.now s) handled = byAnswer i handled := rfl
  unfold afterOffer answered ProcessState.saying
  rw [List.foldl_append, hsignal, hanswer]
  split
  · rw [TrapM.run_bind_of_ok (TrapM.run_say _ _)]
    exact c.run_announce_saying i _ _
  · exact c.run_announce_saying i _ _

end Classifier

/-! ## How often the rules wait -/

namespace RuleM

/-- How often a rule waits before it answers: once if the answer is that the serialization page was
written to, and otherwise never. -/
def waitsFor : Option Classification → Nat
  | some cl => if cl.rule = .serializePage then 1 else 0
  | none => 0

/-- A rule that waits for the serialization page if and only if it answers that this page was
written to. -/
def WaitsToAnswer (x : RuleM (Option Classification)) : Prop :=
  ∀ s : Scene, s.Asks (x.run s).2 (waitsFor (x.run s).1)

/-- So does a search through such rules. -/
lemma WaitsToAnswer.findSomeM? {f : Stage → RuleM (Option Classification)} (l : List Stage)
    (h : ∀ stage ∈ l, (f stage).WaitsToAnswer) : (l.findSomeM? f).WaitsToAnswer := by
  induction l with
  | nil => exact fun s => Scene.asks_of_same rfl
  | cons stage l ih =>
    intro s
    have hfirst := h stage List.mem_cons_self s
    rw [List.findSomeM?_cons, StateT.run_bind]
    generalize (f stage).run s = out at hfirst
    obtain ⟨found, t⟩ := out
    cases found with
    | some cl => exact hfirst
    | none =>
      have hrest := hfirst.trans (ih (fun stage' h' => h stage' (List.mem_cons_of_mem stage h')) t)
      rwa [show waitsFor none = 0 from rfl, Nat.zero_add] at hrest

end RuleM

namespace Classifier

variable (c : Classifier) (i : Trap)

/-- No rule waits but the one about the serialization page. -/
lemma neverWaits_rule {stage : Stage} (h : stage ≠ .serializePage) :
    (c.rule i stage).NeverWaits := by
  have hasks := RuleM.allowsSteps_neverWaits.toAllowsQuestions
  cases stage with
  | serializePage => exact absurd rfl h
  | stackGuard => exact c.neverWaits_stackGuard i
  | safeFetch => exact safeFetch_has hasks c i
  | managedCode => exact managedCode_has hasks c i
  | runtimeUnsafeAccess => exact runtimeUnsafeAccess_has hasks c i
  | fastAccessorSlowCase => exact fastAccessorSlowCase_has hasks c i
  | brokenPipe => exact hasks.pure none
  | chained => exact hasks.pure none
  | unrecognized => exact hasks.pure none

/-- The rule about the serialization page waits just before it answers. -/
lemma waits_serializePage : (c.serializePage i).WaitsToAnswer := by
  intro s
  unfold serializePage
  split
  · exact Scene.asks_of_same rfl
  · next address _ =>
    split
    · exact Scene.asks_of_same rfl
    · rw [RuleM.run_ask_bind]
      split
      · refine ⟨[.serializePage address, .blockOnSerializePage], ?_, ?_, rfl⟩
        · exact List.append_assoc _ _ _
        · simp [Interaction.isQuestion]
      · exact ⟨[.serializePage address], rfl, by simp [Interaction.isQuestion], rfl⟩

lemma waits_rule (stage : Stage) : (c.rule i stage).WaitsToAnswer := by
  by_cases hstage : stage = .serializePage
  · subst hstage
    exact c.waits_serializePage i
  · -- what another rule answers goes by another name
    intro s
    have hanswer : RuleM.waitsFor ((c.rule i stage).run s).1 = 0 := by
      have hrule := c.answers_rule i stage s
      cases hrun : ((c.rule i stage).run s).1 with
      | none => rfl
      | some cl =>
        have hmem := (hrule cl hrun).2
        have hother : ∀ stage : Stage, stage ≠ .serializePage →
            TrapRule.serializePage ∉ stage.rules := by
          intro stage
          cases stage <;> decide
        have hne : cl.rule ≠ .serializePage := fun h => hother stage hstage (h ▸ hmem)
        simp [RuleM.waitsFor, hne]
    rw [hanswer]
    exact c.neverWaits_rule i hstage s

/-- The rules wait for the serialization page if and only if they answer that it was written to. -/
lemma waits_ownRules : (c.ownRules i).WaitsToAnswer := by
  unfold ownRules
  split
  · exact fun s => Scene.asks_of_same rfl
  · exact RuleM.WaitsToAnswer.findSomeM? _ fun stage _ => c.waits_rule i stage

end Classifier

/-! ## Which rule answers -/

/-- Two scenes that differ at most in what was kept before. -/
def Scene.SameButKept (s t : Scene) : Prop :=
  ∃ kept, t = { s with interactions := kept }

namespace RuleM

/-- A computation that does not look at what was kept before. -/
def LooksForward {α : Type} (x : RuleM α) : Prop :=
  ∀ s t : Scene, s.SameButKept t →
    (x.run s).1 = (x.run t).1 ∧ (x.run s).2.SameButKept (x.run t).2

lemma LooksForward.bind {α β : Type} {x : RuleM α} {f : α → RuleM β} (hx : x.LooksForward)
    (hf : ∀ a, (f a).LooksForward) : (x >>= f).LooksForward := by
  intro s t hst
  obtain ⟨hanswer, hleft⟩ := hx s t hst
  have hrun : ∀ s, (x >>= f).run s = (f (x.run s).1).run (x.run s).2 := fun _ => rfl
  rw [hrun, hrun, ← hanswer]
  exact hf _ _ _ hleft

lemma looksForward_onGuard (f : GuardedStack → GuardedStack) : (RuleM.onGuard f).LooksForward := by
  rintro ⟨guard, pages, console, interactions⟩ _ ⟨kept, rfl⟩
  refine ⟨rfl, kept, ?_⟩
  cases guard <;> rfl

lemma allowsSteps_looksForward : RuleM.AllowsSteps LooksForward where
  pure _ _ _ hst := ⟨rfl, hst⟩
  bind := LooksForward.bind
  ask _ _ := by
    rintro s _ ⟨kept, rfl⟩
    exact ⟨rfl, _, rfl⟩
  read _ hguard hf := by
    rintro s _ ⟨kept, rfl⟩
    have hsame := hguard s { s with interactions := kept } rfl
    have hread := hf s s { s with interactions := kept } ⟨kept, rfl⟩
    simp only [StateT.run_bind, StateT.run_get, pure_bind]
    rwa [← hsame]
  say _ _ := by
    rintro s _ ⟨kept, rfl⟩
    exact ⟨rfl, kept, rfl⟩
  openYellow := looksForward_onGuard _
  openRed := looksForward_onGuard _
  lend _ := looksForward_onGuard _

/-- What a search answers whose steps only ask is what the first step answers that answers at
all, whatever the scene. -/
lemma answer_findSomeM? {α β : Type} {f : α → RuleM (Option β)} (l : List α)
    (h : ∀ a ∈ l, (f a).OnlyAsks) (s t : Scene) :
    ((l.findSomeM? f).run s).1 = l.findSome? fun a => ((f a).run t).1 := by
  induction l generalizing s with
  | nil => rfl
  | cons a l ih =>
    obtain ⟨found, asked, -, hrun⟩ := h a List.mem_cons_self
    rw [List.findSomeM?_cons, StateT.run_bind, hrun, List.findSome?_cons, hrun]
    cases found with
    | some b => rfl
    | none => exact ih (fun a' ha' => h a' (List.mem_cons_of_mem a ha')) _

end RuleM

namespace Classifier

variable {c : Classifier} {i : Trap}

/-- What the first of the rules answers that does not pass, each tried on the same scene. -/
def firstAnswer (c : Classifier) (i : Trap) (s : Scene) : Option Classification :=
  Stage.own.findSome? fun stage => ((c.rule i stage).run s).1

/-- Rules that have passed make no difference to what later rules answer. -/
lemma answer_ownRules (hpipe : i.signal.isBrokenPipe = false) (s : Scene) :
    ((c.ownRules i).run s).1 = c.firstAnswer i s := by
  have hown : Stage.own = .safeFetch :: .stackGuard :: Stage.asking := rfl
  have hsafe : ((c.rule i .safeFetch).run s).1 =
      (c.runtime.speculativeStub i.pc).bind (redirect .safeFetch) := rfl
  unfold firstAnswer
  rw [hown, List.findSome?_cons, hsafe]
  cases hfetch : c.runtime.speculativeStub i.pc with
  | some stub =>
    rw [run_ownRules_of_fetch hpipe hfetch]
    rfl
  | none =>
    have hguard : ((c.stackGuard i).run s).1 =
        ((c.stackGuard i).run (s.record (.speculativeStub i.pc))).1 :=
      (stackGuard_has_of_steps RuleM.allowsSteps_looksForward c i s _ ⟨_, rfl⟩).1
    rw [run_ownRules hpipe hfetch, ← hguard]
    dsimp only [Option.bind_none]
    rw [List.findSome?_cons, show c.rule i .stackGuard = c.stackGuard i from rfl]
    cases ((c.stackGuard i).run s).1 with
    | some cl => rfl
    | none =>
      -- the stack-guard rule may have opened a zone before it passed, but the others do not look
      have hasking : ∀ stage ∈ Stage.asking, stage ≠ .stackGuard := by decide
      exact RuleM.answer_findSomeM? Stage.asking
        (fun stage hstage => c.onlyAsks_rule i (hasking stage hstage)) _ s

end Classifier

/-! ## The one offer -/

namespace Classifier

variable {c : Classifier} {i : Trap}

/-- Classification offers the signal exactly once, to the handlers of a process in state `before`:
it ends as they end or, if they return, prints lines that depend on their answer alone and answers
by it. -/
def OffersOnce (c : Classifier) (i : Trap) (s before : ProcessState)
    (verdict : Bool → Classification) : Prop :=
  ∀ offer : TrapM Bool, (c.classify offer i).run s = match offer.run before with
    | .ok handled t => .ok (verdict handled) (t.saying (c.answered (i.now t) handled))
    | .error e t => .error e t

/-- Classification offers the signal to nobody: whoever the handlers are, it leaves a state that
they have not touched and announces the same classification. -/
def NeverOffers (c : Classifier) (i : Trap) (s left : ProcessState) (cl : Classification) :
    Prop :=
  ∀ offer : TrapM Bool,
    (c.classify offer i).run s = .ok cl (left.saying (c.announced (i.now left) cl))

lemma byAnswer_of_pipe (hpipe : i.signal.isBrokenPipe = true) :
    byAnswer i = fun _ => { rule := .brokenPipe, disposition := .ignore } := by
  funext handled
  unfold byAnswer
  rw [if_pos hpipe]

lemma byAnswer_of_other (hpipe : i.signal.isBrokenPipe = false) :
    byAnswer i = fun handled =>
      if handled then { rule := .chained, disposition := .ignore }
      else { rule := .unrecognized, disposition := .escalate } := by
  funext handled
  unfold byAnswer
  rw [hpipe, if_neg (by simp)]
  rfl

/-- Where the rules pass, the signal is offered once. -/
lemma offersOnce_of_passed {s : ProcessState} (h : ((c.ownRules i).run s.scene).1 = none) :
    c.OffersOnce i s { s with scene := ((c.ownRules i).run s.scene).2 } (byAnswer i) := by
  intro offer
  rw [run_classify, h]
  dsimp only [orOffer]
  cases hrun : offer.run { s with scene := ((c.ownRules i).run s.scene).2 } with
  | error e t => rw [TrapM.run_bind_of_error hrun]
  | ok handled t => rw [TrapM.run_bind_of_ok hrun, run_afterOffer_saying]

/-- Where a rule answers, the signal is not offered. -/
lemma neverOffers_of_answered {s : ProcessState} {cl : Classification}
    (h : ((c.ownRules i).run s.scene).1 = some cl) :
    c.NeverOffers i s { s with scene := ((c.ownRules i).run s.scene).2 } cl := by
  intro offer
  rw [run_classify, h]
  exact c.run_announce_saying i cl _

/-- For a signal of the broken-pipe class neither the runtime nor the thread matters. -/
lemma classify_of_pipe (hpipe : i.signal.isBrokenPipe = true) (runtime : ManagedRuntime)
    (thread : Option ManagedThread) (offer : TrapM Bool) :
    Classifier.classify { c with runtime } offer { i with thread } = c.classify offer i := by
  have hpipe' : { i with thread }.signal.isBrokenPipe = true := hpipe
  rw [classify_eq, classify_eq]
  unfold ownRules
  rw [if_pos hpipe, if_pos hpipe']
  rfl

/-- Chained handlers are offered a signal at most once, and only when they should be.  A signal of
the broken-pipe class is offered exactly once and at once, and is then ignored whatever the
answer; neither the runtime nor the thread is consulted, and the guard stays as it is.  Any other
signal is offered exactly once if all rules pass, and not at all if one answers; the serialization
page is waited for once if that answer is that it was written to, and otherwise never. -/
theorem offers_at_most_once (c : Classifier) (i : Trap) (s : ProcessState) :
    if i.signal = .pipe ∨ i.signal = .xfsz then
      c.OffersOnce i s s (fun _ => { rule := .brokenPipe, disposition := .ignore }) ∧
      ∀ runtime thread offer,
        Classifier.classify { c with runtime } offer { i with thread } = c.classify offer i
    else match c.firstAnswer i s.scene with
    | none => ∃ scene, s.scene.Asks scene 0 ∧ c.OffersOnce i s { s with scene } fun handled =>
        if handled then { rule := .chained, disposition := .ignore }
        else { rule := .unrecognized, disposition := .escalate }
    | some cl => ∃ scene, s.scene.Asks scene (if cl.rule = .serializePage then 1 else 0) ∧
        c.NeverOffers i s { s with scene } cl := by
  have hclass : i.signal.isBrokenPipe = true ↔ i.signal = .pipe ∨ i.signal = .xfsz := by
    unfold Signal.isBrokenPipe
    rw [Bool.or_eq_true, beq_iff_eq, beq_iff_eq]
  by_cases hsignal : i.signal = .pipe ∨ i.signal = .xfsz
  · have hpipe := hclass.mpr hsignal
    have hrules := run_ownRules_of_pipe (c := c) hpipe s.scene
    have honce := offersOnce_of_passed (s := s) (c := c) (by rw [hrules])
    rw [hrules, byAnswer_of_pipe hpipe] at honce
    rw [if_pos hsignal]
    exact ⟨honce, classify_of_pipe hpipe⟩
  · have hpipe : i.signal.isBrokenPipe = false := by
      rw [← Bool.not_eq_true, hclass]
      exact hsignal
    have hasks := c.waits_ownRules i s.scene
    have hanswer := answer_ownRules (c := c) hpipe s.scene
    rw [hanswer] at hasks
    rw [if_neg hsignal]
    cases hfirst : c.firstAnswer i s.scene with
    | some cl =>
      rw [hfirst] at hanswer hasks
      exact ⟨_, hasks, neverOffers_of_answered hanswer⟩
    | none =>
      rw [hfirst] at hanswer hasks
      have honce := offersOnce_of_passed hanswer
      rw [byAnswer_of_other hpipe] at honce
      exact ⟨_, hasks, honce⟩

/-- The rules for a runtime that has no stubs, and a serialization page that may be everywhere. -/
def withoutStubs (serializing : Bool) : Classifier :=
  { settings := {}
    runtime := { ManagedRuntime.silent with isSerialization := fun _ => serializing } }

/-- Where no stub raises the exception for an overflow, the stack-guard rule passes.  The fault is
then offered once, unless it was one of the serialization page: nobody is offered that, and it is
waited for once. -/
theorem serialization_fault_never_offered :
    (∃ scene, ProcessState.armedThread.scene.Asks scene 1 ∧
      (withoutStubs true).NeverOffers .inReserve .armedThread
        { ProcessState.armedThread with scene }
        { rule := .serializePage, disposition := .ignore }) ∧
    ∃ scene, ProcessState.armedThread.scene.Asks scene 0 ∧
      (withoutStubs false).OffersOnce .inReserve .armedThread
        { ProcessState.armedThread with scene }
        fun handled => if handled then { rule := .chained, disposition := .ignore }
          else { rule := .unrecognized, disposition := .escalate } :=
  ⟨offers_at_most_once (withoutStubs true) .inReserve .armedThread,
    offers_at_most_once (withoutStubs false) .inReserve .armedThread⟩

end Classifier

end ManagedFaults
