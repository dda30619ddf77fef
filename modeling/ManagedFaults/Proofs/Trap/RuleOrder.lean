import ManagedFaults.Proofs.Trap.Overflow

/-!
# The rules in their order

Of the rules that decide by themselves only the stack-guard rule does more than ask.  Before it
comes the question about a speculative read, and after it come rules that ask (`run_ownRules`), so
that classification leaves the stack as the stack-guard rule leaves it, unless a chained handler
touches it (`classify_sameStack`).
-/

namespace ManagedFaults

/-! ## Searches that only ask -/

/-- A search that asks at every step only asks. -/
lemma RuleM.OnlyAsks.findSomeM? {α β : Type} {f : α → RuleM (Option β)} (l : List α)
    (h : ∀ a ∈ l, (f a).OnlyAsks) : (l.findSomeM? f).OnlyAsks := by
  induction l with
  | nil => exact RuleM.onlyAsks_pure none
  | cons a l ih =>
    rw [List.findSomeM?_cons]
    refine (h a List.mem_cons_self).bind fun found => ?_
    cases found with
    | some b => exact RuleM.onlyAsks_pure (some b)
    | none => exact ih fun a' ha' => h a' (List.mem_cons_of_mem a ha')

/-- If every step of a search may only answer what satisfies `P`, so may the search. -/
lemma RuleM.answers_findSomeM? {α β : Type} {P : β → Prop} {f : α → RuleM (Option β)} (l : List α)
    (h : ∀ a ∈ l, (f a).Answers fun r => ∀ b, r = some b → P b) :
    (l.findSomeM? f).Answers fun r => ∀ b, r = some b → P b := by
  induction l with
  | nil => exact RuleM.answers_pure (by simp)
  | cons a l ih =>
    intro s
    have hfirst := h a List.mem_cons_self s
    rw [List.findSomeM?_cons, StateT.run_bind]
    generalize (f a).run s = out at hfirst
    obtain ⟨found, t⟩ := out
    cases found with
    | some b => exact hfirst
    | none => exact ih (fun a' ha' => h a' (List.mem_cons_of_mem a ha')) t

/-! ## The rules around the stack-guard rule -/

/-- The stages that decide by themselves and come after the stack-guard rule. -/
def Stage.asking : List Stage :=
  [.managedCode, .runtimeUnsafeAccess, .fastAccessorSlowCase, .serializePage]

namespace Classifier

variable {c : Classifier} {i : Trap} {offer : TrapM Bool}

/-- Every rule but the stack-guard rule only asks. -/
lemma onlyAsks_rule (c : Classifier) (i : Trap) {stage : Stage} (h : stage ≠ .stackGuard) :
    (c.rule i stage).OnlyAsks := by
  cases stage with
  | stackGuard => exact absurd rfl h
  | safeFetch => exact c.onlyAsks_safeFetch i
  | managedCode => exact c.onlyAsks_managedCode i
  | runtimeUnsafeAccess => exact c.onlyAsks_runtimeUnsafeAccess i
  | fastAccessorSlowCase => exact c.onlyAsks_fastAccessorSlowCase i
  | serializePage => exact c.onlyAsks_serializePage i
  | brokenPipe => exact RuleM.onlyAsks_pure none
  | chained => exact RuleM.onlyAsks_pure none
  | unrecognized => exact RuleM.onlyAsks_pure none

/-- What the rule of a stage answers is justified. -/
lemma answers_rule (c : Classifier) (i : Trap) (stage : Stage) :
    (c.rule i stage).Answers (JustifiedIfAny c i stage) := by
  cases stage with
  | stackGuard => exact c.answers_stackGuard i
  | safeFetch => exact c.answers_safeFetch i
  | managedCode => exact c.answers_managedCode i
  | runtimeUnsafeAccess => exact c.answers_runtimeUnsafeAccess i
  | fastAccessorSlowCase => exact c.answers_fastAccessorSlowCase i
  | serializePage => exact c.answers_serializePage i
  | brokenPipe => exact RuleM.answers_pure (justifiedIfAny_none c i _)
  | chained => exact RuleM.answers_pure (justifiedIfAny_none c i _)
  | unrecognized => exact RuleM.answers_pure (justifiedIfAny_none c i _)

/-- Goes on after the stack-guard rule: if it has passed, later rules are tried. -/
def orAsk (c : Classifier) (i : Trap) : Option Classification → RuleM (Option Classification)
  | some cl => return some cl
  | none => Stage.asking.findSomeM? (c.rule i)

lemma onlyAsks_orAsk (c : Classifier) (i : Trap) (r : Option Classification) :
    (c.orAsk i r).OnlyAsks := by
  have hasking : ∀ stage ∈ Stage.asking, stage ≠ .stackGuard := by decide
  cases r with
  | some cl => exact RuleM.onlyAsks_pure (some cl)
  | none =>
    exact RuleM.OnlyAsks.findSomeM? _ fun stage hstage => c.onlyAsks_rule i (hasking stage hstage)

/-- At a speculative read no other rule is tried. -/
lemma run_ownRules_of_fetch (hpipe : i.signal.isBrokenPipe = false) {stub : Word}
    (hfetch : c.runtime.speculativeStub i.pc = some stub) (s : Scene) :
    (c.ownRules i).run s = (redirect .safeFetch stub, s.record (.speculativeStub i.pc)) := by
  have hsafe : (c.rule i .safeFetch).run s =
      (redirect .safeFetch stub, s.record (.speculativeStub i.pc)) := by
    show (c.safeFetch i).run s = _
    unfold safeFetch
    rw [RuleM.run_ask_bind, hfetch]
    rfl
  have hown : Stage.own = .safeFetch :: .stackGuard :: Stage.asking := rfl
  unfold ownRules
  rw [hpipe, if_neg (by simp), hown, List.findSomeM?_cons, StateT.run_bind, hsafe]
  rfl

/-- Elsewhere the stack-guard rule comes first, and then rules that only ask. -/
lemma run_ownRules (hpipe : i.signal.isBrokenPipe = false)
    (hfetch : c.runtime.speculativeStub i.pc = none) (s : Scene) :
    (c.ownRules i).run s =
      (c.orAsk i ((c.stackGuard i).run (s.record (.speculativeStub i.pc))).1).run
        ((c.stackGuard i).run (s.record (.speculativeStub i.pc))).2 := by
  have hsafe : (c.rule i .safeFetch).run s = (none, s.record (.speculativeStub i.pc)) := by
    show (c.safeFetch i).run s = _
    unfold safeFetch
    rw [RuleM.run_ask_bind, hfetch]
    rfl
  have hguard : c.rule i .stackGuard = c.stackGuard i := rfl
  have hown : Stage.own = .safeFetch :: .stackGuard :: Stage.asking := rfl
  unfold ownRules
  rw [hpipe, if_neg (by simp), hown, List.findSomeM?_cons, StateT.run_bind, hsafe]
  show (List.findSomeM? (c.rule i) (.stackGuard :: Stage.asking)).run
    (s.record (.speculativeStub i.pc)) = _
  rw [List.findSomeM?_cons, StateT.run_bind, hguard]
  generalize (c.stackGuard i).run (s.record (.speculativeStub i.pc)) = out
  obtain ⟨r, t⟩ := out
  cases r <;> rfl

/-- No rule is tried for a signal of the broken-pipe class. -/
lemma run_ownRules_of_pipe (hpipe : i.signal.isBrokenPipe = true) (s : Scene) :
    (c.ownRules i).run s = (none, s) := by
  unfold ownRules
  rw [hpipe]
  rfl

/-- Goes on after the rules: the handlers are asked if none of them has decided. -/
def orOffer (c : Classifier) (offer : TrapM Bool) (i : Trap) :
    Option Classification → TrapM Classification
  | some cl => c.announce i cl
  | none => offer >>= c.afterOffer i

/-- The rules run on the scene, and then the handlers are asked. -/
lemma run_classify (c : Classifier) (offer : TrapM Bool) (i : Trap) (s : ProcessState) :
    (c.classify offer i).run s =
      (c.orOffer offer i ((c.ownRules i).run s.scene).1).run
        { s with scene := ((c.ownRules i).run s.scene).2 } := by
  rw [classify_eq]
  show (match ((c.ownRules i).run s.scene).1 with
    | some cl => c.announce i cl
    | none => offer >>= c.afterOffer i).run _ = _
  cases ((c.ownRules i).run s.scene).1 <;> rfl

end Classifier

/-! ## The stack under the rules -/

/-- The guard and the pages are as they were. -/
structure Scene.SameStack (s t : Scene) : Prop where
  guard : t.guard = s.guard
  pages : t.pages = s.pages

namespace Scene.SameStack

variable {s t u : Scene}

lemma refl (s : Scene) : s.SameStack s :=
  ⟨rfl, rfl⟩

lemma trans (hst : s.SameStack t) (htu : t.SameStack u) : s.SameStack u :=
  ⟨htu.guard.trans hst.guard, htu.pages.trans hst.pages⟩

lemma shows {g : GuardedStack} (h : s.SameStack t) (hs : s.Shows g) : t.Shows g :=
  hs.congr h.guard h.pages

end Scene.SameStack

/-- Asking does not touch the stack. -/
lemma RuleM.OnlyAsks.sameStack {α : Type} {x : RuleM α} (hx : x.OnlyAsks) (s : Scene) :
    s.SameStack (x.run s).2 := by
  obtain ⟨a, asked, -, hx⟩ := hx
  rw [hx]
  exact ⟨rfl, rfl⟩

namespace Classifier

variable {c : Classifier} {i : Trap} {offer : TrapM Bool}

/-- The rules leave the stack as the stack-guard rule does. -/
lemma ownRules_sameStack (hpipe : i.signal.isBrokenPipe = false)
    (hfetch : c.runtime.speculativeStub i.pc = none) (s : Scene) :
    ((c.stackGuard i).run (s.record (.speculativeStub i.pc))).2.SameStack
      ((c.ownRules i).run s).2 := by
  rw [run_ownRules hpipe hfetch]
  exact (c.onlyAsks_orAsk i _).sameStack _

/-- Announcing a classification prints at most. -/
lemma announce_sameStack (c : Classifier) (i : Trap) (cl : Classification) (s : ProcessState) :
    s.scene.SameStack ((c.announce i cl).stateAfter s).scene := by
  obtain ⟨t, hannounce, hguard, hpages, -⟩ := c.run_announce i cl s
  unfold TrapM.stateAfter
  rw [hannounce]
  exact ⟨hguard, hpages⟩

lemma afterOffer_sameStack (c : Classifier) (i : Trap) (handled : Bool) (s : ProcessState) :
    s.scene.SameStack ((c.afterOffer i handled).stateAfter s).scene := by
  obtain ⟨t, hafter, hguard, hpages, -⟩ := c.run_afterOffer i handled s
  unfold TrapM.stateAfter
  rw [hafter]
  exact ⟨hguard, hpages⟩

/-- Classification leaves the stack as its rules do, unless a handler that is asked touches it. -/
theorem classify_sameStack {s : ProcessState}
    (hoffer : ∀ scene : Scene,
      scene.SameStack (offer.stateAfter { s with scene }).scene) :
    ((c.ownRules i).run s.scene).2.SameStack ((c.classify offer i).stateAfter s).scene := by
  unfold TrapM.stateAfter
  rw [run_classify]
  generalize (c.ownRules i).run s.scene = out
  obtain ⟨r, t⟩ := out
  cases r with
  | some cl => exact c.announce_sameStack i cl { s with scene := t }
  | none =>
    have hasked := hoffer t
    unfold TrapM.stateAfter at hasked
    dsimp only [orOffer]
    cases hrun : offer.run { s with scene := t } with
    | error e u =>
      rw [TrapM.run_bind_of_error hrun]
      rwa [hrun] at hasked
    | ok handled u =>
      rw [TrapM.run_bind_of_ok hrun]
      rw [hrun] at hasked
      exact hasked.trans (c.afterOffer_sameStack i handled u)

/-- Among the rules that come before the handlers, those of the stack-guard stage are its own. -/
lemma stackGuard_of_ownRules {s : Scene} {cl : Classification}
    (h : ((c.ownRules i).run s).1 = some cl) (hrule : cl.rule ∈ Stage.stackGuard.rules) :
    ((c.stackGuard i).run (s.record (.speculativeStub i.pc))).1 = some cl ∧
      ((c.stackGuard i).run (s.record (.speculativeStub i.pc))).2.SameStack
        ((c.ownRules i).run s).2 := by
  have hasking : ∀ stage ∈ Stage.asking, ∀ rule ∈ stage.rules, rule ∉ Stage.stackGuard.rules := by
    decide
  cases hpipe : i.signal.isBrokenPipe with
  | true =>
    rw [run_ownRules_of_pipe hpipe] at h
    cases h
  | false =>
    cases hfetch : c.runtime.speculativeStub i.pc with
    | some stub =>
      rw [run_ownRules_of_fetch hpipe hfetch] at h
      obtain rfl := Option.some.inj h
      have hsafe : TrapRule.safeFetch ∉ Stage.stackGuard.rules := by decide
      exact absurd hrule hsafe
    | none =>
      refine ⟨?_, ownRules_sameStack hpipe hfetch s⟩
      rw [run_ownRules hpipe hfetch] at h
      cases hguard : ((c.stackGuard i).run (s.record (.speculativeStub i.pc))).1 with
      | some cl' =>
        rw [hguard] at h
        exact h
      | none =>
        -- a later stage has answered, by a rule of its own
        have hlater := RuleM.answers_findSomeM? (f := c.rule i)
          (P := fun cl => cl.rule ∉ Stage.stackGuard.rules) Stage.asking
          fun stage hstage s cl hcl =>
            hasking stage hstage cl.rule (c.answers_rule i stage s cl hcl).2
        rw [hguard] at h
        exact absurd hrule (hlater _ cl h)

/-- If a trap is classified by a rule of the stack-guard stage, then that stage has answered, and
the stack was not touched after that. -/
theorem stackGuard_of_classify {s t : ProcessState} {cl : Classification}
    (hrun : (c.classify offer i).run s = .ok cl t) (hrule : cl.rule ∈ Stage.stackGuard.rules) :
    ∃ u, (c.stackGuard i).run (s.scene.record (.speculativeStub i.pc)) = (some cl, u) ∧
      u.SameStack t.scene := by
  rw [run_classify] at hrun
  cases hown : ((c.ownRules i).run s.scene).1 with
  | some cl' =>
    rw [hown] at hrun
    obtain ⟨v, hannounce, hguard, hpages, -⟩ := c.run_announce i cl'
      { s with scene := ((c.ownRules i).run s.scene).2 }
    obtain ⟨rfl, rfl⟩ := EStateM.Result.ok.inj (hannounce.symm.trans hrun)
    obtain ⟨hanswer, hsame⟩ := stackGuard_of_ownRules hown hrule
    exact ⟨_, Prod.ext hanswer rfl, hsame.trans ⟨hguard, hpages⟩⟩
  | none =>
    -- the handlers were asked, and their answer goes by a rule of its own
    have hanswered : ∀ handled, (byAnswer i handled).rule ∉ Stage.stackGuard.rules := by
      intro handled
      unfold byAnswer
      split
      · decide
      · split <;> decide
    have hoffered : (c.orOffer offer i none).Returns
        fun cl => cl.rule ∉ Stage.stackGuard.rules := by
      refine TrapM.returns_bind (TrapM.returns_any offer) fun handled _ s cl t hrun => ?_
      obtain ⟨u, hafter, -⟩ := c.run_afterOffer i handled s
      obtain ⟨rfl, -⟩ := EStateM.Result.ok.inj (hafter.symm.trans hrun)
      exact hanswered handled
    rw [hown] at hrun
    exact absurd hrule (hoffered _ cl t hrun)

end Classifier

end ManagedFaults
