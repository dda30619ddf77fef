import ManagedFaults.Proofs.Handler.Asking
import ManagedFaults.Proofs.Trap.Halves

/-!
# Where handlers come in

Classification first tries rules that decide by themselves; if none does, the chained handlers are
asked, and all that matters then is whether one of them agreed (`Classifier.classify_eq`).  So a
verdict depends on the handlers through their answers alone: handlers that do nothing but give the
same answers lead to the same verdict (`verdict_replayed`).
-/

namespace ManagedFaults

/-! ## Searches in parts -/

lemma TrapM.findSomeM?_append {α β : Type} {f : α → TrapM (Option β)} (l l' : List α) :
    (l ++ l').findSomeM? f = l.findSomeM? f >>= fun
      | some b => pure (some b)
      | none => l'.findSomeM? f := by
  induction l with
  | nil => rfl
  | cons a l ih =>
    rw [List.cons_append, List.findSomeM?_cons, List.findSomeM?_cons, bind_assoc]
    refine bind_congr fun found => ?_
    cases found with
    | some b => rfl
    | none => exact ih

lemma TrapM.onScene_bind {α β : Type} (x : RuleM α) (f : α → RuleM β) :
    TrapM.onScene (x >>= f) = TrapM.onScene x >>= fun a => TrapM.onScene (f a) :=
  rfl

lemma TrapM.onScene_findSomeM? {α β : Type} {f : α → RuleM (Option β)} (l : List α) :
    TrapM.onScene (l.findSomeM? f) = l.findSomeM? fun a => TrapM.onScene (f a) := by
  induction l with
  | nil => rfl
  | cons a l ih =>
    rw [List.findSomeM?_cons, List.findSomeM?_cons, TrapM.onScene_bind]
    refine bind_congr fun found => ?_
    cases found with
    | some b => rfl
    | none => exact ih

/-! ## Classification -/

/-- The stages whose rules decide by themselves. -/
def Stage.own : List Stage :=
  [.safeFetch, .stackGuard, .managedCode, .runtimeUnsafeAccess, .fastAccessorSlowCase,
   .serializePage]

namespace Classifier

/-- The rule of a stage that decides by itself; other stages have none. -/
def rule (c : Classifier) (i : Trap) : Stage → RuleM (Option Classification)
  | .safeFetch => c.safeFetch i
  | .stackGuard => c.stackGuard i
  | .managedCode => c.managedCode i
  | .runtimeUnsafeAccess => c.runtimeUnsafeAccess i
  | .fastAccessorSlowCase => c.fastAccessorSlowCase i
  | .serializePage => c.serializePage i
  | _ => return none

/-- What the rules decide before handlers are asked.  For signals of the broken-pipe class no rule
comes first. -/
def ownRules (c : Classifier) (i : Trap) : RuleM (Option Classification) :=
  if i.signal.isBrokenPipe then
    return none
  else
    Stage.own.findSomeM? (c.rule i)

/-- The classification of a signal that no rule has decided on, by whether a handler agreed. -/
def byAnswer (i : Trap) (handled : Bool) : Classification :=
  if i.signal.isBrokenPipe then { rule := .brokenPipe, disposition := .ignore }
  else if handled then { rule := .chained, disposition := .ignore }
  else unrecognized

lemma byAnswer_cases (i : Trap) (handled : Bool) :
    byAnswer i handled = { rule := .brokenPipe, disposition := .ignore } ∨
      byAnswer i handled = { rule := .chained, disposition := .ignore } ∨
      byAnswer i handled = { rule := .unrecognized, disposition := .escalate } := by
  unfold byAnswer
  split
  · exact .inl rfl
  · cases handled with
    | true => exact .inr (.inl rfl)
    | false => exact .inr (.inr rfl)

/-- Prints a line about a classification, if that is wanted. -/
def announce (c : Classifier) (i : Trap) (cl : Classification) : TrapM Classification := do
  if c.settings.traceTraps then
    TrapM.say .info (traceLine (i.now (← get)) cl)
  return cl

/-- Goes on after the handlers were asked. -/
def afterOffer (c : Classifier) (i : Trap) (handled : Bool) : TrapM Classification := do
  if i.signal.isBrokenPipe && handled then
    TrapM.say .debug (i.signal.text ++ " handled by chained handler")
  c.announce i (byAnswer i handled)

/-- The stages that decide by themselves are their rules. -/
private lemma own_attempts (c : Classifier) (offer : TrapM Bool) (i : Trap) :
    Stage.own.findSomeM? (c.attempt offer i) =
      TrapM.onScene (Stage.own.findSomeM? (c.rule i)) := by
  rw [TrapM.onScene_findSomeM?]
  rfl

/-- A trap is classified by a rule or, if none decides, by the answer of the handlers. -/
theorem classify_eq (c : Classifier) (offer : TrapM Bool) (i : Trap) :
    c.classify offer i = TrapM.onScene (c.ownRules i) >>= fun
      | some cl => c.announce i cl
      | none => offer >>= c.afterOffer i := by
  have horder : Stage.order = .brokenPipe :: (Stage.own ++ [.chained, .unrecognized]) := rfl
  have hlast : [Stage.chained, .unrecognized].findSomeM? (c.attempt offer i) =
      offer >>= fun handled => pure (some
        (if handled then { rule := .chained, disposition := .ignore } else unrecognized)) := by
    show Classifier.chained offer >>= _ = _
    unfold Classifier.chained
    rw [bind_assoc]
    refine bind_congr fun handled => ?_
    cases handled <;> rfl
  unfold classify
  rw [horder, List.findSomeM?_cons, TrapM.findSomeM?_append, own_attempts, hlast]
  unfold ownRules attempt brokenPipe
  cases hpipe : i.signal.isBrokenPipe with
  | true =>
    -- the handlers are asked at once, and their answer makes no difference
    simp only [if_true, bind_assoc]
    refine bind_congr fun handled => ?_
    unfold afterOffer byAnswer announce
    cases handled <;> simp [hpipe]
  | false =>
    simp only [Bool.false_eq_true, if_false, pure_bind, bind_assoc]
    refine bind_congr fun found => ?_
    cases found with
    | some cl => simp [announce]
    | none =>
      simp only [bind_assoc, pure_bind]
      refine bind_congr fun handled => ?_
      unfold afterOffer byAnswer announce
      cases handled <;> simp [hpipe]

end Classifier

/-- Announcing a classification prints at most. -/
lemma Classifier.run_announce (c : Classifier) (i : Trap) (cl : Classification)
    (s : ProcessState) :
    ∃ t, (c.announce i cl).run s = .ok cl { s with scene := t } ∧ t.guard = s.scene.guard ∧
      t.pages = s.scene.pages ∧ t.interactions = s.scene.interactions := by
  unfold announce
  split <;> exact ⟨_, rfl, rfl, rfl, rfl⟩

lemma Classifier.run_afterOffer (c : Classifier) (i : Trap) (handled : Bool) (s : ProcessState) :
    ∃ t, (c.afterOffer i handled).run s = .ok (byAnswer i handled) { s with scene := t } ∧
      t.guard = s.scene.guard ∧ t.pages = s.scene.pages ∧
      t.interactions = s.scene.interactions := by
  unfold afterOffer
  split
  · rw [TrapM.run_bind_of_ok (TrapM.run_say _ _)]
    exact c.run_announce i _ _
  · exact c.run_announce i _ _

/-! ## The verdict of an outermost handler -/

/-- The process, the handlers of which that accept a signal first give these answers and do nothing
else. -/
def ProcessState.replaying (s : ProcessState) (signal : Signal) (answers : List Bool) :
    ProcessState :=
  { s with registry := s.registry.replaying signal answers }

namespace SignalCall

/-- What the rules decide before handlers are asked. -/
def ownRules (call : SignalCall) (thread : Option ManagedThread) :
    RuleM (Option Classification) :=
  call.sys.classifier.ownRules (call.input thread)

/-- The process once the rules have been tried. -/
def ruled (call : SignalCall) (s : ProcessState) : ProcessState :=
  { s.entered call.sp with scene := ((call.ownRules s.thread).run s.scene).2 }

/-- Offers the signal to one handler. -/
def ask (call : SignalCall) (thread : Option ManagedThread) :
    RegisteredHandler ChainedHandler → TrapM Bool :=
  offerTo call.sys call.below (call.input thread).info call.raw

/-- The handlers that are asked before there is a verdict in state `s`, with the answers they
give. -/
inductive Asks (call : SignalCall) (s : ProcessState) :
    List (RegisteredHandler ChainedHandler × Bool) → Prop
  /-- A rule decides. -/
  | decided {cl : Classification} (rules : ((call.ownRules s.thread).run s.scene).1 = some cl) :
      Asks call s []
  /-- The registry is being changed. -/
  | busy (undecided : ((call.ownRules s.thread).run s.scene).1 = none)
      (writing : s.lock.writing = true) : Asks call s []
  /-- The handlers that accept the signal are asked until one agrees. -/
  | inOrder {asked : List (RegisteredHandler ChainedHandler × Bool)} {m : ProcessState}
      (undecided : ((call.ownRules s.thread).run s.scene).1 = none)
      (free : s.lock.writing = false)
      (run : TrapM.Asked (call.ask s.thread)
        ((call.ruled s).offering (call.input s.thread).info.signal) asked m)
      (complete : UntilAgreed (s.registry.accepting (call.input s.thread).info.signal) asked) :
      Asks call s asked

/-- The verdict by the rules or, if none decides, by the answers of handlers. -/
def verdictBy (call : SignalCall) (s : ProcessState)
    (asked : List (RegisteredHandler ChainedHandler × Bool)) : Classification :=
  ((call.ownRules s.thread).run s.scene).1.getD
    (Classifier.byAnswer (call.input s.thread) (anyAgreed asked))

variable {call : SignalCall} {s : ProcessState}

/-- Goes on after the rules: announces what they decided, or asks the handlers. -/
def afterRules (call : SignalCall) (thread : Option ManagedThread) :
    Option Classification → TrapM Classification
  | some cl => call.sys.classifier.announce (call.input thread) cl
  | none => call.offer thread >>= call.sys.classifier.afterOffer (call.input thread)

/-- An outermost handler tries the rules first. -/
lemma verdict_run_rules (houter : (s.os.mark.enter call.sp).1 = false) :
    call.verdict.run s =
      (call.afterRules s.thread ((call.ownRules s.thread).run s.scene).1).run (call.ruled s) := by
  have hrules : (TrapM.onScene (call.ownRules s.thread)).run (s.entered call.sp) =
      .ok ((call.ownRules s.thread).run s.scene).1 (call.ruled s) := rfl
  rw [call.verdict_run houter, Classifier.classify_eq]
  refine (TrapM.run_bind_of_ok hrules).trans ?_
  cases ((call.ownRules s.thread).run s.scene).1 <;> rfl

/-- Where no rule decides, the answer to the offer is that of the handlers that are asked. -/
private lemma offer_asks (hrules : ((call.ownRules s.thread).run s.scene).1 = none)
    {handled : Bool} {t : ProcessState}
    (h : (call.offer s.thread).run (call.ruled s) = .ok handled t) :
    ∃ asked, call.Asks s asked ∧ handled = anyAgreed asked := by
  cases hwriting : s.lock.writing with
  | true =>
    obtain ⟨v, hbusy⟩ : ∃ v, (call.offer s.thread).run (call.ruled s) = .ok false v :=
      dispatch_run_busy hwriting
    rw [hbusy, EStateM.Result.ok.injEq] at h
    exact ⟨[], .busy hrules hwriting, h.1.symm⟩
  | false =>
    have hfree : (call.ruled s).lock.writing = false := hwriting
    obtain ⟨asked, v, hasked, huntil, hhandled, -⟩ := (dispatch_run_ok_iff hfree).mp h
    exact ⟨asked, .inOrder hrules hwriting hasked huntil, hhandled⟩

/-- A verdict rests on the rules and the answers of the handlers that were asked. -/
lemma verdict_asks (houter : (s.os.mark.enter call.sp).1 = false) {cl : Classification}
    {m : ProcessState} (h : call.verdict.run s = .ok cl m) :
    ∃ asked, call.Asks s asked ∧ cl = call.verdictBy s asked := by
  rw [verdict_run_rules houter] at h
  unfold verdictBy
  cases hrules : ((call.ownRules s.thread).run s.scene).1 with
  | some decided =>
    rw [hrules] at h
    obtain ⟨scene, hannounce, -⟩ :=
      call.sys.classifier.run_announce (call.input s.thread) decided (call.ruled s)
    have hsame := hannounce.symm.trans h
    rw [EStateM.Result.ok.injEq] at hsame
    exact ⟨[], .decided hrules, hsame.1.symm⟩
  | none =>
    rw [hrules] at h
    unfold afterRules at h
    cases hoffer : (call.offer s.thread).run (call.ruled s) with
    | error e t =>
      rw [TrapM.run_bind_of_error hoffer] at h
      simp at h
    | ok handled t =>
      obtain ⟨asked, hasks, rfl⟩ := offer_asks hrules hoffer
      rw [TrapM.run_bind_of_ok hoffer] at h
      obtain ⟨scene, hafter, -⟩ :=
        call.sys.classifier.run_afterOffer (call.input s.thread) (anyAgreed asked) t
      have hsame := hafter.symm.trans h
      rw [EStateM.Result.ok.injEq] at hsame
      exact ⟨asked, hasks, hsame.1.symm⟩

/-- Either a rule has decided, and nothing but the scene is different then, or the answer of the
handlers has. -/
lemma verdict_cases (houter : (s.os.mark.enter call.sp).1 = false) {cl : Classification}
    {m : ProcessState} (h : call.verdict.run s = .ok cl m) :
    (∃ scene, m = { s.entered call.sp with scene }) ∨
      ∃ handled, cl = Classifier.byAnswer (call.input s.thread) handled := by
  cases hrules : ((call.ownRules s.thread).run s.scene).1 with
  | some decided =>
    obtain ⟨scene, hannounce, -⟩ :=
      call.sys.classifier.run_announce (call.input s.thread) decided (call.ruled s)
    rw [verdict_run_rules houter, hrules] at h
    have hsame := hannounce.symm.trans h
    rw [EStateM.Result.ok.injEq] at hsame
    exact .inl ⟨scene, hsame.2.symm⟩
  | none =>
    obtain ⟨asked, -, hcl⟩ := verdict_asks houter h
    unfold verdictBy at hcl
    rw [hrules] at hcl
    exact .inr ⟨anyAgreed asked, hcl⟩

/-- Handlers that only give the same answers make the same answer to the offer. -/
private lemma offer_replayed (hrules : ((call.ownRules s.thread).run s.scene).1 = none)
    {asked : List (RegisteredHandler ChainedHandler × Bool)} (h : call.Asks s asked) :
    ∃ t, (call.offer s.thread).run
      (call.ruled (s.replaying (call.input s.thread).info.signal (asked.map (·.2)))) =
        .ok (anyAgreed asked) t := by
  cases h with
  | decided hdecided =>
    rw [hrules] at hdecided
    simp at hdecided
  | busy _ hwriting => exact dispatch_run_busy hwriting
  | inOrder _ hfree _ huntil => exact dispatch_run_replaying hfree rfl huntil

/-- Handlers that only give the same answers lead to the same verdict. -/
theorem verdict_replayed (houter : (s.os.mark.enter call.sp).1 = false)
    {asked : List (RegisteredHandler ChainedHandler × Bool)} (h : call.Asks s asked) :
    ∃ u, call.verdict.run
      (s.replaying (call.input s.thread).info.signal (asked.map (·.2))) =
        .ok (call.verdictBy s asked) u := by
  let s' := s.replaying (call.input s.thread).info.signal (asked.map (·.2))
  have houter' : (s'.os.mark.enter call.sp).1 = false := houter
  -- neither the thread nor what the rules look at is different
  have hrun : call.verdict.run s' = (call.afterRules s.thread
      ((call.ownRules s.thread).run s.scene).1).run (call.ruled s') := verdict_run_rules houter'
  show ∃ u, call.verdict.run s' = _
  rw [hrun]
  unfold verdictBy
  cases hrules : ((call.ownRules s.thread).run s.scene).1 with
  | some decided =>
    obtain ⟨scene, hannounce, -⟩ :=
      call.sys.classifier.run_announce (call.input s.thread) decided (call.ruled s')
    exact ⟨_, hannounce⟩
  | none =>
    obtain ⟨t, hoffer⟩ := offer_replayed hrules h
    obtain ⟨scene, hafter, -⟩ :=
      call.sys.classifier.run_afterOffer (call.input s.thread) (anyAgreed asked) t
    exact ⟨_, (TrapM.run_bind_of_ok hoffer).trans hafter⟩

end SignalCall

end ManagedFaults
