import ManagedFaults.Proofs.Trap.Composition

/-!
# What makes no difference

The trap system never looks at the pages under a stack, at whether its red zone is armed, at how
often zones were opened, or at what was printed.  Two processes that look alike apart from these
are therefore told the same by everything it does, and look alike afterwards
(`allowsHandling_blind`).
-/

namespace ManagedFaults

/-! ## Rules -/

/-- A computation on scenes that look alike gives the same answer, and leaves them looking
alike. -/
def RuleM.Blind {α : Type} (x : RuleM α) : Prop :=
  ∀ s t : Scene, s.visible = t.visible →
    (x.run s).1 = (x.run t).1 ∧ (x.run s).2.visible = (x.run t).2.visible

namespace RuleM

variable {α β : Type}

lemma blind_pure (a : α) : Blind (pure a) :=
  fun _ _ hst => ⟨rfl, hst⟩

lemma Blind.bind {x : RuleM α} {f : α → RuleM β} (hx : x.Blind) (hf : ∀ a, (f a).Blind) :
    (x >>= f).Blind := by
  intro s t hst
  obtain ⟨hanswer, hvisible⟩ := hx s t hst
  have hrun : ∀ s, (x >>= f).run s = (f (x.run s).1).run (x.run s).2 := fun _ => rfl
  rw [hrun, hrun, hanswer]
  exact hf _ _ _ hvisible

/-- Reading what is visible. -/
lemma blind_read {f : Scene → RuleM β} (hf : ∀ s, f s.visible = f s) (hblind : ∀ s, (f s).Blind) :
    (get >>= f).Blind := by
  intro s t hst
  have hrun : ∀ s, (get >>= f).run s = (f s).run s := fun _ => rfl
  have hsame : f s = f t := by rw [← hf s, hst, hf t]
  rw [hrun, hrun, hsame]
  exact hblind t s t hst

lemma OnlyAsks.blind {x : RuleM α} (hx : x.OnlyAsks) : x.Blind := by
  obtain ⟨a, asked, -, hx⟩ := hx
  intro s t hst
  rw [hx, hx]
  exact ⟨rfl, congrArg (fun v : Scene => { v with interactions := v.interactions ++ asked }) hst⟩

end RuleM

namespace Console

/-- The console without what was printed on it. -/
def blank (c : Console) : Console :=
  { c with printed := [] }

lemma blank_say (c : Console) (level : Level) (text : String) :
    (c.say level text).blank = c.blank := by
  unfold say
  split <;> rfl

lemma blank_warnings (warnings : List String) (c : Console) :
    (warnings.foldl (fun c w => c.say .warn w) c).blank = c.blank := by
  induction warnings generalizing c with
  | nil => rfl
  | cons w warnings ih => rw [List.foldl_cons, ih, blank_say]

lemma blank_report (lines : List String) (c : Console) : (c.report lines).blank = c.blank := by
  unfold report
  induction lines generalizing c with
  | nil => rfl
  | cons line lines ih =>
    rw [List.foldl_cons, ih]
    rfl

end Console

/-- Printing is not visible. -/
lemma Scene.visible_console {s : Scene} {console : Console} (h : console.blank = s.console.blank) :
    { s with console }.visible = s.visible := by
  have hvisible : { s with console }.visible = { s.visible with console := console.blank } := rfl
  rw [hvisible, h]
  rfl

lemma RuleM.blind_say (level : Level) (text : String) : (RuleM.say level text).Blind := by
  intro s t hst
  refine ⟨rfl, ?_⟩
  have hsay : ∀ s : Scene, ((RuleM.say level text).run s).2.visible = s.visible :=
    fun s => Scene.visible_console (s.console.blank_say level text)
  rw [hsay, hsay, hst]

/-- An operation on the guarded stack, the visible effect of which is one on what is visible of the
guard. -/
lemma Scene.visible_mapGuard {α : Type} {f : GuardedStack → α × GuardedStack}
    (F : StackGuard → StackGuard) (hf : ∀ g, (f g).2.guard.visible = F g.guard.visible)
    (s : Scene) : (s.mapGuard f).2.visible = { s.visible with guard := s.visible.guard.map F } := by
  unfold mapGuard
  cases hguard : s.guard with
  | none =>
    unfold Scene.visible
    rw [hguard]
    rfl
  | some guard =>
    have hvisible := hf { guard, pages := s.pages }
    have hconsole := Console.blank_warnings (f { guard, pages := s.pages }).2.warnings s.console
    unfold Console.blank at hconsole
    unfold Scene.visible
    rw [hguard]
    dsimp only [Option.map_some]
    rw [hvisible, hconsole]

lemma RuleM.blind_onGuard {f : GuardedStack → GuardedStack} (F : StackGuard → StackGuard)
    (hf : ∀ g, (f g).guard.visible = F g.guard.visible) : (RuleM.onGuard f).Blind := by
  have honGuard : ∀ s : Scene, ((RuleM.onGuard f).run s).2.visible =
      { s.visible with guard := s.visible.guard.map F } :=
    fun s => s.visible_mapGuard (f := fun g => ((), f g)) F hf
  intro s t hst
  refine ⟨rfl, ?_⟩
  rw [honGuard, honGuard, hst]

lemma RuleM.allowsGuard_blind : RuleM.AllowsGuard Blind where
  bind := Blind.bind
  read := blind_read
  ask := OnlyAsks.blind
  say := blind_say
  openYellow :=
    blind_onGuard (fun g => { g with state := .yellowReservedDisabled }) fun g => by
      rw [g.openYellow_guard]
      rfl
  openRed :=
    blind_onGuard (fun g => g) fun g => by
      rw [g.openRed_guard]
      rfl
  lend holder :=
    blind_onGuard (fun g => { g with state := .reservedDisabled, lentTo := holder }) fun g => by
      rw [g.lendReservedTo_guard]
      rfl

/-- The stack-guard rule looks at the zones and at the state of the guard only. -/
lemma Classifier.blind_stackGuard (c : Classifier) (i : Trap) : (c.stackGuard i).Blind :=
  Classifier.stackGuard_has RuleM.allowsGuard_blind c i

/-! ## Computations -/

/-- What is visible of a result. -/
def TrapM.visibleResult {α : Type} :
    EStateM.Result Ending ProcessState α → EStateM.Result Ending ProcessState α
  | .ok a t => .ok a t.visible
  | .error e t => .error e t.visible

/-- A computation on processes that look alike gives the same answer or ending, and leaves them
looking alike. -/
def TrapM.Blind {α : Type} (x : TrapM α) : Prop :=
  ∀ s t : ProcessState, s.visible = t.visible →
    visibleResult (x.run s) = visibleResult (x.run t)

namespace TrapM

variable {α β : Type}

/-- A blind computation ends in states that look alike, and returns the same. -/
lemma Blind.ends {x : TrapM α} (hx : x.Blind) {s t : ProcessState} (hst : s.visible = t.visible) :
    (x.stateAfter s).visible = (x.stateAfter t).visible ∧ x.returned s = x.returned t := by
  have hxst := hx s t hst
  unfold stateAfter returned
  cases hs : x.run s <;> cases ht : x.run t <;> simp_all [visibleResult]

lemma blind_pure (a : α) : Blind (pure a) :=
  fun _ _ hst => congrArg (EStateM.Result.ok a) hst

lemma blind_throw (e : Ending) : Blind (throw e : TrapM α) :=
  fun _ _ hst => congrArg (EStateM.Result.error e) hst

lemma Blind.bind {x : TrapM α} {f : α → TrapM β} (hx : x.Blind) (hf : ∀ a, (f a).Blind) :
    (x >>= f).Blind := by
  intro s t hst
  have hxst := hx s t hst
  cases hs : x.run s with
  | ok a s' =>
    cases ht : x.run t with
    | ok b t' =>
      rw [hs, ht] at hxst
      simp only [visibleResult, EStateM.Result.ok.injEq] at hxst
      obtain ⟨rfl, hvisible⟩ := hxst
      rw [run_bind_of_ok hs, run_bind_of_ok ht]
      exact hf a s' t' hvisible
    | error e t' => simp [hs, ht, visibleResult] at hxst
  | error e s' =>
    cases ht : x.run t with
    | ok b t' => simp [hs, ht, visibleResult] at hxst
    | error e' t' =>
      rw [hs, ht] at hxst
      simp only [visibleResult, EStateM.Result.error.injEq] at hxst
      obtain ⟨rfl, hvisible⟩ := hxst
      rw [run_bind_of_error hs, run_bind_of_error ht]
      exact congrArg (EStateM.Result.error e) hvisible

/-- Reading what is visible. -/
lemma blind_read {f : ProcessState → TrapM α} (hf : ∀ s, f s.visible = f s)
    (hblind : ∀ s, (f s).Blind) : (get >>= f).Blind := by
  intro s t hst
  have hsame : f s = f t := by rw [← hf s, hst, hf t]
  rw [run_get_bind, run_get_bind, hsame]
  exact hblind t s t hst

/-- A change, the visible effect of which is one on what is visible. -/
lemma blind_modify {f : ProcessState → ProcessState} (F : ProcessState → ProcessState)
    (hf : ∀ s, (f s).visible = F s.visible) : Blind (modify f) := by
  intro s t hst
  have hrun : ∀ s, visibleResult ((modify f : TrapM PUnit).run s) = .ok () (F s.visible) :=
    fun s => congrArg (EStateM.Result.ok ()) (hf s)
  rw [hrun, hrun, hst]

/-- A change of what is visible, by what is visible. -/
lemma blind_modify_visible {f : ProcessState → ProcessState}
    (hf : ∀ s, (f s).visible = f s.visible) : Blind (modify f) :=
  blind_modify f hf

/-- A change of what is visible that answers what it found. -/
lemma blind_modifyGet {f : ProcessState → α × ProcessState}
    (hf : ∀ s, ((f s).1, (f s).2.visible) = f s.visible) : Blind (modifyGet f) := by
  intro s t hst
  have hrun : ∀ s, visibleResult ((modifyGet f : TrapM α).run s) =
      .ok (f s.visible).1 (f s.visible).2 := by
    intro s
    rw [← hf s]
    rfl
  rw [hrun, hrun, hst]

lemma blind_onScene {x : RuleM α} (hx : x.Blind) : (onScene x).Blind := by
  intro s t hst
  obtain ⟨hanswer, hvisible⟩ := hx s.scene t.scene (congrArg ProcessState.scene hst)
  have hrun : ∀ s : ProcessState, visibleResult ((onScene x).run s) =
      .ok (x.run s.scene).1 { s.visible with scene := (x.run s.scene).2.visible } :=
    fun _ => rfl
  rw [hrun, hrun, hanswer, hvisible, hst]

lemma composes_blind : TrapM.Composes Blind where
  pure := blind_pure
  bind := Blind.bind
  read := blind_read

/-- Printing is not visible. -/
lemma blind_say (level : Level) (text : String) : (say level text).Blind :=
  blind_modify (fun v => v) fun s =>
    congrArg (fun scene => { s.visible with scene })
      (Scene.visible_console (s.scene.console.blank_say level text))

lemma blind_setMask (mask : SignalSet) : (setMask mask).Blind :=
  blind_modify_visible fun _ => rfl

lemma allowsForeign_blind : TrapM.AllowsForeign Blind where
  toComposes := composes_blind
  mark _ := blind_modify_visible fun _ => rfl
  offer _ := blind_modify_visible fun _ => rfl
  say := blind_say
  log _ := blind_modify_visible fun _ => rfl
  spend _ _ := blind_modify_visible fun _ => rfl
  rewrite _ := blind_modify_visible fun _ => rfl
  locked hx := by
    refine Blind.bind ?_ fun _ => hx.bind fun a => Blind.bind ?_ fun _ => blind_pure a
    · exact blind_modify_visible fun _ => rfl
    · exact blind_modify_visible fun _ => rfl
  masked mask _ _ hx hk :=
    blind_read (fun _ => rfl) fun s => (blind_setMask mask).bind fun _ => hx.bind fun _ =>
      (blind_setMask s.os.mask).bind fun _ => hk

lemma allowsEscalation_blind : TrapM.AllowsEscalation Blind where
  toAllowsForeign := allowsForeign_blind
  throw := blind_throw
  unblock control signal := by
    cases control with
    | system => exact blind_modify_visible fun _ => rfl
    | delegated => exact blind_modify_visible fun _ => rfl
  claim := blind_modify_visible fun _ => rfl
  name := blind_modify_visible fun _ => rfl
  report lines := blind_modify (fun v => v) fun s =>
    congrArg (fun scene => { s.visible with scene })
      (Scene.visible_console (s.scene.console.blank_report lines))

lemma blind_resetAction (signo : Int32) : (resetAction signo).Blind := by
  refine blind_modify_visible fun s => ?_
  have hactions : s.visible.actions = s.actions := rfl
  rw [hactions]
  cases s.actions.replace signo {} <;> rfl

/-- All that handling a signal does is blind. -/
theorem allowsHandling_blind : TrapM.AllowsHandling Blind where
  toAllowsEscalation := allowsEscalation_blind
  ask hx := blind_onScene hx.blind
  guard c i := blind_onScene (c.blind_stackGuard i)
  reset := blind_resetAction
  fail _ := blind_modify_visible fun _ => rfl
  enter _ := blind_modifyGet fun _ => rfl
  leave _ := blind_modify_visible fun _ => rfl
  count := blind_modifyGet fun _ => rfl
  save pc := by
    refine blind_modify_visible fun s => ?_
    have hthread : s.visible.thread = s.thread := rfl
    rw [hthread]
    cases s.thread <;> rfl

end TrapM

end ManagedFaults
