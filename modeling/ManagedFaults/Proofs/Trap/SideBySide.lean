import ManagedFaults.Proofs.Trap.Reentry
import ManagedFaults.Proofs.Trap.OfferedOnce
import ManagedFaults.Proofs.Trap.Visible

/-!
# Two systems side by side

Two trap systems may differ in what the managed runtime knows, or in what some of the functions do
that kept actions call.  As long as nothing that they do depends on the difference, they cannot be
told apart: from processes that look alike they give the same answers, and leave processes that look
alike (`services_alike`).  What has to hold all the while is an invariant of the kept actions, and
that handlers are nested unless the rules of both systems answer the same
(`ProcessState.Sheltered`).
-/

namespace ManagedFaults

/-! ## Computations that cannot be told apart -/

namespace TrapM

/-- From processes that look alike, the first of which satisfies `I`, both computations give the
same answer or ending and leave processes that look alike.  If they return, the first of these
satisfies `O`. -/
def Alike {α : Type} (I O : ProcessState → Prop) (x y : TrapM α) : Prop :=
  ∀ s t : ProcessState, s.visible = t.visible → I s →
    visibleResult (x.run s) = visibleResult (y.run t) ∧ EndsIn O (fun _ => True) (x.run s)

/-- Computations that cannot be told apart while `I` is satisfied, and leave it satisfied. -/
abbrev AlikeUnder {α : Type} (I : ProcessState → Prop) (x y : TrapM α) : Prop :=
  Alike I I x y

variable {α β : Type} {I J O : ProcessState → Prop}

lemma alike_pure (h : ∀ s, I s → O s) (a : α) : Alike I O (pure a) (pure a) :=
  fun s _ hst hs => ⟨congrArg (EStateM.Result.ok a) hst, h s hs⟩

lemma alike_throw (e : Ending) : Alike I O (throw e : TrapM α) (throw e) :=
  fun _ _ hst _ => ⟨congrArg (EStateM.Result.error e) hst, trivial⟩

lemma Alike.bind {x y : TrapM α} {f g : α → TrapM β} (hxy : Alike I J x y)
    (hfg : ∀ a, Alike J O (f a) (g a)) : Alike I O (x >>= f) (y >>= g) := by
  intro s t hst hs
  obtain ⟨hresult, hends⟩ := hxy s t hst hs
  cases hx : x.run s with
  | ok a s' =>
    cases hy : y.run t with
    | ok b t' =>
      rw [hx, hy] at hresult
      rw [hx] at hends
      simp only [visibleResult, EStateM.Result.ok.injEq] at hresult
      obtain ⟨rfl, hvisible⟩ := hresult
      rw [run_bind_of_ok hx, run_bind_of_ok hy]
      exact hfg a s' t' hvisible hends
    | error e t' => simp [hx, hy, visibleResult] at hresult
  | error e s' =>
    cases hy : y.run t with
    | ok b t' => simp [hx, hy, visibleResult] at hresult
    | error e' t' =>
      rw [hx, hy] at hresult
      rw [run_bind_of_error hx, run_bind_of_error hy]
      simp only [visibleResult, EStateM.Result.error.injEq] at hresult
      obtain ⟨rfl, hvisible⟩ := hresult
      exact ⟨congrArg (EStateM.Result.error e) hvisible, trivial⟩

/-- Reading what is visible. -/
lemma alike_read {f g : ProcessState → TrapM α} (hg : ∀ s, g s.visible = g s)
    (hfg : ∀ s, Alike I O (f s) (g s)) :
    Alike I O (get >>= f) (get >>= g) := by
  intro s t hst hs
  have hread : g s = g t := by rw [← hg s, hst, hg t]
  rw [run_get_bind, run_get_bind, ← hread]
  exact hfg s s t hst hs

/-- A blind computation cannot be told apart from itself. -/
lemma Blind.alike {x : TrapM α} (hx : x.Blind) (h : ∀ s, I s → EndsIn O (fun _ => True) (x.run s)) :
    Alike I O x x :=
  fun s t hst hs => ⟨hx s t hst, h s hs⟩

end TrapM

/-- Neither the kept actions nor the mark have changed. -/
structure ProcessState.SameGround (s t : ProcessState) : Prop where
  previous : t.previous = s.previous
  mark : t.os.mark = s.os.mark

/-! ## Systems that differ -/

/-- As long as the kept actions satisfy `K`, two systems differ in nothing that is done for them:
the functions that they call are the same, and after a call they satisfy `K` again. -/
structure Dispatcher.AgreeOn (K : List KeptAction → Prop) (sys sys' : Dispatcher) : Prop where
  control : sys'.control = sys.control
  reporter : sys'.runtime.reporter = sys.runtime.reporter
  called : ∀ {kept : List KeptAction} {slot : Nat} {p : KeptAction}, K kept →
    kept[slot]? = some p → K (kept.set slot p.called)
  foreign : ∀ {kept : List KeptAction} {slot : Nat} {p : KeptAction}, K kept →
    kept[slot]? = some p → ∀ (address : Word) (raw : Delivery),
      p.action.handler = .foreign address →
        sys'.runtime.foreign address (p.arguments raw) =
          sys.runtime.foreign address (p.arguments raw)

/-- The rules of both systems answer the same about every trap. -/
def Dispatcher.SameRules (sys sys' : Dispatcher) : Prop :=
  ∀ i : Trap, sys'.classifier.ownRules i = sys.classifier.ownRules i

/-- The kept actions satisfy `K`, and unless the rules of both systems answer the same, handlers
that run with this much room on the stack are nested. -/
structure ProcessState.Sheltered (K : List KeptAction → Prop) (sys sys' : Dispatcher) (room : Nat)
    (s : ProcessState) : Prop where
  kept : K s.previous
  nested : sys.SameRules sys' ∨ room < s.os.mark.recorded

/-- What foreign code can call cannot be told apart. -/
structure Services.Alike (I : ProcessState → Prop) (sv sv' : Services) : Prop where
  handle : ∀ info raw context abort,
    TrapM.AlikeUnder I (sv.handle info raw context abort) (sv'.handle info raw context abort)
  dispatch : ∀ info raw, TrapM.AlikeUnder I (sv.dispatch info raw) (sv'.dispatch info raw)
  entry : ∀ raw, TrapM.AlikeUnder I (sv.entry raw) (sv'.entry raw)

open ProcessState TrapM

section SideBySide

variable {K : List KeptAction → Prop} {sys sys' : Dispatcher} {sv sv' : Services} {room : Nat}

lemma ProcessState.Sheltered.after {s t : ProcessState} (h : s.Sheltered K sys sys' room)
    (hst : s.SameGround t) : t.Sheltered K sys sys' room where
  kept := by rw [hst.previous]; exact h.kept
  nested := by rw [hst.mark]; exact h.nested

/-- A blind computation on the same ground. -/
lemma TrapM.Blind.sheltered {α : Type} {x : TrapM α} (hx : x.Blind)
    (hground : x.Within SameGround fun _ _ => True) :
    AlikeUnder (Sheltered K sys sys' room) x x := by
  refine hx.alike fun s hs => ?_
  have hends := hground s
  cases hrun : x.run s with
  | ok a t =>
    rw [hrun] at hends
    exact hs.after hends
  | error e t => trivial

/-! ## Foreign code -/

/-- Calls the function of a kept action, with its mask in force. -/
def callKept (sys : Dispatcher) (sv : Services) (p : KeptAction) (info : SignalCause)
    (raw : Delivery) : TrapM Bool := do
  let blocked := (← get).os.mask
  TrapM.setMask p.runMask
  callForeign sys sv p.action.handler (p.arguments raw)
  TrapM.setMask blocked
  TrapM.say .debug (p.signal.text ++ " forwarded to previous handler (" ++ info.text ++ ")")
  return true

/-- A kept action that has a function is spent before that is called. -/
lemma tryKept_run (sys : Dispatcher) (sv : Services) (slot : Nat) (info : SignalCause)
    (raw : Delivery) (s : ProcessState) :
    (tryKept sys sv slot info raw).run s = match s.previous[slot]? with
      | none => .ok false s
      | some p =>
        match p.action.handler with
        | .default => .ok false s
        | .ignore => .ok true s
        | _ => (callKept sys sv p info raw).run
          { s with previous := s.previous.set slot p.called } := by
  unfold tryKept callKept
  rw [run_get_bind]
  cases s.previous[slot]? with
  | none => rfl
  | some p => cases hhandler : p.action.handler <;> simp only [hhandler] <;> rfl

private lemma say_alike (level : Level) (text : String) :
    AlikeUnder (Sheltered K sys sys' room)
      (TrapM.say level text) (TrapM.say level text) :=
  (blind_say level text).sheltered fun _ => ⟨rfl, rfl⟩

private lemma report_alike (lines lines' : List String) :
    AlikeUnder (Sheltered K sys sys' room) (TrapM.report lines) (TrapM.report lines') := by
  have hprinted : ∀ (lines : List String) (s : ProcessState),
      visibleResult ((TrapM.report lines).run s) = .ok () s.visible :=
    fun lines s => congrArg (EStateM.Result.ok ()) (congrArg
      (fun scene : Scene => { s.visible with scene })
      (Scene.visible_console (s.scene.console.blank_report lines)))
  intro s t hst hs
  rw [hprinted, hprinted, hst]
  exact ⟨rfl, hs.after ⟨rfl, rfl⟩⟩

private lemma pure_alike {α : Type} (a : α) :
    AlikeUnder (Sheltered K sys sys' room) (pure a) (pure a) :=
  alike_pure (fun _ hs => hs) a

section Foreign

variable (hsv : sv.Alike (Sheltered K sys sys' room) sv')
include hsv

/-- Foreign code cannot tell apart what cannot be told apart by each of its calls. -/
lemma Script.run_alike (p : Script) :
    AlikeUnder (Sheltered K sys sys' room) (p.run sv) (p.run sv') := by
  induction p with
  | answer handled => exact pure_alike handled
  | note text next ih =>
    exact ((allowsForeign_blind.mark text).sheltered fun _ => ⟨rfl, rfl⟩).bind fun _ => ih
  | readRegisters next ih => exact alike_read (fun _ => rfl) fun s => ih s.rewritten
  | writeRegisters registers next ih =>
    exact ((allowsForeign_blind.rewrite registers).sheltered fun _ => ⟨rfl, rfl⟩).bind fun _ => ih
  | readMask next ih => exact alike_read (fun _ => rfl) fun s => ih s.os.mask
  | handle info raw context abort next ih =>
    exact (hsv.handle info raw context abort).bind fun r => ih r.1 r.2
  | offer info raw next ih => exact (hsv.dispatch info raw).bind ih
  | log event next ih =>
    exact ((allowsForeign_blind.log event).sheltered fun _ => ⟨rfl, rfl⟩).bind fun _ => ih
  | askFatal next ih =>
    exact alike_read (fun _ => rfl) fun s => ih s.latch.inProgress

lemma ChainedHandler.drop_alike (handler : ChainedHandler) :
    AlikeUnder (Sheltered K sys sys' room) (handler.drop sv) (handler.drop sv') := by
  cases handler with
  | script run onDrop =>
    cases onDrop with
    | none => exact pure_alike ()
    | some onDrop => exact (Script.run_alike hsv onDrop).bind fun _ => pure_alike ()
  | previous slot => exact pure_alike ()

lemma callForeign_alike (handler : ActionHandler) (call : ForeignCall)
    (hforeign : ∀ address, handler = .foreign address →
      sys'.runtime.foreign address call = sys.runtime.foreign address call) :
    AlikeUnder (Sheltered K sys sys' room)
      (callForeign sys sv handler call) (callForeign sys' sv' handler call) := by
  unfold callForeign
  cases handler with
  | foreign address =>
    dsimp only
    rw [hforeign address rfl]
    exact (Script.run_alike hsv _).bind fun _ => pure_alike ()
  | trapEntry => exact hsv.entry _
  | default => exact pure_alike ()
  | ignore => exact pure_alike ()

lemma callKept_alike {p : KeptAction} (info : SignalCause) {raw : Delivery}
    (hforeign : ∀ address, p.action.handler = .foreign address →
      sys'.runtime.foreign address (p.arguments raw) =
        sys.runtime.foreign address (p.arguments raw)) :
    AlikeUnder (Sheltered K sys sys' room) (callKept sys sv p info raw)
      (callKept sys' sv' p info raw) := by
  have hmask : ∀ mask, AlikeUnder (Sheltered K sys sys' room) (setMask mask) (setMask mask) :=
    fun mask => (blind_setMask mask).sheltered fun _ => ⟨rfl, rfl⟩
  unfold callKept
  refine alike_read (fun _ => rfl) fun s => ?_
  refine (hmask p.runMask).bind fun _ => ?_
  refine (callForeign_alike hsv _ _ hforeign).bind fun _ => ?_
  exact (hmask s.os.mask).bind fun _ => (say_alike _ _).bind fun _ => pure_alike true

variable (hagree : sys.AgreeOn K sys')
include hagree

/-- A kept action is spent before its function is called, so that the calls from there find what is
left of it. -/
lemma tryKept_alike (slot : Nat) (info : SignalCause) (raw : Delivery) :
    AlikeUnder (Sheltered K sys sys' room)
      (tryKept sys sv slot info raw) (tryKept sys' sv' slot info raw) := by
  intro s t hst hs
  have hprevious : t.previous = s.previous := (congrArg ProcessState.previous hst).symm
  rw [tryKept_run, tryKept_run, hprevious]
  cases hp : s.previous[slot]? with
  | none => exact pure_alike false s t hst hs
  | some p =>
    have hspent : { s with previous := s.previous.set slot p.called }.visible =
        { t with previous := s.previous.set slot p.called }.visible :=
      congrArg (fun v : ProcessState => { v with previous := s.previous.set slot p.called }) hst
    have hcall := callKept_alike hsv info (hagree.foreign hs.kept hp · raw) _ _ hspent
      ⟨hagree.called hs.kept hp, hs.nested⟩
    dsimp only
    split
    · exact pure_alike false s t hst hs
    · exact pure_alike true s t hst hs
    · exact hcall

lemma ChainedHandler.tryHandle_alike (handler : ChainedHandler) (info : SignalCause)
    (raw : Delivery) :
    AlikeUnder (Sheltered K sys sys' room)
      (handler.tryHandle sys sv info raw) (handler.tryHandle sys' sv' info raw) := by
  cases handler with
  | script run onDrop => exact Script.run_alike hsv _
  | previous slot => exact tryKept_alike hsv hagree slot info raw

/-- Nor can offers to the chained handlers be told apart. -/
theorem dispatch_alike (info : SignalCause) (raw : Delivery) :
    AlikeUnder (Sheltered K sys sys' room)
      (dispatch sys sv info raw) (dispatch sys' sv' info raw) := by
  have hask : ∀ l : List (RegisteredHandler ChainedHandler),
      AlikeUnder (Sheltered K sys sys' room)
        (l.anyM fun e => e.handler.tryHandle sys sv info raw)
        (l.anyM fun e => e.handler.tryHandle sys' sv' info raw) := by
    intro l
    induction l with
    | nil => exact pure_alike false
    | cons e l ih =>
      refine (ChainedHandler.tryHandle_alike hsv hagree e.handler info raw).bind fun handled => ?_
      cases handled with
      | false => exact ih
      | true => exact pure_alike true
  have hlock : ∀ f : RegistryLock → RegistryLock,
      AlikeUnder (Sheltered K sys sys' room)
        (modify fun s => { s with lock := f s.lock } : TrapM Unit)
        (modify fun s => { s with lock := f s.lock }) :=
    fun f => (blind_modify_visible (f := fun s => { s with lock := f s.lock })
      fun _ => rfl).sheltered fun _ => ⟨rfl, rfl⟩
  unfold dispatch
  refine ((allowsForeign_blind.offer info.signal).sheltered fun _ => ⟨rfl, rfl⟩).bind fun _ => ?_
  refine alike_read (fun _ => rfl) fun s => ?_
  split
  · exact (say_alike _ _).bind fun _ => pure_alike false
  · refine (hlock fun l => { l with readers := l.readers + 1 }).bind fun _ => ?_
    refine (hask _).bind fun handled => ?_
    exact (hlock fun l => { l with readers := l.readers - 1 }).bind fun _ => pure_alike handled

end Foreign

/-! ## Handling a signal -/

lemma ProcessState.visible_saying (lines : List (Level × String)) (s : ProcessState) :
    (s.saying lines).visible = s.visible := by
  induction lines generalizing s with
  | nil => rfl
  | cons line lines ih =>
    have hfirst : { s with scene := s.scene.say line.1 line.2 }.visible = s.visible :=
      congrArg (fun scene => { s.visible with scene })
        (Scene.visible_console (s.scene.console.blank_say line.1 line.2))
    exact (ih _).trans hfirst

lemma ProcessState.saying_sameGround (lines : List (Level × String)) (s : ProcessState) :
    s.SameGround (s.saying lines) := by
  induction lines generalizing s with
  | nil => exact ⟨rfl, rfl⟩
  | cons line lines ih =>
    have hrest := ih { s with scene := s.scene.say line.1 line.2 }
    exact ⟨hrest.previous, hrest.mark⟩

private lemma blind_ownRules (c : Classifier) (i : Trap) : (c.ownRules i).Blind := by
  have hsearch : ∀ l : List Stage, (l.findSomeM? (c.rule i)).Blind := by
    intro l
    induction l with
    | nil => exact RuleM.blind_pure none
    | cons stage l ih =>
      have hrule : (c.rule i stage).Blind := by
        by_cases hstage : stage = .stackGuard
        · subst hstage
          exact c.blind_stackGuard i
        · exact (c.onlyAsks_rule i hstage).blind
      rw [List.findSomeM?_cons]
      refine hrule.bind fun found => ?_
      cases found with
      | some cl => exact RuleM.blind_pure (some cl)
      | none => exact ih
  unfold Classifier.ownRules
  split
  · exact RuleM.blind_pure none
  · exact hsearch Stage.own

/-- Lines that are printed make no difference. -/
private lemma alike_of_saying {α : Type} {x y : TrapM α} {a : α}
    {lines lines' : ProcessState → List (Level × String)}
    (hx : ∀ s, x.run s = .ok a (s.saying (lines s)))
    (hy : ∀ s, y.run s = .ok a (s.saying (lines' s))) :
    AlikeUnder (Sheltered K sys sys' room) x y := by
  intro s t hst hs
  rw [hx, hy]
  refine ⟨congrArg (EStateM.Result.ok a) ?_, hs.after (saying_sameGround (lines s) s)⟩
  rw [visible_saying, visible_saying, hst]

/-- Where the rules of both systems answer the same, the handlers decide if neither does. -/
lemma Classifier.classify_alike {c c' : Classifier} {i : Trap} {offer offer' : TrapM Bool}
    (hrules : c'.ownRules i = c.ownRules i)
    (hoffer : AlikeUnder (Sheltered K sys sys' room) offer offer') :
    AlikeUnder (Sheltered K sys sys' room) (c.classify offer i) (c'.classify offer' i) := by
  rw [classify_eq, classify_eq, hrules]
  refine ((blind_onScene (blind_ownRules c i)).sheltered fun _ => ⟨rfl, rfl⟩).bind fun found => ?_
  cases found with
  | some cl => exact alike_of_saying (c.run_announce_saying i cl) (c'.run_announce_saying i cl)
  | none =>
    exact hoffer.bind fun handled =>
      alike_of_saying (c.run_afterOffer_saying i handled) (c'.run_afterOffer_saying i handled)

section Handling

variable (hsv : sv.Alike (Sheltered K sys sys' room) sv') (hagree : sys.AgreeOn K sys')
include hsv hagree

/-- Reports may read differently, but nobody in the process looks at them. -/
lemma escalate_alike {α : Type} {O : ProcessState → Prop} (trap : UnrecoverableTrap)
    (raw : Delivery) :
    Alike (Sheltered K sys sys' room) O (escalate sys sv trap raw : TrapM α)
      (escalate sys' sv' trap raw) := by
  rw [escalate_eq, escalate_eq, hagree.reporter]
  refine alike_read (fun _ => rfl) fun s => ?_
  refine (allowsEscalation_blind.claim.sheltered fun _ => ⟨rfl, rfl⟩).bind fun _ => ?_
  split
  · refine (allowsEscalation_blind.name.sheltered fun _ => ⟨rfl, rfl⟩).bind fun _ => ?_
    refine alike_read (fun _ => rfl) fun s => ?_
    unfold FatalReport.lines
    cases FatalReport.topOfStack s.memory trap with
    | none => exact alike_throw _
    | some stack =>
      refine Alike.bind (J := Sheltered K sys sys' room) (report_alike _ _) fun _ => ?_
      exact (Script.run_alike hsv _).bind fun _ => alike_throw _
  · split
    · exact (report_alike _ _).bind fun _ => alike_throw _
    · exact alike_throw _

variable {O : ProcessState → Prop} {nested : Bool}
  (hleave : ∀ s : ProcessState, s.Sheltered K sys sys' room →
    O { s with os := { s.os with mark := s.os.mark.leave nested } })
include hleave

/-- Two handlers with the same verdict cannot be told apart. -/
lemma conclude_alike (info : SignalCause) (raw : Delivery) (context : Option Context)
    (abort : Bool) (thread : Option ManagedThread) (cl : Classification) :
    Alike (Sheltered K sys sys' room) O
      (conclude sys sv info raw context abort nested thread cl)
      (conclude sys' sv' info raw context abort nested thread cl) := by
  have hblind := allowsHandling_blind
  have hlast : ∀ r : Bool × Option Context, Alike (Sheltered K sys sys' room) O
      (leaveTrap nested >>= fun _ => pure r) (leaveTrap nested >>= fun _ => pure r) :=
    fun r => Alike.bind (J := O) ((hblind.leave nested).alike hleave) fun _ =>
      alike_pure (fun _ hs => hs) r
  have hresume : (resume cl context (interruptedPc context)).Within SameGround fun _ _ => True := by
    intro s
    unfold resume
    split
    · exact ⟨rfl, rfl⟩
    · split
      · show SameGround s (if s.thread.isSome then { s with savedPc := _ } else s)
        split <;> exact ⟨rfl, rfl⟩
      · exact ⟨rfl, rfl⟩
    · exact ⟨rfl, rfl⟩
  have hunblock : (sys.control.unblock info.signal).Within SameGround fun _ _ => True := by
    intro s
    cases sys.control <;> exact ⟨rfl, rfl⟩
  unfold conclude
  refine Alike.bind (hblind.count.sheltered fun _ => ⟨rfl, rfl⟩) fun sequence => ?_
  refine Alike.bind ((hblind.log _).sheltered fun _ => ⟨rfl, rfl⟩) fun _ => ?_
  unfold carryOut
  refine Alike.bind
    ((resume_has hblind.toAllowsConclusion cl context _).sheltered hresume) fun resumed => ?_
  cases resumed with
  | some context => exact hlast (true, context)
  | none =>
    dsimp only
    split
    · rw [hagree.control]
      refine Alike.bind ((hblind.toAllowsEscalation.unblock _ _).sheltered hunblock) fun _ => ?_
      refine alike_read (fun s => ?_) fun s => ?_
      · rw [unrecoverableTrap_visible]
      · exact escalate_alike hsv hagree _ raw
    · exact hlast (false, context)

/-- A handler enters.  Unless it is nested, the rules of both systems have to answer the same about
its trap. -/
lemma handle_alike_at {sp : Nat} {info : SignalCause} {raw : Delivery} {context : Option Context}
    (abort : Bool) {s t : ProcessState} (hst : s.visible = t.visible)
    (hnested : (s.os.mark.enter sp).1 = nested)
    (hshelter : (s.entered sp).Sheltered K sys sys' room)
    (hrules : nested = false →
      sys'.classifier.ownRules (Trap.ofSignal info raw context s.thread) =
        sys.classifier.ownRules (Trap.ofSignal info raw context s.thread)) :
    visibleResult ((handle sys sv sp info raw context abort).run s) =
        visibleResult ((handle sys' sv' sp info raw context abort).run t) ∧
      EndsIn O (fun _ => True) ((handle sys sv sp info raw context abort).run s) := by
  have hos : t.os = s.os := (congrArg ProcessState.os hst).symm
  have hthread : t.thread = s.thread := (congrArg ProcessState.thread hst).symm
  have hentered : (s.entered sp).visible = (t.entered sp).visible := by
    show (s.visible.entered sp) = (t.visible.entered sp)
    rw [hst]
  have henter : ∀ u : ProcessState, u.os = s.os →
      (enterTrap sp).run u = .ok nested (u.entered sp) := by
    intro u hu
    rw [← hnested, ← hu]
    rfl
  have hconclude := fun context => conclude_alike hsv hagree hleave info raw context abort s.thread
  rw [handle_eq, handle_eq, run_bind_of_ok (henter s rfl), run_bind_of_ok (henter t hos),
    run_get_bind, run_get_bind]
  have hsthread : (s.entered sp).thread = s.thread := rfl
  have htthread : (t.entered sp).thread = s.thread := hthread
  rw [hsthread, htthread]
  cases nested with
  | true => exact hconclude context _ _ _ hentered hshelter
  | false =>
    refine Alike.bind (Classifier.classify_alike (hrules rfl) (dispatch_alike hsv hagree _ raw))
      (fun cl => ?_) _ _ hentered hshelter
    exact alike_read (fun _ => rfl) fun m => hconclude (registersAt raw context false m) cl

end Handling

/-! ## Every level of the stack -/

section Entry

variable
  {handle handle' : SignalCause → Delivery → Option Context → Bool → TrapM (Bool × Option Context)}
  (hhandle : ∀ info raw context abort, AlikeUnder (Sheltered K sys sys' room)
    (handle info raw context abort) (handle' info raw context abort))
include hhandle

lemma forwardSignal_alike (raw : Delivery) (abort : Bool) :
    AlikeUnder (Sheltered K sys sys' room) (forwardSignal handle raw abort)
      (forwardSignal handle' raw abort) := by
  unfold forwardSignal
  refine alike_read (fun _ => rfl) fun s => ?_
  split
  · exact pure_alike _
  · refine Alike.bind (hhandle _ _ _ _) fun r => ?_
    split <;> exact pure_alike _

lemma enterFromKernel_alike (raw : Delivery) :
    AlikeUnder (Sheltered K sys sys' room) (enterFromKernel handle raw)
      (enterFromKernel handle' raw) := by
  have hreset : (resetAction raw.signo).Within SameGround fun _ _ => True := by
    refine TrapM.within_modify fun s => ?_
    dsimp only
    split <;> exact ⟨rfl, rfl⟩
  unfold enterFromKernel
  refine alike_read (fun _ => rfl) fun s => ?_
  refine Alike.bind (forwardSignal_alike hhandle raw true) fun r => ?_
  have hlast : AlikeUnder (Sheltered K sys sys' room)
      (do TrapM.modifyOs fun t => { t with errno := s.os.errno }
          return r.2 : TrapM (Option MachineContext))
      (do TrapM.modifyOs fun t => { t with errno := s.os.errno }
          return r.2) :=
    ((allowsHandling_blind.fail s.os.errno).sheltered fun _ => ⟨rfl, rfl⟩).bind fun _ =>
      pure_alike _
  dsimp only
  split
  · exact ((blind_resetAction raw.signo).sheltered hreset).bind fun _ => hlast
  · exact hlast

end Entry

variable (hagree : sys.AgreeOn K sys')
include hagree

/-- Handlers that run with no more room than this on the stack cannot be told apart. -/
lemma handle_alike (hsv : sv.Alike (Sheltered K sys sys' room) sv') {sp : Nat} (hsp : sp ≤ room)
    (info : SignalCause) (raw : Delivery) (context : Option Context) (abort : Bool) :
    AlikeUnder (Sheltered K sys sys' room) (handle sys sv sp info raw context abort)
      (handle sys' sv' sp info raw context abort) := by
  intro s t hst hs
  cases hnested : (s.os.mark.enter sp).1 with
  | true =>
    have hleave : ∀ u : ProcessState, u.Sheltered K sys sys' room →
        { u with os := { u.os with mark := u.os.mark.leave true } }.Sheltered K sys sys' room :=
      fun u hu => hu.after ⟨rfl, rfl⟩
    refine handle_alike_at hsv hagree hleave abort hst hnested ?_ (by simp)
    refine hs.after ⟨rfl, ?_⟩
    show (s.os.mark.enter sp).2 = s.os.mark
    rw [NestingMark.enter_nested ((NestingMark.nested_iff _ _).mp hnested)]
  | false =>
    have hsame : sys.SameRules sys' := by
      refine hs.nested.resolve_right fun hroom => ?_
      have hlower : sp < s.os.mark.recorded := by omega
      rw [(NestingMark.nested_iff _ _).mpr hlower] at hnested
      cases hnested
    have hleave : ∀ u : ProcessState, u.Sheltered K sys sys' room →
        { u with os := { u.os with mark := u.os.mark.leave false } }.Sheltered K sys sys' room :=
      fun u hu => ⟨hu.kept, .inl hsame⟩
    exact handle_alike_at hsv hagree hleave abort hst hnested ⟨hs.kept, .inl hsame⟩ fun _ => hsame _

/-- However much room there is on the stack, what foreign code can call cannot be told apart. -/
theorem services_alike {n : Nat} (hn : n ≤ room) :
    (services sys n).Alike (Sheltered K sys sys' room) (services sys' n) := by
  -- each level is made of the one below it; the lowest one only ends the thread
  induction n with
  | zero => exact ⟨fun _ _ _ _ => alike_throw _, fun _ _ => alike_throw _, fun _ => alike_throw _⟩
  | succ n ih =>
    have hlower := ih (by omega)
    have hhandle := handle_alike hagree hlower hn
    exact {
      handle := hhandle
      dispatch := dispatch_alike hlower hagree
      entry := fun raw => (enterFromKernel_alike hhandle raw).bind fun _ => pure_alike () }

end SideBySide

/-! ## What holds of the kept actions -/

section Keeps

variable {K : List KeptAction → Prop} {sys : Dispatcher}

/-- A system agrees with itself as long as no call breaks what holds of the kept actions. -/
lemma Dispatcher.agreeOn_self (sys : Dispatcher)
    (hcalled : ∀ {kept : List KeptAction} {slot : Nat} {p : KeptAction}, K kept →
      kept[slot]? = some p → K (kept.set slot p.called)) : sys.AgreeOn K sys where
  control := rfl
  reporter := rfl
  called := hcalled
  foreign _ _ _ _ _ := rfl

/-- What returns, and cannot be told apart from itself, leaves true what held of the kept
actions. -/
lemma TrapM.AlikeUnder.kept {α : Type} {room : Nat} {x : TrapM α} {s t : ProcessState} {a : α}
    (hx : AlikeUnder (Sheltered K sys sys room) x x) (hs : K s.previous)
    (hrun : x.run s = .ok a t) : K t.previous := by
  have hends := (hx s s rfl ⟨hs, .inl fun _ => rfl⟩).2
  rw [hrun] at hends
  exact hends.kept

end Keeps

end ManagedFaults
