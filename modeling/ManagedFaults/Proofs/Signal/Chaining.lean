import ManagedFaults.Proofs.Handler.Kept
import ManagedFaults.Proofs.Signal.Rollback
import Mathlib.Data.List.TakeWhile
import Mathlib.Logic.Relation

/-!
# What an installation keeps

An installation that succeeds leaves the trap entry in all its signals.  Of the actions that it
replaced it keeps those of other code, each once, behind all handlers that are registered.
Installing again finds the trap entry only, and keeps nothing (`Installed`).  So no kept action is
the trap entry, whatever other code does in between, and forwarding to one does not get back to it
(`foreign_actions_chained_once`).
-/

namespace ManagedFaults

open TrapM ProcessState

/-! ## The signals of which something is kept -/

/-- The listed signals but for those whose number was listed before. -/
def firstOfEach : List Signal → List Signal
  | [] => []
  | signal :: rest =>
    signal :: (firstOfEach rest).filter fun other => other.number ≠ signal.number

lemma firstOfEach_sublist (l : List Signal) : (firstOfEach l).Sublist l := by
  induction l with
  | nil => exact .slnil
  | cons signal rest ih => exact (List.filter_sublist.trans ih).cons_cons signal

lemma mem_numbers_firstOfEach {l : List Signal} {n : Int32} :
    n ∈ (firstOfEach l).map (·.number) ↔ n ∈ l.map (·.number) := by
  induction l with
  | nil => rfl
  | cons signal rest ih =>
    unfold firstOfEach
    rw [List.map_cons, List.map_cons, List.mem_cons, List.mem_cons, ← ih]
    refine or_congr_right' fun hn => ?_
    simp only [List.mem_map, List.mem_filter, decide_eq_true_eq]
    constructor
    · rintro ⟨other, ⟨hother, -⟩, rfl⟩
      exact ⟨other, hother, rfl⟩
    · rintro ⟨other, hother, rfl⟩
      exact ⟨other, ⟨hother, hn⟩, rfl⟩

lemma nodup_numbers_firstOfEach (l : List Signal) : ((firstOfEach l).map (·.number)).Nodup := by
  induction l with
  | nil => exact List.nodup_nil
  | cons signal rest ih =>
    -- the number of the first signal has been filtered out of the others
    refine List.nodup_cons.mpr ⟨fun hmem => ?_, ih.sublist (List.filter_sublist.map _)⟩
    obtain ⟨other, hother, hnumber⟩ := List.mem_map.mp hmem
    have hne := (List.mem_filter.mp hother).2
    exact of_decide_eq_true hne hnumber

namespace ActionTable

variable {actions : ActionTable} {signals : List Signal} {signal : Signal}

/-- The table in which the trap entry is the action of all listed signals. -/
def takenOver (actions : ActionTable) (signals : List Signal) : ActionTable :=
  signals.foldl (fun t signal => t.put signal.number entryAction) actions

/-- The listed signals whose actions are those of other code. -/
def foreignAmong (actions : ActionTable) (signals : List Signal) : List Signal :=
  (firstOfEach signals).filter fun signal => (actions.action signal.number).Foreign

/-- The actions of other code for the listed signals. -/
def keptAmong (actions : ActionTable) (signals : List Signal) : List KeptAction :=
  (actions.foreignAmong signals).map fun signal =>
    { signal, action := actions.action signal.number }

/-- The trap entry is the action of the listed signals, and no other action has changed. -/
lemma action_takenOver (actions : ActionTable) (signals : List Signal) (n : Int32) :
    (actions.takenOver signals).action n =
      if n ∈ signals.map (·.number) then { entryAction with mask := entryAction.mask.stored }
      else actions.action n := by
  induction signals generalizing actions with
  | nil => rfl
  | cons signal rest ih =>
    refine (ih (actions.put signal.number entryAction)).trans ?_
    unfold put
    by_cases hrest : n ∈ rest.map (·.number)
    · simp [hrest]
    · by_cases hn : n = signal.number <;> simp [hrest, hn]

lemma refusal_takenOver (actions : ActionTable) (signals : List Signal) :
    (actions.takenOver signals).refusal = actions.refusal := by
  induction signals generalizing actions with
  | nil => rfl
  | cons signal rest ih => exact ih (actions.put signal.number entryAction)

lemma foreign_put_iff {n m : Int32} :
    ((actions.put n entryAction).action m).Foreign ↔ m ≠ n ∧ (actions.action m).Foreign := by
  unfold put
  by_cases h : m = n
  · simp [h, SignalAction.Foreign, entryAction]
  · simp [h]

/-- Once the trap entry is the action of the first signal, nothing more of that number is kept. -/
lemma filter_foreign_firstOfEach (actions : ActionTable) (signal : Signal) (l : List Signal) :
    (l.filter fun other => other.number ≠ signal.number).filter
        (fun other => (actions.action other.number).Foreign) =
      l.filter fun other =>
        ((actions.put signal.number entryAction).action other.number).Foreign := by
  rw [List.filter_filter]
  refine List.filter_congr fun other _ => ?_
  rw [Bool.eq_iff_iff, Bool.and_eq_true, decide_eq_true_iff, decide_eq_true_iff,
    decide_eq_true_iff, foreign_put_iff, and_comm]

lemma foreignAmong_cons_of_foreign (h : (actions.action signal.number).Foreign)
    (rest : List Signal) :
    actions.foreignAmong (signal :: rest) =
      signal :: (actions.put signal.number entryAction).foreignAmong rest := by
  refine (List.filter_cons_of_pos (by simp [h])).trans ?_
  rw [filter_foreign_firstOfEach]
  rfl

lemma foreignAmong_cons_of_own (h : ¬ (actions.action signal.number).Foreign)
    (rest : List Signal) :
    actions.foreignAmong (signal :: rest) =
      (actions.put signal.number entryAction).foreignAmong rest := by
  refine (List.filter_cons_of_neg (by simp [h])).trans ?_
  rw [filter_foreign_firstOfEach]
  rfl

/-- What is kept of the other signals is kept as it was from the start. -/
lemma keptAmong_put (actions : ActionTable) (signal : Signal) (rest : List Signal) :
    (actions.put signal.number entryAction).keptAmong rest =
      ((actions.put signal.number entryAction).foreignAmong rest).map fun other =>
        { signal := other, action := actions.action other.number } := by
  unfold keptAmong
  refine List.map_congr_left fun other hother => ?_
  have hforeign := of_decide_eq_true (List.mem_filter.mp hother).2
  have hne : other.number ≠ signal.number := (foreign_put_iff.mp hforeign).1
  unfold put
  dsimp only
  rw [if_neg hne]

lemma keptAmong_cons_of_foreign (h : (actions.action signal.number).Foreign)
    (rest : List Signal) :
    actions.keptAmong (signal :: rest) =
      { signal, action := actions.action signal.number } ::
        (actions.put signal.number entryAction).keptAmong rest := by
  rw [keptAmong_put]
  unfold keptAmong
  rw [foreignAmong_cons_of_foreign h, List.map_cons]

lemma keptAmong_cons_of_own (h : ¬ (actions.action signal.number).Foreign) (rest : List Signal) :
    actions.keptAmong (signal :: rest) =
      (actions.put signal.number entryAction).keptAmong rest := by
  rw [keptAmong_put]
  unfold keptAmong
  rw [foreignAmong_cons_of_own h]

/-- Of a listed number something is kept if and only if its action is one of other code. -/
lemma mem_numbers_foreignAmong {n : Int32} :
    n ∈ (actions.foreignAmong signals).map (·.number) ↔
      n ∈ signals.map (·.number) ∧ (actions.action n).Foreign := by
  rw [← mem_numbers_firstOfEach (l := signals)]
  unfold foreignAmong
  simp only [List.mem_map, List.mem_filter, decide_eq_true_eq]
  constructor
  · rintro ⟨other, ⟨hother, hforeign⟩, rfl⟩
    exact ⟨⟨other, hother, rfl⟩, hforeign⟩
  · rintro ⟨⟨other, hother, rfl⟩, hforeign⟩
    exact ⟨other, ⟨hother, hforeign⟩, rfl⟩

/-- Of no number is more than one signal kept. -/
lemma nodup_numbers_foreignAmong (actions : ActionTable) (signals : List Signal) :
    ((actions.foreignAmong signals).map (·.number)).Nodup :=
  (nodup_numbers_firstOfEach signals).sublist (List.filter_sublist.map _)

lemma foreignAmong_sublist (actions : ActionTable) (signals : List Signal) :
    (actions.foreignAmong signals).Sublist signals :=
  List.filter_sublist.trans (firstOfEach_sublist signals)

end ActionTable

/-- The entries of kept actions, numbered from a slot and a handle on. -/
def keptEntries (slot : Nat) (handle : HandlerHandle) :
    List Signal → List (RegisteredHandler ChainedHandler)
  | [] => []
  | signal :: rest => keptEntry signal slot handle :: keptEntries (slot + 1) (handle + 1) rest

/-- The mask of the trap entry has all signals but the errors of the running instruction. -/
lemma entryAction_mask_has (n : Int32) :
    entryAction.mask.has n = true ↔
      isUsableSignal n = true ∧ n ∉ [Signal.segv, .bus, .ill, .fpe, .trap].map (·.number) := by
  have hmask : entryAction.mask.has n =
      (((((isUsableSignal n && n != 11) && n != 7) && n != 4) && n != 8) && n != 5) := rfl
  rw [hmask]
  simp [Signal.number, and_assoc]

/-- No entry runs after those of kept actions. -/
lemma Registry.insert_keptEntry (r : Registry ChainedHandler) (signal : Signal) (slot : Nat)
    (handle : HandlerHandle) :
    (r.insert (keptEntry signal slot handle)).entries =
      r.entries ++ [keptEntry signal slot handle] := by
  have hall : ∀ f ∈ r.entries, decide (f.priority ≤ (keptEntry signal slot handle).priority) =
      true := by
    intro f _
    have hlt := f.priority.toNat_lt
    refine decide_eq_true (UInt8.le_iff_toNat_le.mpr ?_)
    show f.priority.toNat ≤ 255
    omega
  show r.entries.takeWhile _ ++ _ :: r.entries.dropWhile _ = _
  rw [List.takeWhile_eq_self_iff.mpr hall, List.dropWhile_eq_nil_iff.mpr hall]

/-! ## Installations that succeed -/

/-- What has come of a process by installing the trap entry for some signals. -/
structure Installed (signals : List Signal) (s t : ProcessState) : Prop where
  accepted : ∀ signal ∈ signals, s.actions.refusal signal.number = none
  actions : t.actions = s.actions.takenOver signals
  previous : t.previous = s.previous ++ s.actions.keptAmong signals
  entries : t.registry.entries = s.registry.entries ++
    keptEntries s.previous.length s.nextHandle (s.actions.foreignAmong signals)

section Install

variable {s m t : ProcessState} {signals rest : List Signal} {signal : Signal}
  {steps : List Replaced} {sv : Services}

/-- Taking over one more signal beforehand. -/
lemma TakesOver.installed {step : Option Replaced} (htake : TakesOver s signal step (.ok ()) m)
    (hrest : Installed rest m t) : Installed (signal :: rest) s t := by
  cases htake with
  | replaced haccepted hforeign =>
    exact {
      accepted := List.forall_mem_cons.mpr ⟨haccepted, hrest.accepted⟩
      actions := hrest.actions
      previous := by
        rw [ActionTable.keptAmong_cons_of_own hforeign]
        exact hrest.previous
      entries := by
        rw [ActionTable.foreignAmong_cons_of_own hforeign]
        exact hrest.entries }
  | kept haccepted hforeign hfree hnew =>
    exact {
      accepted := List.forall_mem_cons.mpr ⟨haccepted, hrest.accepted⟩
      actions := hrest.actions
      previous := by
        rw [ActionTable.keptAmong_cons_of_foreign hforeign, hrest.previous]
        exact List.append_assoc _ _ _
      entries := by
        have hinserted : (s.registry.insert (s.nextEntry signal)).entries =
            s.registry.entries ++ [s.nextEntry signal] :=
          Registry.insert_keptEntry _ _ _ _
        have hlength : ((s.keeping signal).changed
            (s.registry.insert (s.nextEntry signal))).previous.length = s.previous.length + 1 :=
          List.length_append
        rw [ActionTable.foreignAmong_cons_of_foreign hforeign, hrest.entries, hlength]
        show (s.registry.insert (s.nextEntry signal)).entries ++ _ = _
        rw [hinserted, List.append_assoc]
        rfl }

/-- An installation that succeeds has done nothing else. -/
theorem installed_of_run (hrun : (installAfter sv steps signals).run s = .ok (.ok ()) t) :
    Installed signals s t := by
  -- what the later signals find and keep is counted from the process the first one leaves
  induction signals generalizing s steps with
  | nil =>
    obtain ⟨-, rfl⟩ := EStateM.Result.ok.inj hrun
    exact ⟨by simp, rfl, (List.append_nil _).symm, (List.append_nil _).symm⟩
  | cons signal rest ih =>
    obtain ⟨step, taken, m, htake, hnext⟩ := takesOver_of_run_installAfter hrun
    rcases hnext with ⟨rfl, hrest⟩ | ⟨_, -, hfailed, -⟩
    · exact htake.installed (ih hrest)
    · cases hfailed

/-- Where the trap entry is the action of all signals already, an installation changes nothing. -/
lemma run_installAfter_of_entry
    (haccepted : ∀ signal ∈ signals, s.actions.refusal signal.number = none)
    (hentry : ∀ signal ∈ signals, s.actions.action signal.number =
      { entryAction with mask := entryAction.mask.stored }) :
    (installAfter sv steps signals).run s = .ok (.ok ()) s := by
  induction signals generalizing steps with
  | nil => rfl
  | cons signal rest ih =>
    have hfirst : s.actions.action signal.number =
        { entryAction with mask := entryAction.mask.stored } := hentry signal List.mem_cons_self
    -- the kernel is given the action that it holds already
    have hput : s.actions.put signal.number entryAction = s.actions := by
      have haction : (s.actions.put signal.number entryAction).action = s.actions.action := by
        funext n
        unfold ActionTable.put
        dsimp only
        split
        · next hn => rw [hn, hfirst]
        · rfl
      exact congrArg (fun action => { s.actions with action }) haction
    have hset := run_setAction_of_accepted (haccepted signal List.mem_cons_self) entryAction
    rw [hput, hfirst] at hset
    have htake : (takeOver sv signal).run s = .ok (some
        { signo := signal.number
          before := { entryAction with mask := entryAction.mask.stored } }, .ok ()) s := by
      unfold takeOver
      dsimp only
      rw [run_bind_of_ok hset]
      rfl
    unfold installAfter
    rw [run_bind_of_ok htake]
    exact ih (fun other hother => haccepted other (List.mem_cons_of_mem _ hother))
      fun other hother => hentry other (List.mem_cons_of_mem _ hother)

/-- Repeating an installation changes nothing. -/
lemma Installed.repeated (h : Installed signals s t) (sv : Services) :
    (installEntry sv signals).run t = .ok (.ok ()) t := by
  refine run_installAfter_of_entry (fun signal hsignal => ?_) fun signal hsignal => ?_
  · rw [h.actions, ActionTable.refusal_takenOver]
    exact h.accepted signal hsignal
  · rw [h.actions, ActionTable.action_takenOver]
    exact if_pos (List.mem_map.mpr ⟨signal, hsignal, rfl⟩)

/-! ## What any installation keeps -/

/-- The step keeps an action of other code, or none. -/
lemma TakesOver.foreign_added {step : Option Replaced} {result : Except TrapFailure Unit}
    (h : TakesOver s signal step result t) :
    ∃ added : List KeptAction, t.previous = s.previous ++ added ∧
      ∀ p ∈ added, p.action.Foreign := by
  cases h with
  | refused hrefused => exact ⟨[], (List.append_nil _).symm, by simp⟩
  | replaced haccepted hforeign => exact ⟨[], (List.append_nil _).symm, by simp⟩
  | kept haccepted hforeign hfree hnew => exact ⟨[_], rfl, by simpa using hforeign⟩
  | clashed haccepted hforeign hfree hclash => exact ⟨[_], rfl, by simpa using hforeign⟩

/-- All that is kept is kept before anything is undone, and is of other code then. -/
lemma foreign_added_of_run {result : Except TrapFailure Unit}
    (hrun : (installAfter sv steps signals).run s = .ok result t) :
    ∃ m added, m.previous = s.previous ++ added ∧
      (∀ p ∈ added, p.action.Foreign) ∧
      (result = .ok () ∧ t = m ∨ ∃ undone, (undoAll sv undone).run m = .ok () t) := by
  induction signals generalizing s steps with
  | nil =>
    obtain ⟨rfl, rfl⟩ := EStateM.Result.ok.inj hrun
    exact ⟨s, [], (List.append_nil _).symm, by simp, .inl ⟨rfl, rfl⟩⟩
  | cons signal rest ih =>
    obtain ⟨step, taken, u, htake, hnext⟩ := takesOver_of_run_installAfter hrun
    obtain ⟨first, hfirst, hforeign⟩ := htake.foreign_added
    rcases hnext with ⟨-, hrest⟩ | ⟨_, -, -, hundo⟩
    · obtain ⟨m, others, hothers, hall, hend⟩ := ih hrest
      refine ⟨m, first ++ others, ?_, List.forall_mem_append.mpr ⟨hforeign, hall⟩, hend⟩
      rw [hothers, hfirst, List.append_assoc]
    · exact ⟨u, first, hfirst, hforeign, .inr ⟨_, hundo⟩⟩

end Install

/-! ## What stays of other code -/

/-- The action is one of other code, or what is left of one that was to run once. -/
def KeptAction.OfOthers (p : KeptAction) : Prop :=
  p.action.handler ≠ .trapEntry ∧
    (p.action.handler = .default → p.action.flags.resethand = true)

/-- The actions that are kept from a slot on are those of other code. -/
def OthersFrom (n : Nat) (kept : List KeptAction) : Prop :=
  ∀ slot p, n ≤ slot → kept[slot]? = some p → p.OfOthers

lemma KeptAction.OfOthers.called {p : KeptAction} (h : p.OfOthers) : p.called.OfOthers := by
  unfold KeptAction.called
  split
  · next hreset => exact ⟨fun hentry => (by cases hentry), fun _ => hreset⟩
  · exact h

namespace OthersFrom

variable {n : Nat} {kept : List KeptAction}

/-- A call of a kept action leaves one of other code. -/
lemma called (h : OthersFrom n kept) {k : Nat} {p : KeptAction} (hp : kept[k]? = some p) :
    OthersFrom n (kept.set k p.called) := by
  intro slot q hslot hq
  -- the call spends one action, which may be an older one, and leaves the others
  by_cases hk : k = slot
  · subst hk
    have hlt : k < kept.length := (List.getElem?_eq_some_iff.mp hp).1
    rw [List.getElem?_set_self hlt] at hq
    obtain rfl := Option.some.inj hq
    exact (h k p hslot hp).called
  · rw [List.getElem?_set_ne hk] at hq
    exact h slot q hslot hq

lemma append (h : OthersFrom n kept) (signal : Signal) {a : SignalAction} (ha : a.Foreign) :
    OthersFrom n (kept ++ [{ signal, action := a }]) := by
  intro slot q hslot hq
  by_cases hlt : slot < kept.length
  · rw [List.getElem?_append_left hlt] at hq
    exact h slot q hslot hq
  · rw [List.getElem?_append_right (by omega)] at hq
    obtain rfl := List.mem_singleton.mp (List.mem_of_getElem? hq)
    exact ⟨ha.1, fun hdefault => absurd hdefault ha.2⟩

end OthersFrom

section Moves

variable {n : Nat} {s t : ProcessState}

/-- A system agrees with itself about what it keeps of other code. -/
private lemma agreeOn_othersFrom (sys : Dispatcher) : sys.AgreeOn (OthersFrom n) sys :=
  sys.agreeOn_self fun h hp => h.called hp

/-- Installing keeps nothing but actions of other code. -/
lemma allowsInstall_othersFrom (sys : Dispatcher) (room n : Nat) :
    Frame.AllowsInstall (fun s t => OthersFrom n s.previous → OthersFrom n t.previous)
      (fun _ _ => True) (services sys room) where
  refl _ hs := hs
  trans hsm hmt hs := hmt (hsm hs)
  ends _ := trivial
  trans_ends _ _ := trivial
  reset _ _ hs := hs
  fail _ _ hs := hs
  say _ _ _ hs := hs
  keep _ signal _ ha hs := hs.append signal ha
  count _ _ hs := hs
  lock _ _ hs := hs
  register _ _ hs := hs
  drop handler := by
    have hsv := services_alike (agreeOn_othersFrom (n := n) sys) (Nat.le_refl room)
    intro s
    cases hrun : (handler.drop (services sys room)).run s with
    | ok _ t => exact fun hs => AlikeUnder.kept (handler.drop_alike hsv) hs hrun
    | error e t => trivial

/-- What can happen to a process: the trap entry is installed, signals are handled, and other code
runs, which may replace any action. -/
inductive ProcessMove : ProcessState → ProcessState → Prop
  /-- An installation succeeds or fails. -/
  | install {s t : ProcessState} {result : Except TrapFailure Unit} (sys : Dispatcher) (room : Nat)
    (signals : List Signal)
    (h : (installEntry (services sys room) signals).run s = .ok result t) : ProcessMove s t
  /-- A signal is handled. -/
  | handle {s t : ProcessState} {answer : Bool × Option Context} (sys : Dispatcher) (room : Nat)
    (info : SignalCause) (raw : Delivery) (context : Option Context) (abort : Bool)
    (h : ((services sys room).handle info raw context abort).run s = .ok answer t) : ProcessMove s t
  /-- A signal is offered to the chained handlers. -/
  | offer {s t : ProcessState} {answer : Bool} (sys : Dispatcher) (room : Nat) (info : SignalCause)
    (raw : Delivery) (h : ((services sys room).dispatch info raw).run s = .ok answer t) :
    ProcessMove s t
  /-- The kernel delivers a signal to the trap entry. -/
  | enter {s t : ProcessState} (sys : Dispatcher) (room : Nat) (raw : Delivery)
    (h : ((services sys room).entry raw).run s = .ok () t) : ProcessMove s t
  /-- The function of a kept action starts to run. -/
  | call {s : ProcessState} {slot : Nat} {p : KeptAction} (hp : s.previous[slot]? = some p) :
    ProcessMove s (s.calling slot p)
  /-- Anything else happens that leaves the kept actions as they are. -/
  | other {s t : ProcessState} (h : t.previous = s.previous) : ProcessMove s t

/-- No move keeps anything but actions of other code. -/
lemma ProcessMove.othersFrom (h : ProcessMove s t) (hs : OthersFrom n s.previous) :
    OthersFrom n t.previous := by
  have hsv : ∀ (sys : Dispatcher) (room : Nat), (services sys room).Alike
      (Sheltered (OthersFrom n) sys sys room) (services sys room) :=
    fun sys room => services_alike (agreeOn_othersFrom sys) (Nat.le_refl room)
  cases h with
  | install sys room signals hrun =>
    have hwithin := (allowsInstall_othersFrom sys room n).installEntry_within signals s
    rw [hrun] at hwithin
    exact hwithin hs
  | handle sys room info raw context abort hrun =>
    exact AlikeUnder.kept ((hsv sys room).handle info raw context abort) hs hrun
  | offer sys room info raw hrun => exact AlikeUnder.kept ((hsv sys room).dispatch info raw) hs hrun
  | enter sys room raw hrun => exact AlikeUnder.kept ((hsv sys room).entry raw) hs hrun
  | call hp => exact hs.called hp
  | other hsame => rwa [hsame]

/-- Whatever happens, all that has been kept since is of other code. -/
theorem othersFrom_of_reached (h : Relation.ReflTransGen ProcessMove s t) :
    OthersFrom s.previous.length t.previous := by
  induction h with
  | refl =>
    intro slot p hslot hp
    rw [List.getElem?_eq_none hslot] at hp
    cases hp
  | tail _ hmove ih => exact hmove.othersFrom ih

end Moves

/-! ## Forwarding -/

/-- Foreign code has no way to the trap entry by itself. -/
lemma Script.run_withEntry (sv : Services) (entry : Delivery → TrapM Unit) (p : Script) :
    p.run { sv with entry } = p.run sv := by
  induction p with
  | answer handled => rfl
  | note text next ih => simp only [Script.run, ih]
  | readMask next ih => simp only [Script.run, ih]
  | readRegisters next ih => simp only [Script.run, ih]
  | writeRegisters registers next ih => simp only [Script.run, ih]
  | handle info raw context abort next ih => simp only [Script.run, ih]
  | offer info raw next ih => simp only [Script.run, ih]
  | log event next ih => simp only [Script.run, ih]
  | askFatal next ih => simp only [Script.run, ih]

/-- What the trap entry would do makes no difference to forwarding to an action that is not it. -/
lemma tryKept_withEntry {s : ProcessState} {slot : Nat} (sys : Dispatcher) (sv : Services)
    (entry : Delivery → TrapM Unit) (info : SignalCause) (raw : Delivery)
    (h : ∀ p, s.previous[slot]? = some p → p.action.handler ≠ .trapEntry) :
    (tryKept sys { sv with entry } slot info raw).run s = (tryKept sys sv slot info raw).run s := by
  rw [tryKept_run, tryKept_run]
  cases hp : s.previous[slot]? with
  | none => rfl
  | some p =>
    have hcall : callKept sys { sv with entry } p info raw = callKept sys sv p info raw := by
      unfold callKept callForeign
      cases hhandler : p.action.handler with
      | trapEntry => exact absurd hhandler (h p hp)
      | default => rfl
      | ignore => rfl
      | foreign address =>
        dsimp only
        rw [Script.run_withEntry]
    dsimp only
    rw [hcall]

/-! ## Chaining -/

/-- Whatever happens to a process, no action that has been kept since is the trap entry, or the
default one unless it ran once, so that forwarding to it does not depend on what the trap entry
does.  Any installation keeps only actions of other code.  One that succeeds leaves the trap entry
in its signals, to be run with the delivered information on the alternate stack, with all signals
blocked but the errors of the running instruction, and leaves all other actions as they are.  It
keeps each action of other code that it replaced once, behind all entries of the registry, and
leaves those as they are; repeating it changes nothing. -/
theorem foreign_actions_chained_once {s t : ProcessState}
    (hreached : Relation.ReflTransGen ProcessMove s t) :
    (∀ slot, s.previous.length ≤ slot →
      (∀ p, t.previous[slot]? = some p → p.action.handler ≠ .trapEntry ∧
        (p.action.handler = .default → p.action.flags.resethand = true)) ∧
      ∀ (sys : Dispatcher) (sv : Services) (entry : Delivery → TrapM Unit) (info : SignalCause)
        (raw : Delivery),
        (tryKept sys { sv with entry } slot info raw).run t =
          (tryKept sys sv slot info raw).run t) ∧
    (∀ n, entryAction.mask.has n = true ↔
      isUsableSignal n = true ∧ n ∉ [Signal.segv, .bus, .ill, .fpe, .trap].map (·.number)) ∧
    entryAction.handler = .trapEntry ∧
    entryAction.flags =
      { siginfo := true, restart := true, onstack := true, nodefer := false, resethand := false } ∧
    ∀ (sv : Services) (signals : List Signal) (result : Except TrapFailure Unit) (u : ProcessState),
      (installEntry sv signals).run t = .ok result u →
      (∃ m added, m.previous = t.previous ++ added ∧ (∀ p ∈ added, p.action.Foreign) ∧
        (result = .ok () ∧ u = m ∨ ∃ undone, (undoAll sv undone).run m = .ok () u)) ∧
      (result = .ok () →
        (∀ n, u.actions.action n =
          if n ∈ signals.map (·.number) then { entryAction with mask := entryAction.mask.stored }
          else t.actions.action n) ∧
        (t.actions.foreignAmong signals).Sublist signals ∧
        ((t.actions.foreignAmong signals).map (·.number)).Nodup ∧
        (∀ n, n ∈ (t.actions.foreignAmong signals).map (·.number) ↔
          n ∈ signals.map (·.number) ∧ (t.actions.action n).Foreign) ∧
        u.previous = t.previous ++ (t.actions.foreignAmong signals).map (fun signal =>
          { signal, action := t.actions.action signal.number }) ∧
        u.registry.entries = t.registry.entries ++
          keptEntries t.previous.length t.nextHandle (t.actions.foreignAmong signals) ∧
        ∀ sv' : Services, (installEntry sv' signals).run u = .ok (.ok ()) u) := by
  have hothers := othersFrom_of_reached hreached
  refine ⟨fun slot hslot => ⟨fun p hp => hothers slot p hslot hp, fun sys sv entry info raw => ?_⟩,
    entryAction_mask_has, rfl, rfl,
    fun sv signals result u hrun => ⟨foreign_added_of_run hrun, ?_⟩⟩
  · exact tryKept_withEntry sys sv entry info raw fun p hp => (hothers slot p hslot hp).1
  · rintro rfl
    have hinstalled : Installed signals t u := installed_of_run hrun
    refine ⟨fun n => ?_, t.actions.foreignAmong_sublist signals,
      t.actions.nodup_numbers_foreignAmong signals,
      fun n => ActionTable.mem_numbers_foreignAmong, hinstalled.previous, hinstalled.entries,
      hinstalled.repeated⟩
    rw [hinstalled.actions]
    exact t.actions.action_takenOver signals n

/-- A process in which other code has a function for one signal and ignores another. -/
def ProcessState.withStrangers : ProcessState :=
  { (default : ProcessState) with
    actions := (({} : ActionTable).put Signal.segv.number { handler := .foreign 0x4000 }).put
      Signal.bus.number { handler := .ignore } }

/-- One signal is listed three times, once by its number, and the action of another is the default
one.  The trap entry is left in each of them and in no other, and two actions are kept. -/
theorem strangers_chained_once :
    ∃ u, (installEntry .exhausted [.segv, .bus, .segv, .other 11, .fpe]).run .withStrangers =
        .ok (.ok ()) u ∧
      (∀ n ∈ [Signal.segv, .bus, .fpe].map (·.number),
        (u.actions.action n).handler = .trapEntry ∧
        (u.actions.action n).flags.siginfo = true ∧ (u.actions.action n).flags.onstack = true ∧
        (u.actions.action n).mask.has Signal.segv.number = false) ∧
      (u.actions.action Signal.ill.number).handler = .default ∧
      u.registry.entries = [keptEntry .segv 0 1, keptEntry .bus 1 2] ∧
      (installEntry .exhausted [.segv, .bus, .segv, .other 11, .fpe]).run u = .ok (.ok ()) u := by
  obtain ⟨u, hrun⟩ : ∃ u, (installEntry .exhausted [.segv, .bus, .segv, .other 11, .fpe]).run
      .withStrangers = .ok (.ok ()) u := by
    have hinstalls : (match (installEntry .exhausted [.segv, .bus, .segv, .other 11, .fpe]).run
        .withStrangers with
        | .ok (.ok ()) _ => true
        | .ok (.error _) _ => false
        | .error _ _ => false) = true := by
      decide +kernel
    generalize (installEntry .exhausted [.segv, .bus, .segv, .other 11, .fpe]).run .withStrangers =
      out at hinstalls ⊢
    cases out with
    | error e u => simp at hinstalls
    | ok result u =>
      cases result with
      | error failure => simp at hinstalls
      | ok _ => exact ⟨u, rfl⟩
  have hreached : Relation.ReflTransGen ProcessMove default .withStrangers :=
    .single (.other rfl)
  obtain ⟨-, -, -, -, hinstall⟩ := foreign_actions_chained_once hreached
  obtain ⟨-, hok⟩ := hinstall _ _ _ _ hrun
  obtain ⟨hactions, -, -, -, -, hentries, hagain⟩ := hok rfl
  refine ⟨u, hrun, fun n hn => ?_, ?_, hentries, hagain _⟩
  · have hlisted : n ∈ [Signal.segv, .bus, .segv, .other 11, .fpe].map (·.number) :=
      List.map_subset _ (by simp) hn
    rw [hactions n, if_pos hlisted]
    decide +kernel
  · rw [hactions]
    decide +kernel

end ManagedFaults
