import ManagedFaults.Proofs.Race
import ManagedFaults.Proofs.Trap.Composition

/-!
# Races to report a fatal error

Traps that cannot be recovered may be escalated on many threads at once, and again while one of them
is being reported.  Each call takes two atomic steps on the latch and then does its part
(`escalate_eq_steps`): it tries to claim the latch, and then either writes down its thread and
reports, or looks up whether that thread is its own.  The steps of different calls may come in any
order.  Only the first call of all reports (`at_most_one_report`).
-/

namespace ManagedFaults

namespace FatalLatch

variable {l : FatalLatch}

/-- A claim that comes too late changes nothing. -/
lemma claim_of_taken (h : l.inProgress = true) : l.claim = (false, l) := by
  obtain ⟨inProgress, reporter⟩ := l
  obtain rfl : inProgress = true := h
  rfl

lemma claim_of_free (h : l.inProgress = false) :
    l.claim = (true, { l with inProgress := true }) := by
  unfold claim
  rw [h]
  rfl

end FatalLatch

/-! ## The steps of a call -/

/-- What an escalating call does next. -/
inductive EscalationStage where
  /-- It tries to claim the latch. -/
  | claiming
  /-- It has claimed the latch, and writes down its thread. -/
  | naming
  /-- It has come too late, and looks up which thread reports. -/
  | checking
  /-- It prints the report and runs the reporter. -/
  | reporting
  /-- It aborts, since its own thread is reporting. -/
  | aborting
  /-- It waits for another thread to end the process. -/
  | parking
deriving DecidableEq

namespace EscalationStage

/-- The next atomic step on the latch of a call on this thread. -/
def step (me : OsThreadId) : EscalationStage → FatalLatch → EscalationStage × FatalLatch
  | .claiming, l => (if l.claim.1 then .naming else .checking, l.claim.2)
  | .naming, l => (.reporting, l.name me)
  | .checking, l => (if l.isMine me then .aborting else .parking, l)
  | stage, l => (stage, l)

/-- Takes the next step of a call on the running thread. -/
def take (stage : EscalationStage) : TrapM EscalationStage :=
  modifyGet fun s =>
    let (next, latch) := stage.step s.os.id s.latch
    (next, { s with latch })

/-- What a call does once it knows its part. -/
def finish {α : Type} (sys : Dispatcher) (sv : Services) (trap : UnrecoverableTrap)
    (raw : Delivery) : EscalationStage → TrapM α
  | .reporting => do
    let s ← get
    match FatalReport.lines sys.runtime s.memory s.loggedEvents trap with
    | none => throw .unreadable
    | some lines =>
      TrapM.report lines
      let _ ← (sys.runtime.reporter trap raw).run sv
      throw .reported
  | .aborting => do
    TrapM.report [FatalReport.nestedLine trap]
    throw .aborted
  | _ => throw .parked

/-- How many steps a call has taken; the second one tells its part. -/
def stepsTaken : EscalationStage → Nat
  | .claiming => 0
  | .naming | .checking => 1
  | .reporting | .aborting | .parking => 2

/-- Whether a call does not report.  It may abort if the thread that reports is its own. -/
def Late (mine : Prop) : EscalationStage → Prop
  | .claiming | .checking | .parking => True
  | .aborting => mine
  | .naming | .reporting => False

variable {me : OsThreadId} {l : FatalLatch} {stage : EscalationStage} {mine : Prop}

lemma step_claiming_of_taken (h : l.inProgress = true) :
    step me .claiming l = (.checking, l) := by
  simp only [step]
  rw [FatalLatch.claim_of_taken h]
  rfl

lemma step_claiming_of_free (h : l.inProgress = false) :
    step me .claiming l = (.naming, { l with inProgress := true }) := by
  simp only [step]
  rw [FatalLatch.claim_of_free h]
  rfl

lemma step_checking_of_mine (h : l.isMine me = true) : step me .checking l = (.aborting, l) := by
  simp only [step]
  rw [if_pos h]

lemma step_checking_of_other (h : l.isMine me = false) :
    step me .checking l = (.parking, l) := by
  simp only [step]
  rw [h]
  rfl

lemma stepsTaken_le (stage : EscalationStage) : stage.stepsTaken ≤ 2 := by
  cases stage <;> decide

lemma stepsTaken_step : (step me stage l).1.stepsTaken = min 2 (stage.stepsTaken + 1) := by
  cases stage with
  | claiming =>
    simp only [step]
    split <;> rfl
  | checking =>
    simp only [step]
    split <;> rfl
  | _ => rfl

/-- A call that does not report leaves the latch alone once it is taken, and does not report
later. -/
lemma step_of_late (htaken : l.inProgress = true) (hmine : l.isMine me = true → mine)
    (h : stage.Late mine) : ∃ next, step me stage l = (next, l) ∧ next.Late mine := by
  cases stage with
  | claiming => exact ⟨.checking, step_claiming_of_taken htaken, trivial⟩
  | checking =>
    cases hisMine : l.isMine me with
    | true => exact ⟨.aborting, step_checking_of_mine hisMine, hmine hisMine⟩
    | false => exact ⟨.parking, step_checking_of_other hisMine, trivial⟩
  | aborting => exact ⟨.aborting, rfl, h⟩
  | parking => exact ⟨.parking, rfl, trivial⟩
  | naming => exact h.elim
  | reporting => exact h.elim

/-- A call that does not report waits or aborts once it knows its part. -/
lemma part_of_late (h : stage.Late mine) (hsteps : 2 ≤ stage.stepsTaken) :
    stage = .parking ∨ stage = .aborting ∧ mine := by
  cases stage with
  | parking => exact .inl rfl
  | aborting => exact .inr ⟨rfl, h⟩
  | claiming | checking => simp [stepsTaken] at hsteps
  | naming | reporting => exact h.elim

lemma not_late_of_winning (h : stage = .naming ∨ stage = .reporting) : ¬ stage.Late mine := by
  rcases h with rfl | rfl <;> exact id

lemma run_take (stage : EscalationStage) (s : ProcessState) :
    stage.take.run s =
      .ok (stage.step s.os.id s.latch).1 { s with latch := (stage.step s.os.id s.latch).2 } :=
  rfl

end EscalationStage

section Escalate

variable {α : Type} {sys : Dispatcher} {sv : Services} {trap : UnrecoverableTrap} {raw : Delivery}
  {s : ProcessState}

/-- Escalating a trap is taking two steps on the latch and then doing one's part. -/
theorem escalate_eq_steps (sys : Dispatcher) (sv : Services) (trap : UnrecoverableTrap)
    (raw : Delivery) : (escalate sys sv trap raw : TrapM α) = (do
      let stage ← EscalationStage.claiming.take
      let stage ← stage.take
      stage.finish sys sv trap raw) := by
  refine funext fun s => ?_
  show (escalate sys sv trap raw : TrapM α).run s = (_ : TrapM α).run s
  have hclaim : (modify fun s => { s with latch := s.latch.claim.2 } : TrapM Unit).run s =
      .ok () { s with latch := s.latch.claim.2 } := rfl
  rw [escalate_eq, TrapM.run_get_bind, TrapM.run_bind_of_ok hclaim,
    TrapM.run_bind_of_ok (EscalationStage.run_take _ s)]
  cases htaken : s.latch.inProgress with
  | false =>
    rw [EscalationStage.step_claiming_of_free htaken, FatalLatch.claim_of_free htaken]
    rfl
  | true =>
    rw [EscalationStage.step_claiming_of_taken htaken, FatalLatch.claim_of_taken htaken,
      TrapM.run_bind_of_ok (EscalationStage.run_take _ _)]
    simp only [EscalationStage.step]
    cases s.latch.isMine s.os.id <;> rfl

/-- Where the latch is taken, a call goes by whose thread is written down. -/
lemma escalate_run_of_taken (htaken : s.latch.inProgress = true) :
    (escalate sys sv trap raw : TrapM α).run s =
      ((EscalationStage.step s.os.id .checking s.latch).1.finish sys sv trap raw :
        TrapM α).run s := by
  rw [escalate_eq_steps, TrapM.run_bind_of_ok (EscalationStage.run_take _ s),
    EscalationStage.step_claiming_of_taken htaken]
  rfl

/-- On a thread that reports already, a trap is told in one line, and the process is aborted. -/
lemma escalate_run_of_mine (htaken : s.latch.inProgress = true)
    (hmine : s.latch.reporter = s.os.id) :
    (escalate sys sv trap raw : TrapM α).run s =
      .error .aborted
        { s with
          scene := { s.scene with
            console := s.scene.console.report [FatalReport.nestedLine trap] } } := by
  rw [escalate_run_of_taken htaken,
    EscalationStage.step_checking_of_mine (beq_iff_eq.mpr hmine)]
  rfl

/-- While another thread reports, a trap does nothing but wait. -/
lemma escalate_run_of_other (htaken : s.latch.inProgress = true)
    (hother : s.latch.reporter ≠ s.os.id) :
    (escalate sys sv trap raw : TrapM α).run s = .error .parked s := by
  rw [escalate_run_of_taken htaken,
    EscalationStage.step_checking_of_other (beq_eq_false_iff_ne.mpr hother)]
  rfl

end Escalate

/-! ## Traps during a report -/

/-- The running thread reports a fatal error. -/
def ProcessState.Reporting (s : ProcessState) : Prop :=
  s.latch.inProgress = true ∧ s.latch.reporter = s.os.id

/-- On a thread that reports a fatal error, a computation goes on with the report, unless it aborts
or uses up the stack. -/
def TrapM.OnlyAborts {α : Type} (x : TrapM α) : Prop :=
  ∀ s, s.Reporting →
    match x.run s with
    | .ok _ t => t.Reporting
    | .error e t => t.Reporting ∧ (e = .aborted ∨ e = .stackExhausted)

section OnlyAborts

open TrapM

variable {α β : Type}

lemma onlyAborts_modify {f : ProcessState → ProcessState}
    (h : ∀ s, s.Reporting → (f s).Reporting) : OnlyAborts (modify f) :=
  fun s hs => h s hs

lemma onlyAborts_pure (a : α) : OnlyAborts (pure a) :=
  fun _ hs => hs

lemma onlyAborts_exhausted : (throw .stackExhausted : TrapM α).OnlyAborts :=
  fun _ hs => ⟨hs, .inr rfl⟩

lemma TrapM.OnlyAborts.bind {x : TrapM α} {f : α → TrapM β} (hx : x.OnlyAborts)
    (hf : ∀ a, (f a).OnlyAborts) : (x >>= f).OnlyAborts := by
  intro s hs
  have hxs := hx s hs
  cases hrun : x.run s with
  | ok a m =>
    rw [hrun] at hxs
    rw [run_bind_of_ok hrun]
    exact hf a m hxs
  | error e m =>
    rw [hrun] at hxs
    rw [run_bind_of_error hrun]
    exact hxs

/-- However a computation ends, the thread still reports. -/
lemma TrapM.OnlyAborts.stateAfter {x : TrapM α} (hx : x.OnlyAborts) {s : ProcessState}
    (hs : s.Reporting) : (x.stateAfter s).Reporting := by
  have hxs := hx s hs
  unfold TrapM.stateAfter
  cases hrun : x.run s with
  | ok a t =>
    rw [hrun] at hxs
    exact hxs
  | error e t =>
    rw [hrun] at hxs
    exact hxs.1

lemma composes_onlyAborts : Composes OnlyAborts where
  pure := onlyAborts_pure
  bind hx hf := hx.bind hf
  read _ hf := OnlyAborts.bind (fun _ hs => hs) hf

lemma allowsForeign_onlyAborts : AllowsForeign OnlyAborts where
  toComposes := composes_onlyAborts
  mark _ := onlyAborts_modify fun _ hs => hs
  offer _ := onlyAborts_modify fun _ hs => hs
  say _ _ := onlyAborts_modify fun _ hs => hs
  log _ := onlyAborts_modify fun _ hs => hs
  spend _ _ := onlyAborts_modify fun _ hs => hs
  rewrite _ := onlyAborts_modify fun _ hs => hs
  locked hx := by
    refine OnlyAborts.bind ?_ fun _ => hx.bind fun a => OnlyAborts.bind ?_ fun _ =>
      onlyAborts_pure a
    · exact onlyAborts_modify fun _ hs => hs
    · exact onlyAborts_modify fun _ hs => hs
  masked _ _ _ hx hk := by
    refine composes_onlyAborts.read (fun _ => rfl) fun s => ?_
    refine OnlyAborts.bind ?_ fun _ => hx.bind fun _ => OnlyAborts.bind ?_ fun _ => hk
    · exact onlyAborts_modify fun _ hs => hs
    · exact onlyAborts_modify fun _ hs => hs

/-- Everything that handling a signal does but for escalating it leaves the latch alone. -/
lemma allowsConclusion_onlyAborts : AllowsConclusion OnlyAborts where
  toAllowsForeign := allowsForeign_onlyAborts
  ask _ := fun _ hs => hs
  guard _ _ := fun _ hs => hs
  reset signo := onlyAborts_modify fun s hs => by
    split <;> exact hs
  fail _ := onlyAborts_modify fun _ hs => hs
  unblock control _ := by
    cases control <;> exact onlyAborts_modify fun _ hs => hs
  enter _ := fun _ hs => hs
  leave _ := onlyAborts_modify fun _ hs => hs
  count := fun _ hs => hs
  save _ := onlyAborts_modify fun s hs => by
    split <;> exact hs

lemma escalate_onlyAborts (sys : Dispatcher) (sv : Services) (trap : UnrecoverableTrap)
    (raw : Delivery) : (escalate sys sv trap raw : TrapM α).OnlyAborts := by
  intro s hs
  rw [escalate_run_of_mine hs.1 hs.2]
  exact ⟨hs, .inl rfl⟩

/-- Whatever the reporter calls, there is no second report, and the thread does not wait. -/
theorem services_onlyAbort (sys : Dispatcher) (room : Nat) :
    (services sys room).Have OnlyAborts :=
  services_have_of_handle allowsForeign_onlyAborts allowsConclusion_onlyAborts.toAllowsEntry
    onlyAborts_exhausted sys
    (fun m _ hlower => handle_has_of_escalate allowsConclusion_onlyAborts hlower
      (escalate_onlyAborts sys (services sys m)) (m + 1))
    (Nat.le_refl room)

end OnlyAborts

/-! ## Who reports -/

/-- A call that escalates a trap: the thread it is made on, and what it is given. -/
structure Escalation where
  thread : OsThreadId
  trap : UnrecoverableTrap
  raw : Delivery

/-- The next atomic step of one of these calls. -/
def Escalation.step (calls : Nat → Escalation) (i : Nat) :
    EscalationStage → FatalLatch → EscalationStage × FatalLatch :=
  EscalationStage.step (calls i).thread

/-- The race of calls to report their traps, after steps in this order. -/
def raceToReport (calls : Nat → Escalation) (order : List Nat) : Race FatalLatch EscalationStage :=
  Race.run (Escalation.step calls) { shared := {}, stage := fun _ => .claiming } order

/-- The call that has claimed the latch will report or does so already, and no other one does. -/
structure Race.WonBy (calls : Nat → Escalation) (w : Nat) (r : Race FatalLatch EscalationStage) :
    Prop where
  taken : r.shared.inProgress = true
  named : r.stage w = .naming ∧ r.shared.reporter = 0 ∨
    r.stage w = .reporting ∧ r.shared.reporter = (calls w).thread
  late : ∀ i, i ≠ w → (r.stage i).Late ((calls i).thread = (calls w).thread)

namespace Race

variable {calls : Nat → Escalation} {r : Race FatalLatch EscalationStage} {w i : Nat}

/-- Whoever takes the first step of all wins. -/
lemma wonBy_first (calls : Nat → Escalation) (w : Nat) :
    WonBy calls w
      (Race.after (Escalation.step calls) { shared := {}, stage := fun _ => .claiming } w) where
  taken := rfl
  named := .inl ⟨stage_after_self, rfl⟩
  late i hi := by
    rw [stage_after_of_ne hi]
    trivial

namespace WonBy

/-- Since no thread has number zero, a thread that is written down is that of the winner. -/
lemma mine (h : r.WonBy calls w) (hthread : (calls i).thread ≠ 0)
    (hmine : r.shared.isMine (calls i).thread = true) : (calls i).thread = (calls w).thread := by
  have hreporter : r.shared.reporter = (calls i).thread := beq_iff_eq.mp hmine
  -- before the winner has written down its thread, there is only the zero of the start
  rcases h.named with ⟨_, hnobody⟩ | ⟨_, hwinner⟩
  · exact absurd (hreporter.symm.trans hnobody) hthread
  · exact hreporter.symm.trans hwinner

/-- The winner writes down its thread, and goes on with the report. -/
private lemma after_winner (h : r.WonBy calls w) :
    WonBy calls w (r.after (Escalation.step calls) w) := by
  rcases h.named with ⟨hnaming, _⟩ | ⟨hreporting, _⟩
  · have hstep : Escalation.step calls w (r.stage w) r.shared =
        (.reporting, r.shared.name (calls w).thread) := by
      rw [hnaming]
      rfl
    obtain ⟨hstage, hshared⟩ := after_eq hstep
    refine ⟨?_, .inr ⟨hstage, ?_⟩, fun j hj => ?_⟩
    · rw [hshared]
      exact h.taken
    · rw [hshared]
      rfl
    · rw [stage_after_of_ne hj]
      exact h.late j hj
  · rwa [after_of_rest (by rw [hreporting]; rfl)]

/-- A call that has come too late changes nothing for the others. -/
private lemma after_late (h : r.WonBy calls w) (hthread : (calls i).thread ≠ 0) (hi : i ≠ w) :
    WonBy calls w (r.after (Escalation.step calls) i) := by
  obtain ⟨stage, hstep, hlate⟩ :=
    EscalationStage.step_of_late h.taken (h.mine hthread) (h.late i hi)
  obtain ⟨hstage, hshared⟩ := after_eq (show Escalation.step calls i _ _ = _ from hstep)
  refine ⟨?_, ?_, fun j hj => ?_⟩
  · rw [hshared]
    exact h.taken
  · rw [hshared, stage_after_of_ne (Ne.symm hi)]
    exact h.named
  · by_cases hji : j = i
    · rw [hji, hstage]
      exact hlate
    · rw [stage_after_of_ne hji]
      exact h.late j hj

/-- No step changes who has won. -/
lemma after (h : r.WonBy calls w) (hthreads : ∀ i, (calls i).thread ≠ 0) (i : Nat) :
    WonBy calls w (r.after (Escalation.step calls) i) := by
  by_cases hi : i = w
  · rw [hi]
    exact h.after_winner
  · exact h.after_late (hthreads i) hi

/-- Nobody but the winner gets to report. -/
lemma eq_winner (h : r.WonBy calls w) (hi : r.stage i = .naming ∨ r.stage i = .reporting) :
    i = w :=
  Decidable.by_contra fun hne => EscalationStage.not_late_of_winning hi (h.late i hne)

/-- A winner that has taken both its steps reports. -/
lemma reporting_of_steps (h : r.WonBy calls w) (hsteps : 2 ≤ (r.stage w).stepsTaken) :
    r.stage w = .reporting ∧ r.shared.reporter = (calls w).thread := by
  rcases h.named with ⟨hnaming, _⟩ | hreporting
  · simp [hnaming, EscalationStage.stepsTaken] at hsteps
  · exact hreporting

/-- Once the winner has written down its thread, it reports for ever. -/
lemma reporting_after (hreporting : r.stage w = .reporting) (i : Nat) :
    (r.after (Escalation.step calls) i).stage w = .reporting := by
  by_cases hi : w = i
  · rw [← hi, stage_after_self, hreporting]
    rfl
  · rw [stage_after_of_ne hi, hreporting]

/-- While the winner reports, no call on its thread begins to wait. -/
lemma not_parking_after (h : r.WonBy calls w) (hreporting : r.stage w = .reporting) {i : Nat}
    (hthread : (calls i).thread = (calls w).thread) (hi : r.stage i ≠ .parking) (j : Nat) :
    (r.after (Escalation.step calls) j).stage i ≠ .parking := by
  by_cases hij : i = j
  · have hmine : r.shared.isMine (calls i).thread = true := by
      rcases h.named with ⟨hnaming, _⟩ | ⟨_, hreporter⟩
      · simp [hreporting] at hnaming
      · exact beq_iff_eq.mpr (hreporter.trans hthread.symm)
    rw [← hij, stage_after_self]
    intro hparking
    unfold Escalation.step at hparking
    cases hstage : r.stage i with
    | checking => simp [hstage, EscalationStage.step_checking_of_mine hmine] at hparking
    | claiming => simp [hstage, EscalationStage.step_claiming_of_taken h.taken] at hparking
    | parking => exact hi hstage
    | _ => simp [hstage, EscalationStage.step] at hparking
  · rw [stage_after_of_ne hij]
    exact hi

end WonBy

/-- A call that steps goes on, until it knows its part. -/
lemma stepsTaken_run (order : List Nat) :
    ((r.run (Escalation.step calls) order).stage i).stepsTaken =
      min 2 ((r.stage i).stepsTaken + order.count i) := by
  induction order generalizing r with
  | nil =>
    have hle : (r.stage i).stepsTaken ≤ 2 := (r.stage i).stepsTaken_le
    show (r.stage i).stepsTaken = min 2 ((r.stage i).stepsTaken + 0)
    omega
  | cons j order ih =>
    rw [run_cons, ih, List.count_cons]
    by_cases hij : i = j
    · have hstep : ((r.after (Escalation.step calls) j).stage i).stepsTaken =
          min 2 ((r.stage i).stepsTaken + 1) := by
        rw [← hij, stage_after_self]
        exact EscalationStage.stepsTaken_step
      rw [hstep, if_pos (by simp [hij])]
      omega
    · rw [stage_after_of_ne hij, if_neg (by simpa using Ne.symm hij)]
      rfl

end Race

lemma raceToReport_append (calls : Nat → Escalation) (order more : List Nat) :
    raceToReport calls (order ++ more) =
      (raceToReport calls order).run (Escalation.step calls) more :=
  Race.run_append order more

lemma stepsTaken_raceToReport (calls : Nat → Escalation) (order : List Nat) (i : Nat) :
    ((raceToReport calls order).stage i).stepsTaken = min 2 (order.count i) := by
  unfold raceToReport
  rw [Race.stepsTaken_run]
  simp only [EscalationStage.stepsTaken, Nat.zero_add]

/-- The first call to step wins, whatever the order of the other steps. -/
lemma raceToReport_wonBy {calls : Nat → Escalation} (hthreads : ∀ i, (calls i).thread ≠ 0)
    {order : List Nat} {w : Nat} (hfirst : order.head? = some w) :
    (raceToReport calls order).WonBy calls w := by
  obtain ⟨rest, rfl⟩ := List.head?_eq_some_iff.mp hfirst
  -- the first step of all is a claim that finds the latch free
  exact Race.run_keeps (fun r i hr => hr.after hthreads i) (Race.wonBy_first calls w) rest

/-- A call on the thread that reports aborts, if it starts during the report. -/
lemma Race.WonBy.run_reentrant {calls : Nat → Escalation} {r : Race FatalLatch EscalationStage}
    {w i : Nat} (h : r.WonBy calls w) (hthreads : ∀ i, (calls i).thread ≠ 0)
    (hreporting : r.stage w = .reporting) (hthread : (calls i).thread = (calls w).thread)
    (hstart : r.stage i = .claiming) (more : List Nat) :
    (r.run (Escalation.step calls) more).stage i ≠ .reporting ∧
      (r.run (Escalation.step calls) more).stage i ≠ .parking ∧
      (2 ≤ more.count i → (r.run (Escalation.step calls) more).stage i = .aborting) := by
  have hne : i ≠ w := by
    intro hi
    rw [hi, hreporting] at hstart
    simp at hstart
  -- the winner goes on with its report, so that the call finds its own thread written down
  have hkept : (r.run (Escalation.step calls) more).WonBy calls w ∧
      (r.run (Escalation.step calls) more).stage w = .reporting ∧
      (r.run (Escalation.step calls) more).stage i ≠ .parking := by
    refine run_keeps (P := fun r : Race FatalLatch EscalationStage =>
      r.WonBy calls w ∧ r.stage w = .reporting ∧ r.stage i ≠ .parking) ?_
      ⟨h, hreporting, by simp [hstart]⟩ more
    rintro r j ⟨hr, hreporting, hi⟩
    exact ⟨hr.after hthreads j, reporting_after hreporting j,
      hr.not_parking_after hreporting hthread hi j⟩
  obtain ⟨hr, -, hparking⟩ := hkept
  refine ⟨fun hi => hne (hr.eq_winner (.inr hi)), hparking, fun hcount => ?_⟩
  have hsteps : 2 ≤ ((r.run (Escalation.step calls) more).stage i).stepsTaken := by
    rw [stepsTaken_run]
    omega
  rcases EscalationStage.part_of_late (hr.late i hne) hsteps with hi | ⟨hi, -⟩
  · exact absurd hi hparking
  · exact hi

/-! ## Any interleaving -/

/-- However the steps of the calls are interleaved, the first one to claim the latch is the only one
that reports, and the latch is never free again.  Calls on other threads neither report nor abort,
but wait.  A call on the thread that reports, made once this is written down, aborts and does not
wait; and whatever the trap system is called for during the report, it only aborts.  A call that
aborts prints one line, and a call that waits does nothing else. -/
theorem at_most_one_report (calls : Nat → Escalation) (hthreads : ∀ i, (calls i).thread ≠ 0)
    (order : List Nat) :
    let r := raceToReport calls order
    (r.shared.inProgress = true ↔ order ≠ []) ∧
    (∀ i, r.stage i = .naming ∨ r.stage i = .reporting → order.head? = some i) ∧
    (∀ w, order.head? = some w → 2 ≤ order.count w →
      r.stage w = .reporting ∧ r.shared.reporter = (calls w).thread) ∧
    (∀ w i, order.head? = some w → (calls i).thread ≠ (calls w).thread →
      r.stage i ≠ .reporting ∧ r.stage i ≠ .aborting ∧
      (2 ≤ order.count i → r.stage i = .parking)) ∧
    (∀ w i, r.stage w = .reporting → (calls i).thread = (calls w).thread → r.stage i = .claiming →
      ∀ more, (raceToReport calls (order ++ more)).stage i ≠ .reporting ∧
        (raceToReport calls (order ++ more)).stage i ≠ .parking ∧
        (2 ≤ more.count i → (raceToReport calls (order ++ more)).stage i = .aborting)) ∧
    (∀ (sys : Dispatcher) (sv : Services) (i : Nat),
      (escalate sys sv (calls i).trap (calls i).raw : TrapM (Bool × Option Context)) = (do
        let stage ← EscalationStage.claiming.take
        let stage ← stage.take
        stage.finish sys sv (calls i).trap (calls i).raw)) ∧
    (∀ (sys : Dispatcher) (sv : Services) (i : Nat) (s : ProcessState),
      s.latch.inProgress = true →
      (escalate sys sv (calls i).trap (calls i).raw : TrapM (Bool × Option Context)).run s =
        if s.latch.reporter = s.os.id then
          .error .aborted
            { s with
              scene := { s.scene with
                console := s.scene.console.report [FatalReport.nestedLine (calls i).trap] } }
        else .error .parked s) ∧
    ∀ (sys : Dispatcher) (room : Nat) (reporter : Script),
      (reporter.run (services sys room)).OnlyAborts := by
  intro r
  have hwon : ∀ w, order.head? = some w → r.WonBy calls w :=
    fun w hw => raceToReport_wonBy hthreads hw
  have hcount : ∀ i, (r.stage i).stepsTaken = min 2 (order.count i) :=
    stepsTaken_raceToReport calls order
  have hfirst : ∀ i, r.stage i = .naming ∨ r.stage i = .reporting → order.head? = some i := by
    intro i hi
    cases hhead : order.head? with
    | none =>
      have hempty : order = [] := List.head?_eq_none_iff.mp hhead
      simp [r, hempty, raceToReport, Race.run] at hi
    | some w => rw [(hwon w hhead).eq_winner hi]
  refine ⟨⟨fun htaken hempty => ?_, fun hsteps => ?_⟩, hfirst, fun w hw hsteps => ?_,
    fun w i hw hthread => ?_, fun w i hw hthread hi more => ?_,
    fun sys sv i => escalate_eq_steps sys sv _ _, fun sys sv i s htaken => ?_,
    fun sys room reporter =>
      Script.run_has allowsForeign_onlyAborts (services_onlyAbort sys room) reporter⟩
  · simp [r, hempty, raceToReport, Race.run] at htaken
  · obtain ⟨w, rest, rfl⟩ := List.exists_cons_of_ne_nil hsteps
    exact (hwon w rfl).taken
  · exact (hwon w hw).reporting_of_steps (by rw [hcount w]; omega)
  · have hlate := (hwon w hw).late i fun hi => hthread (congrArg (fun k => (calls k).thread) hi)
    refine ⟨fun hi => EscalationStage.not_late_of_winning (.inr hi) hlate, fun hi => ?_,
      fun hsteps => ?_⟩
    · rw [hi] at hlate
      exact hthread hlate
    · rcases EscalationStage.part_of_late hlate (by rw [hcount i]; omega) with hi | ⟨-, hmine⟩
      · exact hi
      · exact absurd hmine hthread
  · rw [raceToReport_append]
    exact (hwon w (hfirst w (.inr hw))).run_reentrant hthreads hw hthread hi more
  · by_cases hmine : s.latch.reporter = s.os.id
    · rw [if_pos hmine]
      exact escalate_run_of_mine htaken hmine
    · rw [if_neg hmine]
      exact escalate_run_of_other htaken hmine

/-- Calls of which only the second one is made on another thread. -/
def Escalation.onTwoThreads (i : Nat) : Escalation :=
  { thread := if i = 1 then 2 else 1, trap := default, raw := default }

/-- A call that looks up who reports before this is written down waits all the same, and a trap in
the report aborts. -/
theorem early_lookup_parks :
    (raceToReport Escalation.onTwoThreads [0, 1, 1, 0]).stage 1 = .parking ∧
      (raceToReport Escalation.onTwoThreads ([0, 1, 1, 0] ++ [2, 2])).stage 2 = .aborting := by
  have hthreads : ∀ i, (Escalation.onTwoThreads i).thread ≠ 0 := by
    intro i
    unfold Escalation.onTwoThreads
    dsimp only
    split <;> decide
  obtain ⟨-, -, hwinner, hother, hsame, -⟩ :=
    at_most_one_report Escalation.onTwoThreads hthreads [0, 1, 1, 0]
  have hreporting := (hwinner 0 rfl (by decide)).1
  exact ⟨(hother 0 1 rfl (by decide)).2.2 (by decide),
    (hsame 0 2 hreporting rfl rfl [2, 2]).2.2 (by decide)⟩

end ManagedFaults
