import ManagedFaults.Proofs.Fatal.Report
import ManagedFaults.Proofs.Trap.History

/-!
# The recent traps of a report

The log is the tail of the history of a run.  The first trap that is escalated, be it that of the
outermost handler or of one that runs below it, ends the run in a report, and what the report lists
as the recent traps is that tail, with the trap that is reported at its end
(`log_is_tail_of_history`).  Of a log that is locked the report only tells that it is busy.
-/

namespace ManagedFaults

/-! ## Handlers that escalate -/

/-- What is known of a fatal trap agrees with an event in the log. -/
structure UnrecoverableTrap.Matches (trap : UnrecoverableTrap) (event : TrapRecord) : Prop where
  thread : trap.thread = event.thread
  cause : trap.info = event.info
  pc : trap.pc = event.pc
  rule : trap.rule = event.rule

/-- Having logged its event, in state `m`, a handler escalates its trap, and that ends the thread in
state `t`.  The stack is known of a managed thread only. -/
inductive SignalCall.Escalates (call : SignalCall) (event : TrapRecord) (m t : ProcessState)
    (trap : UnrecoverableTrap) : Prop
  | intro {u : ProcessState} {e : Ending} (stop : call.abort = true) (about : trap.Matches event)
      (stack : m.thread = none → trap.stack = none) (unblocks : call.Unblocks m u)
      (ends : (escalate call.sys call.below trap call.raw :
        TrapM (Bool × Option Context)).run u = .error e t)

namespace SignalCall

variable {call : SignalCall} {s m t : ProcessState} {cl : Classification} {e : Ending}

/-- A handler that has its verdict and does not return escalates its trap. -/
lemma escalates_of_applied (hthread : m.thread = s.thread)
    (h : Applied call (call.registersAfter m) cl (m.logged (call.event s cl m)) (.error e t)) :
    ∃ trap, call.Escalates (call.event s cl m) (m.logged (call.event s cl m)) t trap := by
  cases h with
  | escalated _ _ stop unblocks thread cause pc rule stack _ _ ends _ =>
    refine ⟨_, .intro stop ⟨thread.trans ?_, cause, pc, rule⟩ stack unblocks ends⟩
    exact congrArg (fun thread => thread.map (·.id)) hthread

lemma Escalates.about {event : TrapRecord} {trap : UnrecoverableTrap}
    (h : call.Escalates event m t trap) : trap.Matches event := by
  obtain ⟨-, hmatches, -, -, -⟩ := h
  exact hmatches

lemma Escalates.stack {event : TrapRecord} {trap : UnrecoverableTrap}
    (h : call.Escalates event m t trap) (hthread : m.thread = none) : trap.stack = none := by
  obtain ⟨-, -, hstack, -, -⟩ := h
  exact hstack hthread

/-- A nested handler that must not decline escalates its trap, which ends the thread. -/
lemma escalates_of_nested (hroom : call.room < call.sp)
    (hnested : (s.os.mark.enter call.sp).1 = true) (habort : call.abort = true) :
    ∃ e t trap, call.run.run s = .error e t ∧
      call.Escalates (call.nestedEvent s) (s.logged (call.nestedEvent s)) t trap := by
  have happlied := call.applied_of_nested hroom hnested habort
  cases hrun : call.run.run s with
  | ok r t =>
    -- a nested fault is neither ignored nor redirected, and this one is not declined
    rw [hrun] at happlied
    cases happlied with
    | ignored hignore => simp at hignore
    | redirected hredirect => simp at hredirect
    | declined _ _ hstay => simp [habort] at hstay
  | error e t =>
    rw [hrun] at happlied
    cases happlied with
    | escalated _ _ stop unblocks thread cause pc rule stack _ _ ends _ =>
      exact ⟨e, t, _, rfl, .intro stop ⟨thread, cause, pc, rule⟩ stack unblocks ends⟩

/-- The first trap that is escalated is reported, with what the log holds unless it is locked. -/
lemma Escalates.report {event : TrapRecord} {trap : UnrecoverableTrap}
    (h : call.Escalates event m t trap) (hfree : m.latch.inProgress = false) :
    t.latch.inProgress = true ∧
      (FatalReport.StackReadable m.memory trap →
        m.PrintsReport t call.sys.runtime trap (FatalReport.recentTraps m.loggedEvents)) := by
  obtain @⟨u, e, stop, about, stack, unblocks, ends⟩ := h
  -- unblocking the signal concerns nothing that the report shows
  have hfree' : u.latch.inProgress = false := by cases unblocks <;> exact hfree
  have hreport := report_of_escalate hfree' ends
  cases unblocks <;> exact hreport

end SignalCall

/-! ## What runs below the outermost handler -/

namespace ProcessState

variable (sys : Dispatcher) (room : Nat)

/-- Code below an active handler has led here by these steps, nobody has claimed the latch, and
memory is as it was. -/
structure Passed (s : ProcessState) (steps : List BelowStep) (t : ProcessState) : Prop where
  runs : RunsBelow sys room s steps t
  latch : t.latch = s.latch
  memory : t.memory = s.memory

/-- Code below an active handler has led here by some steps. -/
def PassedBelow (s t : ProcessState) : Prop :=
  room < s.os.mark.recorded → ∃ steps, s.Passed sys room steps t

/-- Code below an active handler has ended the thread: either nobody has claimed the latch, or after
some steps a handler has escalated its trap. -/
def Ended (s t : ProcessState) : Prop :=
  (∃ steps, s.Passed sys room steps t) ∨
    ∃ (steps : List BelowStep) (m : ProcessState) (inner : SignalCall) (trap : UnrecoverableTrap),
      s.Passed sys room steps m ∧ inner.sys = sys ∧ inner.sp ≤ room ∧
      inner.Escalates (inner.nestedEvent m) (m.logged (inner.nestedEvent m)) t trap

/-- Below an active handler, unless somebody reports already, the thread has ended in this way. -/
def EndedBelow (s t : ProcessState) : Prop :=
  room < s.os.mark.recorded → s.latch.inProgress = false → s.Ended sys room t

variable {sys room} {s m t : ProcessState} {steps more : List BelowStep}

lemma Passed.trans (first : s.Passed sys room steps m) (then_ : m.Passed sys room more t) :
    s.Passed sys room (steps ++ more) t :=
  ⟨first.runs.trans then_.runs, then_.latch.trans first.latch, then_.memory.trans first.memory⟩

lemma passed_of_silent (h : s.Silent t) : s.Passed sys room [] t :=
  ⟨.silent h.log h.locked h.sequence h.thread h.mark, h.latch, h.memory⟩

end ProcessState

namespace Frame

open ProcessState

variable (sys : Dispatcher) (room : Nat)

lemma chains_passedBelow : Frame.Chains (PassedBelow sys room) (EndedBelow sys room) where
  refl _ := fun _ => ⟨[], passed_of_silent ⟨rfl, rfl, rfl, rfl, rfl, rfl, rfl⟩⟩
  trans hsm hmt := by
    intro h
    obtain ⟨steps, first⟩ := hsm h
    obtain ⟨more, then_⟩ := hmt (by rwa [first.runs.mark_eq])
    exact ⟨steps ++ more, first.trans then_⟩
  ends hst := fun h _ => .inl (hst h)
  trans_ends hsm hmt := by
    intro h hfree
    obtain ⟨steps, first⟩ := hsm h
    rcases hmt (by rwa [first.runs.mark_eq]) (by rwa [first.latch]) with
      ⟨more, then_⟩ | ⟨more, u, inner, trap, then_, hsys, hsp, hescalates⟩
    · exact .inl ⟨steps ++ more, first.trans then_⟩
    · exact .inr ⟨steps ++ more, u, inner, trap, first.trans then_, hsys, hsp, hescalates⟩

lemma allowsForeign_passedBelow :
    Frame.AllowsForeign (PassedBelow sys room) (EndedBelow sys room) :=
  (chains_passedBelow sys room).allowsForeign (fun h => fun _ => ⟨[], passed_of_silent h⟩)
    fun s event => fun _ => ⟨[.wrote event], .wrote s event, rfl, rfl⟩

lemma allowsEntry_passedBelow :
    Frame.AllowsEntry (PassedBelow sys room) (EndedBelow sys room) :=
  (chains_passedBelow sys room).allowsEntry fun h => fun _ => ⟨[], passed_of_silent h⟩

lemma allowsRules_passedBelow :
    Frame.AllowsRules (PassedBelow sys room) (EndedBelow sys room) :=
  (chains_passedBelow sys room).allowsRules fun h => fun _ => ⟨[], passed_of_silent h⟩

end Frame

section Below

open ProcessState

variable {sys : Dispatcher} {room n : Nat}

/-- A handler that runs below an active one is a step, or escalates its trap. -/
private lemma handle_passedBelow (hn : n < room) (info : SignalCause) (raw : Delivery)
    (context : Option Context) (abort : Bool) :
    (handle sys (services sys n) (n + 1) info raw context abort).Within
      (PassedBelow sys room) (EndedBelow sys room) := by
  intro s
  let inner : SignalCall := { sys, room := n, sp := n + 1, info, raw, context, abort }
  show TrapM.EndsIn (s.PassedBelow sys room) (s.EndedBelow sys room) (inner.run.run s)
  by_cases hbelow : room < s.os.mark.recorded
  · have hnested : (s.os.mark.enter inner.sp).1 = true :=
      (NestingMark.nested_iff _ _).mpr (by
        show n + 1 < s.os.mark.recorded
        omega)
    have hruns : inner.RunsNested s := inner.run_nested (Nat.lt_succ_self n) hnested
    cases habort : inner.abort with
    | false =>
      cases hruns with
      | declined stay run =>
        rw [run]
        exact fun _ => ⟨_, .called s inner rfl hn (.declined stay run), rfl, rfl⟩
      | escalated stop _ _ _ _ => simp [habort] at stop
    | true =>
      obtain ⟨e, t, trap, hrun, hescalates⟩ :=
        SignalCall.escalates_of_nested (Nat.lt_succ_self n) hnested habort
      rw [hrun]
      have hnone : s.Passed sys room [] s :=
        passed_of_silent ⟨rfl, rfl, rfl, rfl, rfl, rfl, rfl⟩
      exact fun _ _ => .inr ⟨[], s, inner, trap, hnone, rfl, hn, hescalates⟩
  · -- no handler is active above, so nothing has to be shown
    cases hrun : inner.run.run s with
    | ok a t => exact fun h => absurd h hbelow
    | error e t => exact fun h => absurd h hbelow

/-- What foreign code can call below an active handler is a sequence of steps, or ends with a trap
that is escalated. -/
lemma services_passedBelow (sys : Dispatcher) {room n : Nat} (h : n ≤ room) :
    (services sys n).Have fun x => x.Within (PassedBelow sys room) (EndedBelow sys room) :=
  services_have_of_handle (Frame.allowsForeign_passedBelow sys room).within
    (Frame.allowsEntry_passedBelow sys room).within
    (TrapM.within_throw (Frame.chains_passedBelow sys room) _) sys
    (fun _ hm _ => handle_passedBelow hm) h

/-- While an outermost handler finds its verdict, what runs below it is a sequence of steps, or ends
with a trap that is escalated. -/
lemma verdict_passedBelow {call : SignalCall} {s : ProcessState} (hroom : call.room < call.sp)
    (houter : (s.os.mark.enter call.sp).1 = false) (hfree : s.latch.inProgress = false) :
    TrapM.EndsIn (fun u => ∃ steps, (s.entered call.sp).Passed call.sys call.room steps u)
      ((s.entered call.sp).Ended call.sys call.room) (call.verdict.run s) := by
  have hoffer : (call.offer s.thread).Within (PassedBelow call.sys call.room)
      (EndedBelow call.sys call.room) :=
    dispatch_has (Frame.allowsForeign_passedBelow call.sys call.room).within
      (services_passedBelow call.sys (Nat.le_refl call.room)) call.sys _ call.raw
  have hclassify := call.sys.classifier.classify_has
    (Frame.allowsRules_passedBelow call.sys call.room).within (call.input s.thread) hoffer
    (s.entered call.sp)
  rw [← call.verdict_run houter] at hclassify
  have hactive := call.active_entered hroom houter
  cases hrun : call.verdict.run s with
  | ok cl u =>
    rw [hrun] at hclassify
    exact hclassify hactive
  | error e t =>
    rw [hrun] at hclassify
    exact hclassify hactive hfree

end Below

/-! ## The first trap that is escalated -/

/-- Handling a signal, from state `m` on, ends in a report: what is logged until then, which ends
with the event of the trap that is reported, and the state in which that is done. -/
inductive SignalCall.Reports (call : SignalCall) (m t : ProcessState) :
    List BelowStep → ProcessState → UnrecoverableTrap → Prop
  /-- The trap is that of a handler that runs below. -/
  | nested {steps : List BelowStep} {u : ProcessState} {inner : SignalCall}
      {trap : UnrecoverableTrap}
      (below : (m.entered call.sp).Passed call.sys call.room steps u)
      (system : inner.sys = call.sys) (sp : inner.sp ≤ call.room)
      (escalates : inner.Escalates (inner.nestedEvent u) (u.logged (inner.nestedEvent u)) t trap) :
      call.Reports m t (steps ++ [.called inner (inner.nestedEvent u)])
        (u.logged (inner.nestedEvent u)) trap
  /-- The trap is that of the handler itself. -/
  | own {steps : List BelowStep} {u : ProcessState} {cl : Classification}
      {trap : UnrecoverableTrap} (verdict : call.verdict.run m = .ok cl u)
      (below : (m.entered call.sp).Passed call.sys call.room steps u)
      (escalates : call.Escalates (call.event m cl u) (u.logged (call.event m cl u)) t trap) :
      call.Reports m t (steps ++ [.called call (call.event m cl u)])
        (u.logged (call.event m cl u)) trap

namespace SignalCall

variable {call inner : SignalCall} {m t u : ProcessState} {more steps : List BelowStep}
  {event : TrapRecord} {trap : UnrecoverableTrap}

/-- An outermost handler that does not return ends in a report, or where nobody has claimed the
latch. -/
lemma ended {e : Ending} (hrun : call.run.run m = .error e t) (hroom : call.room < call.sp)
    (houter : (m.os.mark.enter call.sp).1 = false) (hfree : m.latch.inProgress = false) :
    (∃ steps, (m.entered call.sp).Passed call.sys call.room steps t) ∨
      ∃ more u trap, call.Reports m t more u trap := by
  have hpassed := verdict_passedBelow hroom houter hfree
  cases hverdict : call.verdict.run m with
  | error e' t' =>
    rw [hverdict] at hpassed
    rw [run_of_verdict_error hverdict, EStateM.Result.error.injEq] at hrun
    rw [hrun.2] at hpassed
    rcases hpassed with hsteps | ⟨steps, u, inner, trap, hsteps, hsys, hsp, hescalates⟩
    · exact .inl hsteps
    · exact .inr ⟨_, _, trap, .nested hsteps hsys hsp hescalates⟩
  | ok cl u =>
    rw [hverdict] at hpassed
    obtain ⟨steps, hsteps⟩ := hpassed
    have happlied := applied_of_verdict hroom houter hverdict
    rw [hrun] at happlied
    obtain ⟨trap, hescalates⟩ := SignalCall.escalates_of_applied
      (verdict_undisturbed hroom houter hverdict).thread happlied
    exact .inr ⟨_, _, trap, .own hverdict hsteps hescalates⟩

/-- If the latch is claimed in the end, it ends in a report. -/
lemma reports_of_taken {e : Ending} (hrun : call.run.run m = .error e t)
    (hroom : call.room < call.sp) (houter : (m.os.mark.enter call.sp).1 = false)
    (hfree : m.latch.inProgress = false) (htaken : t.latch.inProgress = true) :
    ∃ more u trap, call.Reports m t more u trap := by
  rcases ended hrun hroom houter hfree with ⟨steps, hsteps⟩ | hreports
  · rw [hsteps.latch] at htaken
    exact absurd (htaken.symm.trans hfree) Bool.true_eq_false.mp
  · exact hreports

/-- What is known of a report: the last event before it is that of the trap, the events were logged
unless the log is locked, and then it is printed. -/
structure Reported (call : SignalCall) (m t : ProcessState) (more : List BelowStep)
    (u : ProcessState) (trap : UnrecoverableTrap) : Prop where
  last : ∃ steps inner event, more = steps ++ [.called inner event] ∧ trap.Matches event
  taken : t.latch.inProgress = true
  stack : m.thread = none → trap.stack = none
  memory : u.memory = m.memory
  locked : u.logLocked = m.logLocked
  log : u.log = if m.logLocked then m.log else (more.map (·.event)).foldl RingBuffer.push m.log
  printed : FatalReport.StackReadable u.memory trap →
    u.PrintsReport t call.sys.runtime trap (FatalReport.recentTraps u.loggedEvents)

/-- A handler that escalates its trap after these steps has it reported. -/
private lemma reported_of_passed (hfree : m.latch.inProgress = false)
    (hsteps : (m.entered call.sp).Passed call.sys call.room steps u)
    (hescalates : inner.Escalates event (u.logged event) t trap) :
    inner.Reported m t (steps ++ [.called inner event]) (u.logged event) trap := by
  have hfree' : (u.logged event).latch.inProgress = false := by
    show u.latch.inProgress = false
    rw [hsteps.latch]
    exact hfree
  obtain ⟨htaken, hprinted⟩ := hescalates.report hfree'
  refine ⟨⟨steps, inner, event, rfl, hescalates.about⟩, htaken, fun hthread => ?_, hsteps.memory,
    hsteps.runs.locked_eq, ?_, hprinted⟩
  · exact hescalates.stack (hsteps.runs.thread_eq.trans hthread)
  rw [hsteps.runs.logged_eq, List.map_append]
  rfl

lemma Reports.reported (h : call.Reports m t more u trap) (hfree : m.latch.inProgress = false) :
    call.Reported m t more u trap := by
  cases h with
  | nested below system sp escalates =>
    obtain ⟨hlast, htaken, hstack, hmemory, hlocked, hlog, hprinted⟩ :=
      reported_of_passed hfree below escalates
    exact ⟨hlast, htaken, hstack, hmemory, hlocked, hlog, system ▸ hprinted⟩
  | own verdict below escalates => exact reported_of_passed hfree below escalates

/-- The report is printed if no managed thread is running, or its stack can be read. -/
lemma Reported.prints (h : call.Reported m t more u trap)
    (hreadable : m.thread = none ∨ FatalReport.StackReadable m.memory trap) :
    u.PrintsReport t call.sys.runtime trap (FatalReport.recentTraps u.loggedEvents) := by
  refine h.printed ?_
  rcases hreadable with hthread | hreadable
  · intro stack hstack
    rw [h.stack hthread] at hstack
    simp at hstack
  · rwa [h.memory]

end SignalCall

/-! ## The log and the report -/

namespace ProcessState.After

variable {history : List BelowStep} {call : SignalCall} {m t : ProcessState}

/-- A buffer of the size of the log is given the last events, and so is who waits for the log. -/
private lemma copied (h : m.After history) :
    (∀ out, out.length = trapLogSlots → m.log.copyTo out =
      (min history.length trapLogSlots,
        recentEvents history ++ out.drop (min history.length trapLogSlots))) ∧
    TrapM.recentTraps.run m =
      .ok (if m.publication.published.isSome then recentEvents history else []) m := by
  have hlength := length_recentEvents history
  constructor
  · intro out hout
    rw [h.remembers.holds.copyTo_eq (by omega), hlength]
  · unfold TrapM.recentTraps
    rw [TrapM.run_get_bind]
    unfold ProcessState.loggedEvents
    rw [h.remembers.unlocked, if_neg Bool.false_ne_true, h.remembers.holds.toList_eq]
    split <;> rfl

/-- A handler that does not return, and has no trap reported, leaves the log a tail of the
history. -/
private lemma tail_of_unreported (h : m.After history) (hroom : call.room < call.sp) {e : Ending}
    (hrun : call.run.run m = .error e t) (hfree : t.latch.inProgress = false) :
    ∃ steps, t.log.toList = recentEvents (history ++ steps) := by
  rcases SignalCall.ended hrun hroom (h.outermost call.sp) h.latch with
    ⟨steps, hsteps⟩ | ⟨more, u, trap, hreports⟩
  · have hentered : (m.entered call.sp).Remembers history := h.remembers.congr rfl rfl rfl
    exact ⟨steps, (hentered.append hsteps.runs).holds.toList_eq⟩
  · have htaken := (hreports.reported h.latch).taken
    simp [hfree] at htaken

/-- A handler that does not return, and has a trap reported, has that one at the end of the
history, the tail of which is printed. -/
private lemma report_of_unlocked (h : m.After history) (hroom : call.room < call.sp) {e : Ending}
    (hrun : call.run.run m = .error e t) (htaken : t.latch.inProgress = true) :
    ∃ more u trap event, call.Reports m t more u trap ∧
      (recentEvents (history ++ more)).getLast? = some event ∧ trap.Matches event ∧
      (m.thread = none ∨ FatalReport.StackReadable m.memory trap →
        u.PrintsReport t call.sys.runtime trap ("Recent traps:" ::
          (recentEvents (history ++ more)).map fun event => "  " ++ event.text)) := by
  obtain ⟨more, u, trap, hreports⟩ :=
    SignalCall.reports_of_taken hrun hroom (h.outermost call.sp) h.latch htaken
  have hreported := hreports.reported h.latch
  obtain ⟨steps, inner, event, rfl, hmatches⟩ := hreported.last
  refine ⟨_, u, trap, event, hreports, ?_, hmatches, fun hreadable => ?_⟩
  · rw [← List.append_assoc]
    exact getLast?_recentEvents _ _
  · have hlog := hreported.log
    rw [h.remembers.unlocked, if_neg Bool.false_ne_true, h.remembers.log_eq,
      ← List.foldl_append, ← List.map_append] at hlog
    have hevents : u.loggedEvents =
        some (recentEvents (history ++ (steps ++ [.called inner event]))) := by
      unfold ProcessState.loggedEvents
      rw [hreported.locked, h.remembers.unlocked, if_neg Bool.false_ne_true,
        (holds_recentEvents hlog).toList_eq]
    have hprints := hreported.prints hreadable
    rwa [hevents] at hprints

/-- While somebody else is at the log, the log stays as it is, and the report says that it is
busy. -/
private lemma report_of_locked (h : m.After history) (hroom : call.room < call.sp) {e : Ending}
    (hrun : call.run.run { m with logLocked := true } = .error e t)
    (htaken : t.latch.inProgress = true) :
    ∃ more u trap steps inner event, call.Reports { m with logLocked := true } t more u trap ∧
      more = steps ++ [.called inner event] ∧ trap.Matches event ∧ u.log = m.log ∧
      (m.thread = none ∨ FatalReport.StackReadable m.memory trap →
        u.PrintsReport t call.sys.runtime trap ["Recent traps:", "  (log busy)"]) := by
  obtain ⟨more, u, trap, hreports⟩ :=
    SignalCall.reports_of_taken hrun hroom (h.outermost call.sp) h.latch htaken
  have hreported := hreports.reported h.latch
  obtain ⟨steps, inner, event, hmore, hmatches⟩ := hreported.last
  refine ⟨more, u, trap, steps, inner, event, hreports, hmore, hmatches, hreported.log,
    fun hreadable => ?_⟩
  have hbusy : u.loggedEvents = none := by
    unfold ProcessState.loggedEvents
    rw [hreported.locked]
    rfl
  have hprints := hreported.prints hreadable
  rwa [hbusy] at hprints

end ProcessState.After

/-- The log is the tail of the history of a run: of all that has been logged it returns the last
events, oldest first, as many as it has room for, and if nobody but the handlers has logged anything
their numbers are consecutive and end with that of the last handler.  If then a handler does not
return, either no trap was escalated and the log is still such a tail, or the first one that was is
reported: as long as the stack of a managed thread can be read, the report is printed, and the
recent traps in it are the tail of the history that ends with that trap.  If somebody else has come
to the log before that handler, the log stays as it is, and the report says that it is busy. -/
theorem log_is_tail_of_history {sys : Dispatcher} {s m : ProcessState} {calls : List SignalCall}
    (hs : s.Untried) (hrun : HandlesAll sys s calls m) :
    ∃ history, Chronicle sys s calls history m ∧
      (∀ out, out.length = trapLogSlots → m.log.copyTo out =
        (min history.length trapLogSlots,
          recentEvents history ++ out.drop (min history.length trapLogSlots))) ∧
      TrapM.recentTraps.run m =
        .ok (if m.publication.published.isSome then recentEvents history else []) m ∧
      (callEvents history).map (·.sequence) =
        (List.range (callEvents history).length).map UInt64.ofNat ∧
      ((∀ step ∈ history, step.callEvent?.isSome) →
        (recentEvents history).map (·.sequence) =
          (List.range (min history.length trapLogSlots)).map fun k =>
            UInt64.ofNat (history.length - min history.length trapLogSlots + k)) ∧
      ∀ (call : SignalCall) (e : Ending) (t : ProcessState), call.sys = sys →
        call.room < call.sp →
        (call.run.run m = .error e t →
          (t.latch.inProgress = false → ∃ steps, t.log.toList = recentEvents (history ++ steps)) ∧
          (t.latch.inProgress = true → ∃ more u trap event, call.Reports m t more u trap ∧
            (recentEvents (history ++ more)).getLast? = some event ∧ trap.Matches event ∧
            (m.thread = none ∨ FatalReport.StackReadable m.memory trap →
              u.PrintsReport t sys.runtime trap ("Recent traps:" ::
                (recentEvents (history ++ more)).map fun event => "  " ++ event.text)))) ∧
        (call.run.run { m with logLocked := true } = .error e t → t.latch.inProgress = true →
          ∃ more u trap steps inner event,
            call.Reports { m with logLocked := true } t more u trap ∧
            more = steps ++ [.called inner event] ∧ trap.Matches event ∧ u.log = m.log ∧
            (m.thread = none ∨ FatalReport.StackReadable m.memory trap →
              u.PrintsReport t sys.runtime trap ["Recent traps:", "  (log busy)"])) := by
  obtain ⟨history, hhistory, hafter⟩ := hrun.chronicle hs
  obtain ⟨hcopied, hwaited⟩ := hafter.copied
  refine ⟨history, hhistory, hcopied, hwaited, hafter.remembers.numbers_eq,
    hafter.remembers.recent_numbers, ?_⟩
  rintro call e t rfl hroom
  refine ⟨fun hends => ⟨?_, ?_⟩, ?_⟩
  · exact hafter.tail_of_unreported hroom hends
  · exact hafter.report_of_unlocked hroom hends
  · exact hafter.report_of_locked hroom

/-- A handler that hands every signal to the trap system again, and insists on a bus error. -/
def ChainedHandler.insisting : ChainedHandler :=
  .script (fun info raw => .handle info raw none (info.signal == .bus) fun _ _ => .answer true) none

/-- A process with such a handler. -/
def ProcessState.withInsisting : ProcessState :=
  { (default : ProcessState) with
    registry :=
      { entries :=
          [{ handler := .insisting, priority := 1, description := "insisting", signal := none
             protection := .user, owner := 2, handle := 1 }] } }

/-- A bus error that only the chained handlers know. -/
def SignalCall.unknownBus : SignalCall :=
  { SignalCall.unknown with info := { signal := .bus } }

/-- The process once the first signal is handled. -/
def ProcessState.insisted : ProcessState :=
  SignalCall.unknown.run.stateAfter .withInsisting

/-- The last lines that were printed. -/
def Console.lastLines (c : Console) (n : Nat) : List String :=
  c.printed.drop (c.printed.length - n)

/-- A handler that was called again once has left two events, and the trap of one that is called
again during the next signal is reported after them, unless the log is locked then. -/
theorem insisting_reported :
    ∃ u busy history more m trap event,
      SignalCall.unknown.run.run .withInsisting = .ok (true, none) .insisted ∧
      Chronicle .silent .withInsisting [.unknown] history .insisted ∧
      (recentEvents history).length = 2 ∧
      SignalCall.unknownBus.run.run .insisted = .error .reported u ∧
      SignalCall.unknownBus.Reports .insisted u more m trap ∧
      (recentEvents (history ++ more)).getLast? = some event ∧ trap.Matches event ∧
      m.PrintsReport u .silent trap ("Recent traps:" ::
        (recentEvents (history ++ more)).map fun event => "  " ++ event.text) ∧
      u.scene.console.lastLines 4 =
        ["Recent traps:\n", "  #0 SIGSEGV pc=0x0 nested-fault -> escalate\n",
          "  #1 SIGSEGV at 0x8 pc=0x0 chained -> ignore\n",
          "  #2 SIGBUS pc=0x0 nested-fault -> escalate\n"] ∧
      SignalCall.unknownBus.run.run { ProcessState.insisted with logLocked := true } =
        .error .reported busy ∧
      busy.scene.console.lastLines 2 = ["Recent traps:\n", "  (log busy)\n"] := by
  have hfirst : SignalCall.unknown.run.run .withInsisting = .ok (true, none) .insisted := by
    refine TrapM.returned_eq_some_iff.mp ?_
    have hreturned : (SignalCall.unknown.run.returned .withInsisting).map
        (fun answer => (answer.1, answer.2.isNone)) = some (true, true) := by
      decide +kernel
    obtain ⟨⟨handled, registers⟩, hanswer, heq⟩ := Option.map_eq_some_iff.mp hreturned
    rw [Prod.mk.injEq, Option.isNone_iff_eq_none] at heq
    obtain ⟨rfl, rfl⟩ := heq
    exact hanswer
  have hsecond := TrapM.ended_eq_some_iff.mp
    (show SignalCall.unknownBus.run.ended .insisted = some .reported by decide +kernel)
  have hthird := TrapM.ended_eq_some_iff.mp
    (show SignalCall.unknownBus.run.ended { ProcessState.insisted with logLocked := true } =
      some .reported by decide +kernel)
  have hcopied :
      (ProcessState.insisted.log.copyTo (List.replicate trapLogSlots default)).1 = 2 := by
    decide +kernel
  have hthread : ProcessState.insisted.thread = none := by decide +kernel
  have hrun : HandlesAll .silent .withInsisting [.unknown] .insisted :=
    .handled .start .unknown rfl (by decide) hfirst
  obtain ⟨history, hhistory, hcopy, -, -, -, hends⟩ :=
    log_is_tail_of_history ⟨rfl, rfl, rfl, rfl, rfl⟩ hrun
  obtain ⟨more, m, trap, event, hreports, hlast, hmatches, hprints⟩ :=
    ((hends .unknownBus .reported _ rfl (by decide)).1 hsecond).2 (by decide +kernel)
  rw [hcopy _ List.length_replicate, ← length_recentEvents] at hcopied
  exact ⟨_, _, history, more, m, trap, event, hfirst, hhistory, hcopied, hsecond, hreports,
    hlast, hmatches, hprints (.inl hthread), by decide +kernel, hthird, by decide +kernel⟩

end ManagedFaults
