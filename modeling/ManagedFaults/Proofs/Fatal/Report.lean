import ManagedFaults.Proofs.Fatal.OneReport
import ManagedFaults.Proofs.Fatal.TopOfStack
import ManagedFaults.Proofs.Trap.Printed

/-!
# What a report prints

A report has a heading, the top of the stack, what the registers point to and the recent traps, and
there is one wherever the stack of the thread can be read (`FatalReport.lines_of_covers`).  The
first trap that is escalated is reported (`report_of_escalate`).
-/

namespace ManagedFaults

/-! ## The lines -/

namespace FatalReport

variable {mem : Memory} {trap : UnrecoverableTrap}

/-- The stack of the thread, if it is known, can be read. -/
def StackReadable (mem : Memory) (trap : UnrecoverableTrap) : Prop :=
  ∀ stack, trap.stack = some stack → stack.base.isAligned = true ∧ mem.Covers stack

/-- A report can be made wherever the stack of the thread can be read, and it ends with the recent
traps. -/
theorem lines_of_covers (rt : ManagedRuntime) (events : Option (List TrapRecord))
    (h : StackReadable mem trap) :
    ∃ stack, topOfStack mem trap = some stack ∧
      lines rt mem events trap =
        some (heading trap ++ stack ++ registerMapping rt trap ++ recentTraps events) := by
  obtain ⟨stack, hstack⟩ := topOfStack_of_covers h
  refine ⟨stack, hstack, ?_⟩
  unfold lines
  rw [hstack]
  rfl

end FatalReport

/-! ## The first report -/

/-- After all that was printed in state `u`, a report was: the heading with the registers, the top
of the stack, what the registers point to, and these lines about recent traps. -/
def ProcessState.PrintsReport (u t : ProcessState) (rt : ManagedRuntime) (trap : UnrecoverableTrap)
    (recent : List String) : Prop :=
  ∃ stack, FatalReport.topOfStack u.memory trap = some stack ∧
    u.scene.console.printed ++
        (FatalReport.heading trap ++ stack ++ FatalReport.registerMapping rt trap ++ recent).map
          Console.reportLine <+:
      t.scene.console.printed

section Report

variable {α : Type} {sys : Dispatcher} {sv : Services} {trap : UnrecoverableTrap} {raw : Delivery}
  {s : ProcessState}

/-- The process once the running thread has claimed the latch and is written down. -/
def ProcessState.claimed (s : ProcessState) : ProcessState :=
  { s with latch := { inProgress := true, reporter := s.os.id } }

/-- Where nobody reports, a trap that is escalated is reported. -/
lemma escalate_run_of_free (hfree : s.latch.inProgress = false) :
    (escalate sys sv trap raw : TrapM α).run s =
      (EscalationStage.reporting.finish sys sv trap raw : TrapM α).run s.claimed := by
  rw [escalate_eq_steps, TrapM.run_bind_of_ok (EscalationStage.run_take _ s),
    EscalationStage.step_claiming_of_free hfree]
  rfl

/-- A computation that ends the thread when it returns ends where it has led to. -/
private lemma stateAfter_of_throw {β : Type} {x : TrapM β} {e e' : Ending} {t : ProcessState}
    (h : (x >>= fun _ => (throw e' : TrapM α)).run s = .error e t) : t = x.stateAfter s := by
  unfold TrapM.stateAfter
  cases hrun : x.run s with
  | ok a m =>
    rw [TrapM.run_bind_of_ok hrun] at h
    have hstate : EStateM.Result.error e' m = .error e t := h
    rw [EStateM.Result.error.injEq] at hstate
    exact hstate.2.symm
  | error e'' m =>
    rw [TrapM.run_bind_of_error hrun, EStateM.Result.error.injEq] at h
    exact h.2.symm

/-- The report on the first trap that is escalated is printed, unless it would read memory that is
not there, and the latch is taken. -/
lemma lines_of_escalate {room : Nat} {e : Ending} {t : ProcessState}
    (hfree : s.latch.inProgress = false)
    (hends : (escalate sys (services sys room) trap raw : TrapM α).run s = .error e t) :
    t.latch.inProgress = true ∧
      ∀ lines, FatalReport.lines sys.runtime s.memory s.loggedEvents trap = some lines →
        s.scene.console.printed ++ lines.map Console.reportLine <+: t.scene.console.printed := by
  rw [escalate_run_of_free hfree] at hends
  unfold EscalationStage.finish at hends
  rw [TrapM.run_get_bind] at hends
  have hreporting : s.claimed.Reporting := ⟨rfl, rfl⟩
  have hsame : FatalReport.lines sys.runtime s.claimed.memory s.claimed.loggedEvents trap =
    FatalReport.lines sys.runtime s.memory s.loggedEvents trap := rfl
  rw [hsame] at hends
  cases hlines : FatalReport.lines sys.runtime s.memory s.loggedEvents trap with
  | none =>
    rw [hlines] at hends
    have hstate : EStateM.Result.error Ending.unreadable s.claimed = .error e t := hends
    rw [EStateM.Result.error.injEq] at hstate
    rw [← hstate.2]
    exact ⟨rfl, by simp⟩
  | some lines =>
    rw [hlines] at hends
    let m : ProcessState :=
      { s.claimed with
        scene := { s.scene with console := s.scene.console.report lines } }
    have hprinted : m.scene.console.printed =
        s.scene.console.printed ++ lines.map Console.reportLine :=
      s.scene.console.printed_report lines
    have hprint : (TrapM.report lines).run s.claimed = .ok () m := rfl
    dsimp only at hends
    rw [TrapM.run_bind_of_ok hprint] at hends
    rw [stateAfter_of_throw hends]
    -- the reporter is foreign code, which only prints on and does not give up the report
    have hreporter := Script.run_has allowsHandling_printsOn.within.toAllowsForeign
      (services_printOn sys room) (sys.runtime.reporter trap raw)
    have honly := Script.run_has allowsForeign_onlyAborts (services_onlyAbort sys room)
      (sys.runtime.reporter trap raw)
    refine ⟨(honly.stateAfter (show m.Reporting from hreporting)).1, fun lines' hlines' => ?_⟩
    rw [← Option.some.inj hlines', ← hprinted]
    exact hreporter.stateAfter m

/-- So the first trap that is escalated is reported, with the events in the log unless that is
locked. -/
theorem report_of_escalate {room : Nat} {e : Ending} {t : ProcessState}
    (hfree : s.latch.inProgress = false)
    (hends : (escalate sys (services sys room) trap raw : TrapM α).run s = .error e t) :
    t.latch.inProgress = true ∧
      (FatalReport.StackReadable s.memory trap →
        s.PrintsReport t sys.runtime trap (FatalReport.recentTraps s.loggedEvents)) := by
  obtain ⟨htaken, hprinted⟩ := lines_of_escalate hfree hends
  refine ⟨htaken, fun hreadable => ?_⟩
  obtain ⟨stack, hstack, hlines⟩ :=
    FatalReport.lines_of_covers sys.runtime s.loggedEvents hreadable
  exact ⟨stack, hstack, hprinted _ hlines⟩

end Report

end ManagedFaults
