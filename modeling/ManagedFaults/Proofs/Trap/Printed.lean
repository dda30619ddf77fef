import ManagedFaults.Proofs.Trap.Frame

/-!
# What stays on the console

Nothing that was printed is ever taken back: whatever the trap system does while it handles a
signal, it only prints on (`services_printOn`).
-/

namespace ManagedFaults

/-! ## The console -/

namespace Console

/-- A line of a report, as it is printed. -/
def reportLine (line : String) : String :=
  String.join [line, "\n"]

variable (c : Console)

lemma printed_report (lines : List String) :
    (c.report lines).printed = c.printed ++ lines.map reportLine := by
  induction lines generalizing c with
  | nil => exact (List.append_nil _).symm
  | cons line lines ih =>
    have hfirst : (c.print [line, "\n"]).printed = c.printed ++ [reportLine line] := rfl
    show ((c.print [line, "\n"]).report lines).printed = _
    rw [ih, hfirst, List.append_assoc]
    rfl

lemma printed_say (l : Level) (text : String) : c.printed <+: (c.say l text).printed := by
  unfold say
  split
  · exact List.prefix_append _ _
  · exact List.prefix_rfl

lemma printed_warnings (warnings : List String) :
    c.printed <+: (warnings.foldl (fun c w => c.say .warn w) c).printed := by
  induction warnings generalizing c with
  | nil => exact List.prefix_rfl
  | cons w warnings ih => exact (c.printed_say .warn w).trans (ih (c.say .warn w))

end Console

/-! ## Rules -/

namespace RuleM

/-- Wherever a computation on the scene starts, it only prints on. -/
def PrintsOn {α : Type} (x : RuleM α) : Prop :=
  ∀ s : Scene, s.console.printed <+: (x.run s).2.console.printed

lemma OnlyAsks.printsOn {α : Type} {x : RuleM α} (hx : x.OnlyAsks) : x.PrintsOn := by
  obtain ⟨a, asked, _, hx⟩ := hx
  intro s
  have hsame : (x.run s).2.console = s.console := by rw [hx]
  exact hsame ▸ List.prefix_rfl

lemma printsOn_onGuard (f : GuardedStack → GuardedStack) : PrintsOn (RuleM.onGuard f) := by
  intro s
  have hrun : ((RuleM.onGuard f).run s).2 = (s.mapGuard fun g => ((), f g)).2 := rfl
  rw [hrun, Scene.mapGuard]
  split
  · exact List.prefix_rfl
  · exact s.console.printed_warnings _

lemma allowsGuard_printsOn : RuleM.AllowsGuard PrintsOn where
  bind hx hf s := (hx s).trans (hf _ _)
  read _ hf s := hf s s
  ask := OnlyAsks.printsOn
  say l text s := s.console.printed_say l text
  openYellow := printsOn_onGuard _
  openRed := printsOn_onGuard _
  lend _ := printsOn_onGuard _

end RuleM

/-! ## Handling signals -/

/-- Between two states nothing that was printed has been taken back. -/
def ProcessState.PrintsOn (s t : ProcessState) : Prop :=
  s.scene.console.printed <+: t.scene.console.printed

lemma allowsHandling_printsOn :
    Frame.AllowsHandling ProcessState.PrintsOn ProcessState.PrintsOn where
  refl _ := List.prefix_rfl
  trans hsm hmt := List.IsPrefix.trans hsm hmt
  ends hst := hst
  trans_ends hsm hmt := List.IsPrefix.trans hsm hmt
  mark _ _ := List.prefix_rfl
  offer _ _ := List.prefix_rfl
  say s level text := s.scene.console.printed_say level text
  log _ _ := List.prefix_rfl
  spend _ _ _ := List.prefix_rfl
  rewrite _ _ := List.prefix_rfl
  locked hst := hst
  locked_ends hst := hst
  masked _ hst := hst
  masked_ends _ hst := hst
  unblock _ _ := List.prefix_rfl
  askUnblock _ _ := List.prefix_rfl
  claim _ _ := List.prefix_rfl
  report s lines := by
    show s.scene.console.printed <+: (s.scene.console.report lines).printed
    rw [Console.printed_report]
    exact List.prefix_append _ _
  ask _ _ _ := List.prefix_rfl
  guard s c i := Classifier.stackGuard_has RuleM.allowsGuard_printsOn c i s.scene
  reset _ _ := List.prefix_rfl
  fail _ _ := List.prefix_rfl
  enter _ _ _ := List.prefix_rfl
  count _ _ := List.prefix_rfl
  save _ _ := List.prefix_rfl

/-- Whatever foreign code calls only prints on. -/
theorem services_printOn (sys : Dispatcher) (room : Nat) :
    (services sys room).Have fun x => x.Within ProcessState.PrintsOn ProcessState.PrintsOn :=
  services_have allowsHandling_printsOn.within sys room

end ManagedFaults
