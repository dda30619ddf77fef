import ManagedFaults.Proofs.Trap.Nested

/-!
# Handlers that leave the registers alone

Foreign code may write over the delivered registers of the interrupted thread, and a verdict is
applied to what is there then.  If none of the chained handlers does so, the registers are the
delivered ones (`registersAfter_of_leaving`), whatever else the handlers do and however often they
call the trap system again.
-/

namespace ManagedFaults

/-- No chained handler writes over the delivered registers. -/
def ProcessState.HandlersLeaveRegisters (s : ProcessState) (rt : ManagedRuntime) : Prop :=
  ∀ e ∈ s.registry.entries, e.handler.LeavesRegisters rt

/-- Below an active handler, with this much room on the stack, such handlers have not written over
the registers, and the handlers are still the same. -/
def ProcessState.LeftBelow (rt : ManagedRuntime) (room : Nat) (s t : ProcessState) : Prop :=
  room < s.os.mark.recorded → s.HandlersLeaveRegisters rt →
    t.os.mark = s.os.mark ∧ t.registry = s.registry ∧ t.rewritten = s.rewritten

namespace Frame

open ProcessState

variable (rt : ManagedRuntime) (room : Nat)

lemma chains_leftBelow : Frame.Chains (LeftBelow rt room) (fun _ _ => True) where
  refl _ := fun _ _ => ⟨rfl, rfl, rfl⟩
  trans {s m t} hsm hmt := by
    intro hroom hleave
    obtain ⟨hmark, hregistry, hrewritten⟩ := hsm hroom hleave
    have hleave' : m.HandlersLeaveRegisters rt := by
      unfold HandlersLeaveRegisters
      rwa [hregistry]
    obtain ⟨hmark', hregistry', hrewritten'⟩ := hmt (by rwa [hmark]) hleave'
    exact ⟨hmark'.trans hmark, hregistry'.trans hregistry, hrewritten'.trans hrewritten⟩
  ends _ := trivial
  trans_ends _ _ := trivial

lemma allowsDispatch_leftBelow :
    Frame.AllowsDispatch (LeftBelow rt room) (fun _ _ => True) where
  toChains := chains_leftBelow rt room
  mark _ _ := fun _ _ => ⟨rfl, rfl, rfl⟩
  offer _ _ := fun _ _ => ⟨rfl, rfl, rfl⟩
  say _ _ _ := fun _ _ => ⟨rfl, rfl, rfl⟩
  log _ _ := fun _ _ => ⟨rfl, rfl, rfl⟩
  spend _ _ _ := fun _ _ => ⟨rfl, rfl, rfl⟩
  locked hst := hst
  locked_ends _ := trivial
  masked _ hst := hst
  masked_ends _ _ := trivial

lemma allowsEntry_leftBelow : Frame.AllowsEntry (LeftBelow rt room) (fun _ _ => True) where
  toChains := chains_leftBelow rt room
  reset _ _ := fun _ _ => ⟨rfl, rfl, rfl⟩
  fail _ _ := fun _ _ => ⟨rfl, rfl, rfl⟩

lemma allowsRules_leftBelow : Frame.AllowsRules (LeftBelow rt room) (fun _ _ => True) where
  toChains := chains_leftBelow rt room
  say _ _ _ := fun _ _ => ⟨rfl, rfl, rfl⟩
  ask _ _ _ := fun _ _ => ⟨rfl, rfl, rfl⟩
  guard _ _ _ := fun _ _ => ⟨rfl, rfl, rfl⟩

end Frame

section Left

open ProcessState

variable {sys : Dispatcher} {sv : Services} {room : Nat}

/-- Offering a signal to handlers that leave the registers alone leaves them alone. -/
lemma dispatch_leftBelow
    (hsv : sv.Have fun x => x.Within (LeftBelow sys.runtime room) (fun _ _ => True))
    (info : SignalCause) (raw : Delivery) :
    (dispatch sys sv info raw).Within (LeftBelow sys.runtime room) (fun _ _ => True) := by
  have hallows := (Frame.allowsDispatch_leftBelow sys.runtime room).within
  intro s
  by_cases hleave : s.HandlersLeaveRegisters sys.runtime
  · unfold dispatch
    rw [TrapM.run_bind_of_ok (TrapM.run_record _), TrapM.run_get_bind]
    refine TrapM.Within.after (Frame.chains_leftBelow sys.runtime room)
      (fun _ _ => ⟨rfl, rfl, rfl⟩) ?_
    dsimp only
    split
    · exact hallows.bind (hallows.say _ _) fun _ => hallows.pure false
    · -- whoever accepts the signal is one of the registered handlers
      refine hallows.locked (hallows.anyM _ fun e he => ?_)
      exact e.handler.tryHandle_has hallows hsv sys info raw
        (.inl (hleave e (List.mem_filter.mp he).1))
  · -- some handler writes over the registers, so nothing has to be shown
    cases hrun : (dispatch sys sv info raw).run s with
    | ok a t => exact fun _ h => absurd h hleave
    | error e t => trivial

/-- A handler that runs below an active one leaves the registers alone, since it asks nobody. -/
private lemma handle_leftBelow {sp : Nat} (hsp : sp ≤ room) (info : SignalCause) (raw : Delivery)
    (context : Option Context) (abort : Bool) :
    (handle sys sv sp info raw context abort).Within
      (LeftBelow sys.runtime room) (fun _ _ => True) := by
  intro s
  cases hrun : (handle sys sv sp info raw context abort).run s with
  | error e t => trivial
  | ok r t =>
    intro hroom _
    have hnested : (s.os.mark.enter sp).1 = true := (NestingMark.nested_iff _ _).mpr (by omega)
    obtain ⟨-, -, rfl⟩ := handle_run_nested hnested hrun
    exact ⟨rfl, rfl, rfl⟩

/-- So does all else that foreign code can call below an active handler. -/
lemma services_leftBelow (sys : Dispatcher) {room n : Nat} (h : n ≤ room) :
    (services sys n).Have fun x =>
      x.Within (LeftBelow sys.runtime room) (fun _ _ => True) :=
  services_have_of (Frame.allowsEntry_leftBelow sys.runtime room).within
    (TrapM.within_throw (Frame.chains_leftBelow sys.runtime room) _) sys
    (fun _ hm _ => handle_leftBelow hm) (fun _ _ hlower => dispatch_leftBelow hlower) h

variable {call : SignalCall} {s m : ProcessState}

/-- When an outermost handler has entered, nobody has written over the registers yet. -/
lemma rewritten_entered (houter : (s.os.mark.enter call.sp).1 = false) :
    (s.entered call.sp).rewritten = none := by
  unfold entered
  rw [houter]
  rfl

/-- As long as nobody has written over the registers, they are those that were delivered. -/
lemma SignalCall.registersAfter_of_rewritten (h : m.rewritten = none) :
    call.registersAfter m = call.context := by
  have hcurrent : m.current call.raw = id := by
    funext context
    unfold ProcessState.current
    rw [h]
    rfl
  show call.context.map (m.current call.raw) = call.context
  rw [hcurrent, Option.map_id]
  rfl

/-- If all handlers leave the registers alone, a verdict is applied to those that were delivered. -/
theorem registersAfter_of_leaving (hroom : call.room < call.sp)
    (houter : (s.os.mark.enter call.sp).1 = false) {cl : Classification}
    (hverdict : call.verdict.run s = .ok cl m)
    (hleave : s.HandlersLeaveRegisters call.sys.runtime) :
    call.registersAfter m = call.context := by
  have hoffer : (call.offer s.thread).Within (LeftBelow call.sys.runtime call.room)
      (fun _ _ => True) :=
    dispatch_leftBelow (services_leftBelow call.sys (Nat.le_refl call.room)) _ call.raw
  have hclassify := call.sys.classifier.classify_has
    (Frame.allowsRules_leftBelow call.sys.runtime call.room).within (call.input s.thread) hoffer
    (s.entered call.sp)
  rw [← call.verdict_run houter, hverdict] at hclassify
  obtain ⟨-, -, hrewritten⟩ := hclassify (call.active_entered hroom houter) hleave
  exact call.registersAfter_of_rewritten (hrewritten.trans (rewritten_entered houter))

end Left

end ManagedFaults
