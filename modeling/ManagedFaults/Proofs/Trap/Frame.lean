import ManagedFaults.Proofs.Trap.Composition

/-!
# Frames of the trap system

Relations between the states before and after that allow each step of the trap system by itself.
Such a frame is inherited by sequences (`Frame.Chains.composes`), and hence everything that is
composed of these steps stays within it (`Frame.AllowsHandling.within`).
-/

namespace ManagedFaults

/-! ## Foreign code -/

variable {R E : ProcessState → ProcessState → Prop}

/-- To stay within a frame is inherited by sequences. -/
lemma Frame.Chains.composes (h : Frame.Chains R E) : TrapM.Composes fun x => x.Within R E where
  pure := TrapM.within_pure h
  bind hx hf := hx.bind h hf
  read _ hf := TrapM.within_get_bind h hf

/-- Frames that allow what dispatching does by itself, and foreign code that leaves the delivered
registers alone.  The lock of the registry and the mask of the thread may change on the way as long
as they come back. -/
structure Frame.AllowsDispatch (R E : ProcessState → ProcessState → Prop) : Prop
    extends Frame.Chains R E where
  mark : ∀ s text, R s { s with scene := s.scene.record (.mark text) }
  offer : ∀ s signal, R s { s with scene := s.scene.record (.dispatch signal) }
  say : ∀ s level text, R s { s with scene := s.scene.say level text }
  log : ∀ s event, R s { s with log := s.logWith event }
  spend : ∀ s slot kept, R s { s with previous := s.previous.set slot kept }
  locked : ∀ {s t}, R { s with lock := { s.lock with readers := s.lock.readers + 1 } } t →
    R s { t with lock := { t.lock with readers := t.lock.readers - 1 } }
  locked_ends : ∀ {s t}, E { s with lock := { s.lock with readers := s.lock.readers + 1 } } t →
    E s t
  masked : ∀ {s t} mask, R { s with os := { s.os with mask } } t →
    R s { t with os := { t.os with mask := s.os.mask.stored } }
  masked_ends : ∀ {s t} mask, E { s with os := { s.os with mask } } t → E s t

/-- Frames that allow what foreign code and dispatching do by themselves. -/
structure Frame.AllowsForeign (R E : ProcessState → ProcessState → Prop) : Prop
    extends Frame.AllowsDispatch R E where
  rewrite : ∀ s registers, R s { s with rewritten := some registers }

lemma TrapM.run_setMask (mask : SignalSet) (s : ProcessState) :
    (TrapM.setMask mask).run s = .ok () { s with os := { s.os with mask := mask.stored } } :=
  rfl

/-- Running under another mask, which is put back before going on. -/
private lemma masked_within {α : Type} (h : Frame.AllowsDispatch R E) {x : TrapM Unit}
    {k : TrapM α} (hx : x.Within R E) (hk : k.Within R E) (mask : SignalSet) :
    TrapM.Within R E (do
      let s ← get
      TrapM.setMask mask
      x
      TrapM.setMask s.os.mask
      k) := by
  intro s
  have hxs := hx { s with os := { s.os with mask := mask.stored } }
  simp only [EStateM.run_bind, EStateM.run_get, TrapM.run_setMask]
  generalize x.run { s with os := { s.os with mask := mask.stored } } = out at hxs ⊢
  cases out with
  | ok a t => exact TrapM.Within.after h.toChains (h.masked mask.stored hxs) hk
  | error e t => exact h.masked_ends mask.stored hxs

/-- Running while the registry is being read. -/
private lemma locked_within {α : Type} (h : Frame.AllowsDispatch R E) {x : TrapM α}
    (hx : x.Within R E) :
    TrapM.Within R E (do
      modify fun s => { s with lock := { s.lock with readers := s.lock.readers + 1 } }
      let a ← x
      modify fun s => { s with lock := { s.lock with readers := s.lock.readers - 1 } }
      return a) := by
  intro s
  have hxs := hx { s with lock := { s.lock with readers := s.lock.readers + 1 } }
  simp only [EStateM.run_bind, EStateM.run_modify]
  generalize x.run { s with lock := { s.lock with readers := s.lock.readers + 1 } } = out at hxs ⊢
  cases out with
  | ok a t => exact h.locked hxs
  | error e t => exact h.locked_ends hxs

/-- A frame that allows dispatching by itself. -/
lemma Frame.AllowsDispatch.within (h : Frame.AllowsDispatch R E) :
    TrapM.AllowsDispatch fun x => x.Within R E where
  toComposes := h.toChains.composes
  mark text := TrapM.within_modify fun s => h.mark s text
  offer signal := TrapM.within_modify fun s => h.offer s signal
  say level text := TrapM.within_modify fun s => h.say s level text
  log event := TrapM.within_modify fun s => h.log s event
  spend slot kept := TrapM.within_modify fun s => h.spend s slot kept
  locked hx := locked_within h hx
  masked mask _ _ hx hk := masked_within h hx hk mask

/-- A frame that allows foreign code by itself. -/
lemma Frame.AllowsForeign.within (h : Frame.AllowsForeign R E) :
    TrapM.AllowsForeign fun x => x.Within R E where
  toAllowsDispatch := h.toAllowsDispatch.within
  rewrite registers := TrapM.within_modify fun s => h.rewrite s registers

/-! ## Handling signals -/

/-- Frames that allow what the rules of classification do by themselves. -/
structure Frame.AllowsRules (R E : ProcessState → ProcessState → Prop) : Prop
    extends Frame.Chains R E where
  say : ∀ s level text, R s { s with scene := s.scene.say level text }
  ask : ∀ s {asked : List Interaction}, (∀ i ∈ asked, i.isQuestion = true) →
    R s { s with scene := { s.scene with interactions := s.scene.interactions ++ asked } }
  guard : ∀ s (c : Classifier) (i : Trap), R s { s with scene := ((c.stackGuard i).run s.scene).2 }

/-- A computation that only asks stays within such a frame. -/
private lemma onlyAsks_within (h : Frame.AllowsRules R E) {α : Type} {x : RuleM α}
    (hx : x.OnlyAsks) : (TrapM.onScene x).Within R E := by
  obtain ⟨a, asked, hasked, hx⟩ := hx
  intro s
  have hrun : (TrapM.onScene x).run s =
      .ok a { s with scene := { s.scene with interactions := s.scene.interactions ++ asked } } := by
    have : (TrapM.onScene x).run s =
        .ok (x.run s.scene).1 { s with scene := (x.run s.scene).2 } := rfl
    rw [this, hx]
  rw [hrun]
  exact h.ask s hasked

lemma Frame.AllowsRules.within (h : Frame.AllowsRules R E) :
    TrapM.AllowsRules fun x => x.Within R E where
  toComposes := h.toChains.composes
  say level text := TrapM.within_modify fun s => h.say s level text
  ask hx := onlyAsks_within h hx
  guard c i := fun s => h.guard s c i

/-- Frames that allow what escalating a trap does. -/
structure Frame.AllowsEscalation (R E : ProcessState → ProcessState → Prop) : Prop
    extends Frame.AllowsForeign R E where
  unblock : ∀ s mask, R s { s with os := { s.os with mask } }
  askUnblock : ∀ s signal, R s { s with scene := s.scene.record (.unblock signal) }
  claim : ∀ s latch, R s { s with latch }
  report : ∀ s lines,
    R s { s with scene := { s.scene with console := s.scene.console.report lines } }

lemma Frame.AllowsEscalation.within (h : Frame.AllowsEscalation R E) :
    TrapM.AllowsEscalation fun x => x.Within R E where
  toAllowsForeign := h.toAllowsForeign.within
  throw e := TrapM.within_throw h.toChains e
  unblock control signal := by
    cases control with
    | system => exact TrapM.within_modify fun s => h.unblock s _
    | delegated => exact TrapM.within_modify fun s => h.askUnblock s signal
  claim := TrapM.within_modify fun s => h.claim s _
  name := TrapM.within_modify fun s => h.claim s _
  report lines := TrapM.within_modify fun s => h.report s lines

/-- Frames that allow what the entries do around the handler. -/
structure Frame.AllowsEntry (R E : ProcessState → ProcessState → Prop) : Prop
    extends Frame.Chains R E where
  reset : ∀ s actions, R s { s with actions }
  fail : ∀ s errno, R s { s with os := { s.os with errno } }

lemma Frame.AllowsEntry.within (h : Frame.AllowsEntry R E) :
    TrapM.AllowsEntry fun x => x.Within R E where
  toComposes := h.toChains.composes
  reset signo := by
    refine TrapM.within_modify fun s => ?_
    split
    · exact h.reset s _
    · exact h.fail s _
  fail errno := TrapM.within_modify fun s => h.fail s errno

/-- Frames that allow everything that handling a signal does. -/
structure Frame.AllowsHandling (R E : ProcessState → ProcessState → Prop) : Prop
    extends Frame.AllowsEscalation R E, Frame.AllowsRules R E, Frame.AllowsEntry R E where
  enter : ∀ s mark rewritten, R s { s with os := { s.os with mark }, rewritten }
  count : ∀ s sequence, R s { s with sequence }
  save : ∀ s pc, R s { s with savedPc := pc }

lemma Frame.AllowsHandling.within (h : Frame.AllowsHandling R E) :
    TrapM.AllowsHandling fun x => x.Within R E where
  toAllowsEscalation := h.toAllowsEscalation.within
  ask := h.toAllowsRules.within.ask
  guard := h.toAllowsRules.within.guard
  reset := h.toAllowsEntry.within.reset
  fail := h.toAllowsEntry.within.fail
  enter sp := fun s => h.enter s _ _
  leave nested := TrapM.within_modify fun s => h.enter s _ s.rewritten
  count := fun s => h.count s _
  save pc := by
    refine TrapM.within_modify fun s => ?_
    split
    · exact h.save s pc
    · exact h.refl s

/-! ## Frames that are open to silent changes -/

/-- A change that concerns neither the log and who is at it nor the numbers of events, the managed
thread, the mark, the latch or memory. -/
structure ProcessState.Silent (s t : ProcessState) : Prop where
  log : t.log = s.log
  locked : t.logLocked = s.logLocked
  sequence : t.sequence = s.sequence
  thread : t.thread = s.thread
  mark : t.os.mark = s.os.mark
  latch : t.latch = s.latch
  memory : t.memory = s.memory

namespace Frame.Chains

variable (h : Frame.Chains R E) (hsilent : ∀ {s t : ProcessState}, s.Silent t → R s t)
include h hsilent

/-- All that foreign code does by itself is silent, unless it writes an event. -/
lemma allowsForeign (hlog : ∀ (s : ProcessState) event, R s { s with log := s.logWith event }) :
    Frame.AllowsForeign R E where
  toChains := h
  mark _ _ := hsilent ⟨rfl, rfl, rfl, rfl, rfl, rfl, rfl⟩
  offer _ _ := hsilent ⟨rfl, rfl, rfl, rfl, rfl, rfl, rfl⟩
  say _ _ _ := hsilent ⟨rfl, rfl, rfl, rfl, rfl, rfl, rfl⟩
  log := hlog
  spend _ _ _ := hsilent ⟨rfl, rfl, rfl, rfl, rfl, rfl, rfl⟩
  rewrite _ _ := hsilent ⟨rfl, rfl, rfl, rfl, rfl, rfl, rfl⟩
  locked hst := by
    refine h.trans (h.trans (hsilent ?_) hst) (hsilent ?_)
    · exact ⟨rfl, rfl, rfl, rfl, rfl, rfl, rfl⟩
    · exact ⟨rfl, rfl, rfl, rfl, rfl, rfl, rfl⟩
  locked_ends hst := by
    refine h.trans_ends (hsilent ?_) hst
    exact ⟨rfl, rfl, rfl, rfl, rfl, rfl, rfl⟩
  masked _ hst := by
    refine h.trans (h.trans (hsilent ?_) hst) (hsilent ?_)
    · exact ⟨rfl, rfl, rfl, rfl, rfl, rfl, rfl⟩
    · exact ⟨rfl, rfl, rfl, rfl, rfl, rfl, rfl⟩
  masked_ends _ hst := by
    refine h.trans_ends (hsilent ?_) hst
    exact ⟨rfl, rfl, rfl, rfl, rfl, rfl, rfl⟩

lemma allowsEntry : Frame.AllowsEntry R E where
  toChains := h
  reset _ _ := hsilent ⟨rfl, rfl, rfl, rfl, rfl, rfl, rfl⟩
  fail _ _ := hsilent ⟨rfl, rfl, rfl, rfl, rfl, rfl, rfl⟩

lemma allowsRules : Frame.AllowsRules R E where
  toChains := h
  say _ _ _ := hsilent ⟨rfl, rfl, rfl, rfl, rfl, rfl, rfl⟩
  ask _ _ _ := hsilent ⟨rfl, rfl, rfl, rfl, rfl, rfl, rfl⟩
  guard _ _ _ := hsilent ⟨rfl, rfl, rfl, rfl, rfl, rfl, rfl⟩

end Frame.Chains

end ManagedFaults
