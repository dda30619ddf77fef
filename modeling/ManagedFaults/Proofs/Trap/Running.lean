import ManagedFaults.Trap.Dispatch
import Mathlib.Tactic.Lemma

/-!
# Running the trap system

Computations of the trap system start in one state of the process, and either return or end their
thread in another.  `TrapM.Returns` says what a computation may return.  A frame is a pair of
relations between the two states, one for computations that return and one for those that do not;
`TrapM.Within` says that a computation never leaves it.
-/

namespace ManagedFaults

/-! ## Running -/

namespace TrapM

variable {α β : Type} {x : TrapM α} {f : α → TrapM β} {s t : ProcessState}

lemma run_bind_of_ok {a : α} (h : x.run s = .ok a t) : (x >>= f).run s = (f a).run t := by
  rw [EStateM.run_bind, h]

lemma run_bind_of_error {e : Ending} (h : x.run s = .error e t) :
    (x >>= f).run s = .error e t := by
  rw [EStateM.run_bind, h]

/-- Computations that end alike end alike with more to do. -/
lemma run_bind_congr {y : TrapM α} (h : x.run s = y.run t) :
    (x >>= f).run s = (y >>= f).run t := by
  rw [EStateM.run_bind, EStateM.run_bind, h]

/-- A sequence returns where both of its parts do. -/
lemma run_bind_ok_iff {b : β} :
    (x >>= f).run s = .ok b t ↔ ∃ a m, x.run s = .ok a m ∧ (f a).run m = .ok b t := by
  rw [EStateM.run_bind]
  cases x.run s with
  | error e m => simp
  | ok a m =>
    constructor
    · intro h
      exact ⟨a, m, rfl, h⟩
    · rintro ⟨_, _, ⟨⟩, h⟩
      exact h

lemma run_get_bind {f : ProcessState → TrapM β} : (get >>= f).run s = (f s).run s :=
  rfl

lemma run_record (i : Interaction) :
    (record i).run s = .ok () { s with scene := s.scene.record i } :=
  rfl

lemma run_say (l : Level) (text : String) :
    (say l text).run s = .ok () { s with scene := s.scene.say l text } :=
  rfl

/-- The state in which a computation ends, whether it returns or ends its thread. -/
def stateAfter (x : TrapM α) (s : ProcessState) : ProcessState :=
  match x.run s with
  | .ok _ t => t
  | .error _ t => t

/-- What a computation returns, unless it ends its thread. -/
def returned (x : TrapM α) (s : ProcessState) : Option α :=
  match x.run s with
  | .ok a _ => some a
  | .error _ _ => none

lemma returned_eq_some_iff {a : α} :
    x.returned s = some a ↔ x.run s = .ok a (x.stateAfter s) := by
  unfold returned stateAfter
  cases x.run s <;> simp

/-- How a computation ends its thread, unless it returns. -/
def ended (x : TrapM α) (s : ProcessState) : Option Ending :=
  match x.run s with
  | .ok _ _ => none
  | .error e _ => some e

lemma ended_eq_some_iff {e : Ending} :
    x.ended s = some e ↔ x.run s = .error e (x.stateAfter s) := by
  unfold ended stateAfter
  cases x.run s <;> simp

end TrapM

/-! ## What computations answer -/

/-- Whatever a computation on a scene answers satisfies `P`. -/
def RuleM.Answers {α : Type} (x : RuleM α) (P : α → Prop) : Prop :=
  ∀ s : Scene, P (x.run s).1

lemma RuleM.answers_pure {α : Type} {P : α → Prop} {a : α} (h : P a) :
    RuleM.Answers (pure a) P :=
  fun _ => h

lemma RuleM.answers_ask_bind {α β : Type} {P : β → Prop} {i : Interaction} {a : α}
    {f : α → RuleM β} (h : (f a).Answers P) : (RuleM.ask i a >>= f).Answers P :=
  fun s => h (s.record i)

/-- Whatever a computation of the trap system returns satisfies `P`. -/
def TrapM.Returns {α : Type} (x : TrapM α) (P : α → Prop) : Prop :=
  ∀ s a t, x.run s = .ok a t → P a

lemma TrapM.returns_pure {α : Type} {P : α → Prop} {a : α} (h : P a) :
    TrapM.Returns (pure a) P := by
  intro s b t hrun
  rw [EStateM.run_pure, EStateM.Result.ok.injEq] at hrun
  exact hrun.1 ▸ h

lemma TrapM.Returns.mono {α : Type} {P Q : α → Prop} {x : TrapM α} (h : x.Returns P)
    (hPQ : ∀ a, P a → Q a) : x.Returns Q :=
  fun s a t hrun => hPQ a (h s a t hrun)

/-- Nothing is known about what an arbitrary computation returns. -/
lemma TrapM.returns_any {α : Type} (x : TrapM α) : x.Returns fun _ => True :=
  fun _ _ _ _ => trivial

lemma TrapM.returns_bind {α β : Type} {P : α → Prop} {Q : β → Prop} {x : TrapM α}
    {f : α → TrapM β} (hx : x.Returns P) (hf : ∀ a, P a → (f a).Returns Q) :
    (x >>= f).Returns Q := by
  intro s b t hrun
  rw [EStateM.run_bind] at hrun
  cases hrunx : x.run s with
  | ok a m => exact hf a (hx s a m hrunx) m b t (by rwa [hrunx] at hrun)
  | error e m => simp [hrunx] at hrun

lemma TrapM.returns_onScene {α : Type} {P : α → Prop} {x : RuleM α} (h : x.Answers P) :
    (TrapM.onScene x).Returns P := by
  intro s a t hrun
  have hrun' : EStateM.Result.ok (x.run s.scene).1 { s with scene := (x.run s.scene).2 }
      = .ok a t := hrun
  rw [EStateM.Result.ok.injEq] at hrun'
  exact hrun'.1 ▸ h s.scene

/-- If every step of a search may only find what satisfies `P`, so may the search. -/
lemma TrapM.returns_findSomeM? {α β : Type} {P : β → Prop} {f : α → TrapM (Option β)}
    (l : List α) (h : ∀ a ∈ l, (f a).Returns fun r => ∀ b, r = some b → P b) :
    (l.findSomeM? f).Returns fun r => ∀ b, r = some b → P b := by
  induction l with
  | nil => exact TrapM.returns_pure (by simp)
  | cons a l ih =>
    rw [List.findSomeM?_cons]
    refine TrapM.returns_bind (h a List.mem_cons_self) fun found hfound => ?_
    cases found with
    | some b => exact TrapM.returns_pure hfound
    | none => exact ih fun a' ha' => h a' (List.mem_cons_of_mem a ha')

/-- If every step of a search leads from one state to another by what it answers, and a step that
answers nothing can be left out, then the search leads there by its answer. -/
lemma TrapM.findSomeM?_leads {α β : Type} {L : Option β → ProcessState → ProcessState → Prop}
    (hrefl : ∀ s, L none s s) (htrans : ∀ {r s m t}, L none s m → L r m t → L r s t)
    {f : α → TrapM (Option β)} (h : ∀ a s r t, (f a).run s = .ok r t → L r s t) (l : List α)
    {s t : ProcessState} {r : Option β} (hrun : (l.findSomeM? f).run s = .ok r t) : L r s t := by
  induction l generalizing s with
  | nil =>
    rw [List.findSomeM?_nil, EStateM.run_pure, EStateM.Result.ok.injEq] at hrun
    obtain ⟨rfl, rfl⟩ := hrun
    exact hrefl s
  | cons a l ih =>
    rw [List.findSomeM?_cons] at hrun
    cases hstep : (f a).run s with
    | error e m =>
      rw [TrapM.run_bind_of_error hstep] at hrun
      simp at hrun
    | ok found m =>
      rw [TrapM.run_bind_of_ok hstep] at hrun
      have hled := h a s found m hstep
      cases found with
      | none => exact htrans hled (ih hrun)
      | some b =>
        rw [EStateM.run_pure, EStateM.Result.ok.injEq] at hrun
        obtain ⟨rfl, rfl⟩ := hrun
        exact hled

/-! ## Why computations end their thread -/

namespace TrapM

variable {α β : Type} {P : Ending → ProcessState → Prop}

/-- Whenever a computation ends its thread, it does so in a way that satisfies `P`. -/
def FailsOnly (x : TrapM α) (P : Ending → ProcessState → Prop) : Prop :=
  ∀ s e t, x.run s = .error e t → P e t

lemma failsOnly_of_returns {x : TrapM α} (h : ∀ s, ∃ a t, x.run s = .ok a t) : x.FailsOnly P := by
  intro s e t hrun
  obtain ⟨a, m, hok⟩ := h s
  rw [hok] at hrun
  simp at hrun

lemma failsOnly_pure (a : α) : FailsOnly (pure a) P :=
  failsOnly_of_returns fun s => ⟨a, s, rfl⟩

lemma failsOnly_onScene (x : RuleM α) : (onScene x).FailsOnly P :=
  failsOnly_of_returns fun s =>
    ⟨(x.run s.scene).1, { s with scene := (x.run s.scene).2 }, rfl⟩

lemma FailsOnly.bind {x : TrapM α} {f : α → TrapM β} (hx : x.FailsOnly P)
    (hf : ∀ a, (f a).FailsOnly P) : (x >>= f).FailsOnly P := by
  intro s e t hrun
  cases hrunx : x.run s with
  | ok a m => exact hf a m e t (by rwa [run_bind_of_ok hrunx] at hrun)
  | error e' m =>
    rw [run_bind_of_error hrunx, EStateM.Result.error.injEq] at hrun
    obtain ⟨rfl, rfl⟩ := hrun
    exact hx s e' m hrunx

end TrapM

/-! ## Frames -/

/-- The state in which a computation ended satisfies `P` if it returned, and `Q` if it ended its
thread. -/
def TrapM.EndsIn {α : Type} (P Q : ProcessState → Prop) :
    EStateM.Result Ending ProcessState α → Prop
  | .ok _ t => P t
  | .error _ t => Q t

/-- Wherever a computation starts, the state in which it ends is related to the start: by `R` if
it returns, by `E` if it ends its thread. -/
def TrapM.Within {α : Type} (R E : ProcessState → ProcessState → Prop) (x : TrapM α) : Prop :=
  ∀ s, TrapM.EndsIn (R s) (E s) (x.run s)

/-- Relations that computations can be chained through. -/
structure Frame.Chains (R E : ProcessState → ProcessState → Prop) : Prop where
  refl : ∀ s, R s s
  trans : ∀ {s m t}, R s m → R m t → R s t
  ends : ∀ {s t}, R s t → E s t
  trans_ends : ∀ {s m t}, R s m → E m t → E s t

namespace TrapM

variable {α β : Type} {R E : ProcessState → ProcessState → Prop}

/-- A frame may be widened. -/
lemma Within.mono {R' E' : ProcessState → ProcessState → Prop} {x : TrapM α} (hx : x.Within R E)
    (hR : ∀ s t, R s t → R' s t) (hE : ∀ s t, E s t → E' s t) : x.Within R' E' := by
  intro s
  have hs := hx s
  cases hrun : x.run s with
  | ok a t => exact hR s t (by rwa [hrun] at hs)
  | error e t => exact hE s t (by rwa [hrun] at hs)

/-- Where computations end is related to where they start. -/
lemma Within.stateAfter {x : TrapM α} (h : x.Within R R) (s : ProcessState) :
    R s (x.stateAfter s) := by
  have hs := h s
  unfold TrapM.stateAfter
  cases hrun : x.run s <;> rwa [hrun] at hs

lemma within_pure (h : Frame.Chains R E) (a : α) : Within R E (pure a) :=
  fun s => h.refl s

lemma within_throw (h : Frame.Chains R E) (e : Ending) : Within R E (throw e : TrapM α) :=
  fun s => h.ends (h.refl s)

lemma within_modify {f : ProcessState → ProcessState} (h : ∀ s, R s (f s)) :
    Within R E (modify f) :=
  fun s => h s

/-- Going on from a state that was reached within the frame. -/
lemma Within.after (h : Frame.Chains R E) {x : TrapM α} {s m : ProcessState} (hm : R s m)
    (hx : x.Within R E) : EndsIn (R s) (E s) (x.run m) := by
  have hxm := hx m
  cases hrun : x.run m with
  | ok a t => exact h.trans hm (by rwa [hrun] at hxm)
  | error e t => exact h.trans_ends hm (by rwa [hrun] at hxm)

lemma Within.bind (h : Frame.Chains R E) {x : TrapM α} {f : α → TrapM β}
    (hx : x.Within R E) (hf : ∀ a, (f a).Within R E) : (x >>= f).Within R E := by
  intro s
  have hxs := hx s
  rw [EStateM.run_bind]
  cases hrun : x.run s with
  | error e m => rwa [hrun] at hxs
  | ok a m => exact (hf a).after h (by rwa [hrun] at hxs)

/-- Reading the state changes nothing. -/
lemma within_get_bind (h : Frame.Chains R E) {f : ProcessState → TrapM β}
    (hf : ∀ s, (f s).Within R E) : (get >>= f).Within R E :=
  Within.bind h (fun s => h.refl s) hf

end TrapM

end ManagedFaults
