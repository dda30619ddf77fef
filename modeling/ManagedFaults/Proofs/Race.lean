import Mathlib.Logic.Function.Iterate
import Mathlib.Tactic.Lemma

/-!
# Races

Many parties act on something that they share.  Each of them goes through stages, one atomic step
after the other, and the steps of different parties may come in any order.
-/

namespace ManagedFaults

/-- What the parties of a race share, and the stage that each of them has come to. -/
@[ext]
structure Race (σ τ : Type) where
  shared : σ
  stage : Nat → τ

namespace Race

variable {σ τ : Type} (step : Nat → τ → σ → τ × σ)

/-- The race after the next step of a party. -/
def after (r : Race σ τ) (i : Nat) : Race σ τ where
  shared := (step i (r.stage i) r.shared).2
  stage := fun j => if j = i then (step i (r.stage i) r.shared).1 else r.stage j

/-- The race after steps of these parties, in this order. -/
def run (r : Race σ τ) (order : List Nat) : Race σ τ :=
  order.foldl (after step) r

variable {step} {r : Race σ τ} {i j : Nat}

lemma stage_after_self : (r.after step i).stage i = (step i (r.stage i) r.shared).1 :=
  if_pos rfl

/-- What a step does for the party that takes it. -/
lemma after_eq {stage : τ} {shared : σ} (h : step i (r.stage i) r.shared = (stage, shared)) :
    (r.after step i).stage i = stage ∧ (r.after step i).shared = shared :=
  ⟨stage_after_self.trans (congrArg Prod.fst h), congrArg Prod.snd h⟩

lemma stage_after_of_ne (h : j ≠ i) : (r.after step i).stage j = r.stage j :=
  if_neg h

/-- A step that changes nothing for its party changes nothing at all. -/
lemma after_of_rest (h : step i (r.stage i) r.shared = (r.stage i, r.shared)) :
    r.after step i = r := by
  refine Race.ext (congrArg Prod.snd h) (funext fun j => ?_)
  by_cases hj : j = i
  · rw [hj, stage_after_self, h]
  · exact stage_after_of_ne hj

lemma run_cons (order : List Nat) : r.run step (i :: order) = (r.after step i).run step order :=
  rfl

lemma run_append (order more : List Nat) :
    r.run step (order ++ more) = (r.run step order).run step more :=
  List.foldl_append

/-- What becomes of a party that takes its steps without interference. -/
lemma run_replicate (n : Nat) :
    ((r.run step (List.replicate n i)).stage i, (r.run step (List.replicate n i)).shared) =
      (fun p => step i p.1 p.2)^[n] (r.stage i, r.shared) := by
  induction n generalizing r with
  | zero => rfl
  | succ n ih =>
    rw [List.replicate_succ, run_cons, ih, Function.iterate_succ_apply, stage_after_self]
    rfl

/-- What every step keeps, every run keeps. -/
lemma run_keeps {P : Race σ τ → Prop} (hstep : ∀ r i, P r → P (r.after step i)) (h : P r)
    (order : List Nat) : P (r.run step order) := by
  induction order generalizing r with
  | nil => exact h
  | cons i order ih => exact ih (hstep r i h)

end Race

end ManagedFaults
