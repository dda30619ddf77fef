import ManagedFaults.Registers.Context
import Mathlib.Tactic.Lemma

/-!
# Copied registers

Registers are copied one after the other, as far as both sides have them; then the frame pointer and
the link register are put in their places, over what was copied there.  So a copy holds at each
index what one rule says (`Context.general_copy`), and shows the same frame registers as its source
if that has a link register (`Context.sameFrame_copy`).  A snapshot holds all that a copy does
(`Context.snapshotOf_saved`).
-/

namespace ManagedFaults

namespace SavedRegisters

variable {r r' : SavedRegisters} {i j : Nat} {w : Word}

lemma general_zero (i : Nat) : zero.general i = 0 := by
  show (Vector.replicate generalRegisters (0 : Word))[i]?.getD 0 = 0
  rw [Vector.getElem?_replicate]
  split <;> rfl

lemma general_setGeneral_self (hi : i < generalRegisters) : (r.setGeneral i w).general i = w := by
  show (r.x.setIfInBounds i w)[i]?.getD 0 = w
  rw [Vector.getElem?_setIfInBounds_self_of_lt hi]
  rfl

lemma general_setGeneral_of_ne (h : i ≠ j) : (r.setGeneral i w).general j = r.general j := by
  show (r.x.setIfInBounds i w)[j]?.getD 0 = r.x[j]?.getD 0
  rw [Vector.getElem?_setIfInBounds_ne h]

lemma getElem?_eq_general (r : SavedRegisters) (hi : i < generalRegisters) :
    r.x[i]? = some (r.general i) := by
  unfold general
  rw [Vector.getElem?_eq_getElem hi]
  rfl

/-- Saved registers are known by what they hold. -/
lemma ext_general (hgeneral : ∀ i < generalRegisters, r.general i = r'.general i)
    (hsp : r.sp = r'.sp) (hpc : r.pc = r'.pc) (hpstate : r.pstate = r'.pstate) : r = r' := by
  have hx : r.x = r'.x := by
    refine Vector.ext fun i hi => ?_
    have heq := getElem?_eq_general r hi
    rw [hgeneral i hi, ← getElem?_eq_general r' hi] at heq
    rwa [Vector.getElem?_eq_getElem hi, Vector.getElem?_eq_getElem hi, Option.some.injEq] at heq
  cases r
  cases r'
  simp only [mk.injEq]
  exact ⟨hx, hsp, hpc, hpstate⟩

end SavedRegisters

namespace Context

variable {c c' : Context} {n i : Nat}

/-! ## What a copy holds -/

/-- The copied registers hold what the context has there, and the others are left zero. -/
lemma general_copyGeneral (hn : n ≤ generalRegisters) :
    (c.copyGeneral n).general i = if i < n then (c.gpr i).getD 0 else 0 := by
  induction n with
  | zero => exact SavedRegisters.general_zero i
  | succ n ih =>
    have hstep : c.copyGeneral (n + 1) = (c.copyGeneral n).setGeneral n ((c.gpr n).getD 0) := by
      unfold copyGeneral
      rw [List.range_succ, List.foldl_append]
      rfl
    rw [hstep]
    by_cases hlast : n = i
    · subst hlast
      rw [SavedRegisters.general_setGeneral_self (by omega), if_pos (by omega)]
    · rw [SavedRegisters.general_setGeneral_of_ne hlast, ih (by omega)]
      by_cases hi : i < n
      · rw [if_pos hi, if_pos (by omega)]
      · rw [if_neg hi, if_neg (by omega)]

lemma pstate_copyGeneral (c : Context) (n : Nat) : (c.copyGeneral n).pstate = 0 := by
  unfold copyGeneral
  have hkeeps : ∀ (l : List Nat) (r : SavedRegisters),
      (l.foldl (fun r i => r.setGeneral i ((c.gpr i).getD 0)) r).pstate = r.pstate := by
    intro l
    induction l with
    | nil => exact fun _ => rfl
    | cons i l ih => exact fun r => ih _
  exact hkeeps _ _

/-- The general register `i` of a copy: frame pointer and link register have accessors of their own,
and what the source does not have is zero. -/
def copied (c : Context) (i : Nat) : Word :=
  let general := if i < c.gprCount then (c.gpr i).getD 0 else 0
  if i = framePointerIndex then c.fp
  else if i = linkRegisterIndex then c.lr.getD general
  else general

theorem general_copy (hi : i < generalRegisters) : c.copy.general i = c.copied i := by
  have hgeneral : (c.copyGeneral (min c.gprCount generalRegisters)).general i =
      if i < c.gprCount then (c.gpr i).getD 0 else 0 := by
    rw [general_copyGeneral (Nat.min_le_right _ _)]
    by_cases hcount : i < c.gprCount
    · rw [if_pos hcount, if_pos (by omega)]
    · rw [if_neg hcount, if_neg (by omega)]
  let framed :=
    (c.copyGeneral (min c.gprCount generalRegisters)).setGeneral framePointerIndex c.fp
  have hframed : framed.general i =
      if i = framePointerIndex then c.fp else if i < c.gprCount then (c.gpr i).getD 0 else 0 := by
    by_cases hfp : i = framePointerIndex
    · subst hfp
      rw [if_pos rfl, SavedRegisters.general_setGeneral_self hi]
    · rw [if_neg hfp, SavedRegisters.general_setGeneral_of_ne (Ne.symm hfp), hgeneral]
  have hcopy : c.copy.general i =
      (c.lr.elim framed (framed.setGeneral linkRegisterIndex)).general i := rfl
  rw [hcopy, copied]
  cases c.lr with
  | none =>
    rw [Option.elim_none, hframed]
    split
    · rfl
    · exact (ite_self _).symm
  | some lr =>
    rw [Option.elim_some]
    by_cases hlr : i = linkRegisterIndex
    · subst hlr
      rw [SavedRegisters.general_setGeneral_self hi, if_neg (by decide), if_pos rfl]
      rfl
    · rw [SavedRegisters.general_setGeneral_of_ne (Ne.symm hlr), hframed, if_neg hlr]

lemma pstate_copy (c : Context) : c.copy.pstate = 0 := by
  unfold copy
  dsimp only
  cases c.lr with
  | none => exact c.pstate_copyGeneral _
  | some lr => exact c.pstate_copyGeneral _

/-- A copy of saved registers loses the processor state and nothing else. -/
lemma copy_portable (r : SavedRegisters) : (portable r).copy = { r with pstate := 0 } := by
  refine SavedRegisters.ext_general (fun i hi => ?_) rfl rfl (pstate_copy _)
  rw [general_copy hi, copied]
  split
  · rename_i hfp
    subst hfp
    rfl
  · split
    · rename_i hlr
      subst hlr
      rfl
    · exact if_pos hi

/-- Copying a copy changes nothing. -/
theorem copy_copy (c : Context) : (portable c.copy).copy = c.copy := by
  calc (portable c.copy).copy
      = { c.copy with pstate := 0 } := copy_portable c.copy
    _ = { c.copy with pstate := c.copy.pstate } := by rw [pstate_copy]
    _ = c.copy := rfl

/-! ## Frame registers -/

/-- Both contexts show the same program counter, stack pointer, frame pointer and link register. -/
structure SameFrame (c c' : Context) : Prop where
  pc : c'.pc = c.pc
  sp : c'.sp = c.sp
  fp : c'.fp = c.fp
  lr : c'.lr = c.lr

/-- A copy shows the frame registers of a context that has a link register. -/
theorem sameFrame_copy (hlink : c.lr.isSome = true) : c.SameFrame (portable c.copy) where
  pc := rfl
  sp := rfl
  fp := by
    show c.copy.general framePointerIndex = c.fp
    rw [general_copy (by decide), copied, if_pos rfl]
  lr := by
    obtain ⟨lr, hlr⟩ := Option.isSome_iff_exists.mp hlink
    show some (c.copy.general linkRegisterIndex) = c.lr
    rw [general_copy (by decide), copied, if_neg (by decide), if_pos rfl, hlr]
    rfl

end Context

/-! ## Snapshots -/

/-- A snapshot of registers shows what they are: the program counter, the stack pointer, the frame
pointer, the link register if there is one, and the other general registers, zero where there are
none.  Saved registers are their own snapshot, and any other has no processor state. -/
structure SavedRegisters.SnapshotOf (r : SavedRegisters) (c : Context) : Prop where
  pc : r.pc = c.pc
  sp : r.sp = c.sp
  fp : r.general framePointerIndex = c.fp
  lr : ∀ lr, c.lr = some lr → r.general linkRegisterIndex = lr
  general : ∀ i < generalRegisters, i ≠ framePointerIndex → (i = linkRegisterIndex → c.lr = none) →
    r.general i = if i < c.gprCount then (c.gpr i).getD 0 else 0
  own : ∀ saved, c = .portable saved → r = saved
  pstate : (∀ saved, c ≠ .portable saved) → r.pstate = 0

namespace Context

/-- A copy is a snapshot of registers that are not saved ones. -/
private lemma snapshotOf_copy {c : Context} (hother : ∀ saved, c ≠ .portable saved) :
    c.copy.SnapshotOf c where
  pc := rfl
  sp := rfl
  fp := by rw [general_copy (by decide), copied, if_pos rfl]
  lr lr hlr := by
    rw [general_copy (by decide), copied, if_neg (by decide), if_pos rfl, hlr]
    rfl
  general i hi hfp hlr := by
    rw [general_copy hi, copied, if_neg hfp]
    by_cases hlink : i = linkRegisterIndex
    · rw [if_pos hlink, hlr hlink]
      rfl
    · rw [if_neg hlink]
  own saved hsaved := absurd hsaved (hother saved)
  pstate _ := pstate_copy c

/-- The saved form of a context is a snapshot of it. -/
theorem snapshotOf_saved (c : Context) : c.saved.SnapshotOf c := by
  cases c with
  | portable r =>
    refine ⟨rfl, rfl, rfl, fun lr hlr => ?_, fun i hi _ _ => ?_, fun saved hsaved => ?_,
      fun h => absurd rfl (h r)⟩
    · exact Option.some.inj hlr
    · exact (if_pos hi).symm
    · exact Context.portable.inj hsaved
  | delivered registers => exact snapshotOf_copy (by simp)
  | exposed e => exact snapshotOf_copy (by simp)

end Context

end ManagedFaults
