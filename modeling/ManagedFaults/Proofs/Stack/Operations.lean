import ManagedFaults.Proofs.Stack.Guard

/-!
# Sequences of operations on a guarded stack

Apart from arming again, the operations on the zones do not look at the state of the guard, and can
be called in any order.  What the guard says about the red and reserved zones is true after all of
them.  What it says about the yellow zone stays true as long as the reserved zone is lent and taken
back only while yellow is armed, and not longer (`backed_iff_orderly`): after an overflow, either
of these two has the guard say that yellow is armed, and leaves the zone open.
-/

namespace ManagedFaults

/-! ## Operations -/

/-- An operation on the zones of a stack. -/
inductive GuardOp where
  | armAll
  | lendReserved
  | reclaimReserved
  | openYellow
  | openRed
  | rearm (sp : Word)
deriving DecidableEq, Repr

namespace GuardOp

/-- The stack after an operation. -/
def apply (s : GuardedStack) : GuardOp → GuardedStack
  | .armAll => s.armAll.2
  | .lendReserved => s.lendReserved
  | .reclaimReserved => s.reclaimReserved
  | .openYellow => s.openYellow
  | .openRed => s.openRed
  | .rearm sp => (s.rearm sp).2

/-- The stack after some operations. -/
def run (s : GuardedStack) (ops : List GuardOp) : GuardedStack :=
  ops.foldl apply s

/-- Whether the reserved zone alone is opened or closed. -/
def usesReserve : GuardOp → Bool
  | .lendReserved | .reclaimReserved => true
  | _ => false

/-- The reserved zone is lent and taken back only while yellow is armed. -/
def Orderly (s : GuardedStack) : List GuardOp → Prop
  | [] => True
  | op :: ops => (op.usesReserve = true → s.guard.yellowArmed = true) ∧ Orderly (op.apply s) ops

instance decidableOrderly (s : GuardedStack) : (ops : List GuardOp) → Decidable (Orderly s ops)
  | [] => .isTrue trivial
  | op :: ops =>
    have := decidableOrderly (op.apply s) ops
    inferInstanceAs (Decidable (_ ∧ _))

/-- The zones that are closed after an operation on a stack with guard `g`, if `z` were closed
before. -/
def closedZones (g : StackGuard) (z : ClosedZones) : GuardOp → ClosedZones
  | .armAll => { red := true, yellow := true, reserved := true }
  | .lendReserved => { z with reserved := false }
  | .reclaimReserved => { z with reserved := true }
  | .openYellow => { z with yellow := false, reserved := false }
  | .openRed => { z with red := false }
  | .rearm sp => g.closedByRearm sp z

end GuardOp

/-- An operation changes the pages of whole zones. -/
lemma GuardedStack.Closes.apply {l : GuardZones} {m : AddressSpace} {s : GuardedStack}
    {z : ClosedZones} (hfits : l.Fits m) (h : s.Closes l m z) (op : GuardOp) :
    (op.apply s).Closes l m (op.closedZones s.guard z) := by
  cases op with
  | armAll =>
    obtain rfl := h.layout
    exact h.trans (.armAll (hfits.of_bounds h.low h.high) h.mode h.willing)
  | lendReserved => exact h.lendReserved hfits
  | reclaimReserved => exact h.reclaimReserved hfits
  | openYellow => exact h.openYellow hfits
  | openRed => exact h.openRed hfits
  | rearm sp => exact h.rearm hfits sp

/-! ## What stays true in any order -/

/-- The guard knows about its red and reserved zones, and about a yellow zone that is closed; of an
open yellow zone it may say that it is armed. -/
structure StackGuard.Admits (g : StackGuard) (z : ClosedZones) : Prop where
  red : z.red = g.redArmed
  reserved : z.reserved = g.reservedArmed
  yellow : z.yellow = true → g.yellowArmed = true

/-- No operation has the guard forget about a zone that is closed. -/
lemma StackGuard.Admits.apply {s : GuardedStack} {z : ClosedZones} (h : s.guard.Admits z)
    (op : GuardOp) : (op.apply s).guard.Admits (op.closedZones s.guard z) := by
  cases op with
  | armAll => rw [GuardOp.apply, s.armAll_guard]; exact ⟨rfl, rfl, fun _ => rfl⟩
  | lendReserved => rw [GuardOp.apply, s.lendReserved_guard]; exact ⟨h.red, rfl, fun _ => rfl⟩
  | reclaimReserved => rw [GuardOp.apply, s.reclaimReserved_guard]; exact ⟨h.red, rfl, fun _ => rfl⟩
  | openYellow => rw [GuardOp.apply, s.openYellow_guard]; exact ⟨h.red, rfl, fun hy => hy⟩
  | openRed => rw [GuardOp.apply, s.openRed_guard]; exact ⟨rfl, h.reserved, h.yellow⟩
  | rearm sp =>
    rw [GuardOp.apply, s.rearm_guard, StackGuard.rearmed, GuardOp.closedZones,
      StackGuard.closedByRearm]
    split
    · exact ⟨h.red, rfl, fun _ => rfl⟩
    · exact h

/-! ## When the guard is right -/

/-- The pages bear out what the guard says: no byte of an armed yellow zone, and none of an armed
reserved zone, can be read. -/
structure GuardedStack.Backed (s : GuardedStack) : Prop where
  yellow : s.guard.yellowArmed = true →
    ∀ w, s.guard.layout.inYellow w = true → s.pages.readable w = false
  reserved : s.guard.state = .enabled →
    ∀ w, s.guard.layout.inReserved w = true → s.pages.readable w = false

/-- A yellow zone that is not empty has a byte. -/
lemma GuardZones.Stacked.inYellow_redTop {l : GuardZones} (h : l.Stacked)
    (hsize : l.yellowSize ≠ 0) : l.inYellow l.redTop = true := by
  have htop := h.toNat_yellowTop
  have hsize' : l.yellowSize.toNat ≠ 0 := fun hzero => hsize (UInt64.toNat_inj.mp hzero)
  rw [h.inYellow_iff]
  omega

/-- A stack with zones `l`, the pages of which were those of `m`, after any operations in any
order: the zones `z` are closed, and the guard admits this. -/
structure GuardedStack.Follows (l : GuardZones) (m : AddressSpace) (z : ClosedZones)
    (s : GuardedStack) : Prop where
  closes : s.Closes l m z
  admits : s.guard.Admits z

namespace GuardedStack.Follows

variable {l : GuardZones} {m : AddressSpace} {z : ClosedZones} {s : GuardedStack}

lemma apply (hfits : l.Fits m) (h : s.Follows l m z) (op : GuardOp) :
    (op.apply s).Follows l m (op.closedZones s.guard z) where
  closes := h.closes.apply hfits op
  admits := h.admits.apply op

/-- Some zones are closed after any operations, and the guard admits it. -/
lemma run (hfits : l.Fits m) (h : s.Follows l m z) (ops : List GuardOp) :
    ∃ z', (GuardOp.run s ops).Follows l m z' := by
  induction ops generalizing s z with
  | nil => exact ⟨z, h⟩
  | cons op ops ih => exact ih (h.apply hfits op)

/-- An armed reserved zone is closed. -/
lemma reserved_closed (h : s.Follows l m z) (hstate : s.guard.state = .enabled) {w : Word}
    (hw : s.guard.layout.inReserved w = true) : s.pages.readable w = false := by
  rw [h.closes.layout] at hw
  rw [h.closes.reserved w hw, h.admits.reserved, StackGuard.reservedArmed_iff.mpr hstate]
  rfl

/-- The guard is right if yellow is closed whenever it says so. -/
lemma backed (h : s.Follows l m z) (hyellow : s.guard.yellowArmed = true → z.yellow = true) :
    s.Backed where
  yellow harmed w hw := by
    rw [h.closes.layout] at hw
    rw [h.closes.yellow w hw, hyellow harmed]
    rfl
  reserved hstate w hw := h.reserved_closed hstate hw

/-- If there is a yellow zone, this is the only way to be right. -/
lemma yellow_closed (h : s.Follows l m z) (hstacked : l.Stacked) (hsize : l.yellowSize ≠ 0)
    (hbacked : s.Backed) (harmed : s.guard.yellowArmed = true) : z.yellow = true := by
  have hw := hstacked.inYellow_redTop hsize
  have hreadable := hbacked.yellow harmed l.redTop (by rwa [h.closes.layout])
  rw [h.closes.yellow _ hw] at hreadable
  simpa using hreadable

/-- The guard stays right about yellow if the reserved zone is used only while yellow is armed. -/
lemma yellow_kept (hyellow : s.guard.yellowArmed = true → z.yellow = true) {op : GuardOp}
    (horderly : op.usesReserve = true → s.guard.yellowArmed = true) :
    (op.apply s).guard.yellowArmed = true → (op.closedZones s.guard z).yellow = true := by
  intro harmed
  cases op with
  | armAll => rfl
  | lendReserved => exact hyellow (horderly rfl)
  | reclaimReserved => exact hyellow (horderly rfl)
  | openYellow =>
    -- the guard does not say that yellow is armed any more
    rw [GuardOp.apply, s.openYellow_guard] at harmed
    exact harmed
  | openRed =>
    rw [GuardOp.apply, s.openRed_guard] at harmed
    exact hyellow harmed
  | rearm sp =>
    rw [GuardOp.apply, s.rearm_guard, StackGuard.rearmed] at harmed
    rw [GuardOp.closedZones, StackGuard.closedByRearm]
    split at harmed
    · next hrearmed =>
      rw [if_pos hrearmed, Bool.or_eq_true]
      -- of an opened guard, yellow is armed or both zones are closed
      have hopened := hrearmed.1
      rw [StackGuard.isOpened, Bool.or_eq_true] at hopened
      refine hopened.imp_left fun hlent => hyellow ?_
      rw [StackGuard.yellowArmed, hlent, Bool.or_true]
    · next hkept =>
      rw [if_neg hkept]
      exact hyellow harmed

/-- A use of the reserved zone after an overflow has the guard say that yellow is armed, which it
is not. -/
lemma not_backed (hfits : l.Fits m) (h : s.Follows l m z) (hsize : l.yellowSize ≠ 0) {op : GuardOp}
    (huses : op.usesReserve = true) (hopen : ¬s.guard.yellowArmed = true) :
    ¬(op.apply s).Backed := by
  intro hbacked
  have hyellow : ¬z.yellow = true := fun hclosed => hopen (h.admits.yellow hclosed)
  have hclosed := (h.apply hfits op).yellow_closed hfits.stacked hsize hbacked
  cases op with
  | lendReserved =>
    rw [GuardOp.apply, s.lendReserved_guard] at hclosed
    exact hyellow (hclosed rfl)
  | reclaimReserved =>
    rw [GuardOp.apply, s.reclaimReserved_guard] at hclosed
    exact hyellow (hclosed rfl)
  | armAll | openYellow | openRed | rearm => cases huses

/-- Along a sequence of operations the guard is right if and only if the sequence is orderly. -/
lemma backed_iff (hfits : l.Fits m) (h : s.Follows l m z) (hsize : l.yellowSize ≠ 0)
    (hyellow : s.guard.yellowArmed = true → z.yellow = true) (ops : List GuardOp) :
    (∀ before, before <+: ops → (GuardOp.run s before).Backed) ↔ GuardOp.Orderly s ops := by
  -- what the guard says about yellow is carried along, and is false after the first operation that
  -- is not orderly
  induction ops generalizing s z with
  | nil =>
    refine iff_of_true (fun before hbefore => ?_) trivial
    rw [List.prefix_nil.mp hbefore]
    exact h.backed hyellow
  | cons op ops ih =>
    constructor
    · intro hbacked
      have horderly : op.usesReserve = true → s.guard.yellowArmed = true := by
        intro huses
        refine Decidable.byContradiction fun hopen => ?_
        exact h.not_backed hfits hsize huses hopen (hbacked [op] (by simp))
      refine ⟨horderly, (ih (h.apply hfits op) (yellow_kept hyellow horderly)).mp ?_⟩
      exact fun before hbefore => hbacked (op :: before) (List.cons_prefix_cons.mpr ⟨rfl, hbefore⟩)
    · rintro ⟨horderly, hrest⟩ before hbefore
      cases before with
      | nil => exact h.backed hyellow
      | cons first before =>
        obtain ⟨rfl, hrun⟩ := List.cons_prefix_cons.mp hbefore
        exact (ih (h.apply hfits _) (yellow_kept hyellow horderly)).mpr hrest before hrun

end GuardedStack.Follows

section

variable {s : GuardedStack} (hfits : s.guard.layout.Fits s.pages)
  (hmode : s.guard.mode = .mprotect) (hwilling : s.pages.Willing)
include hfits hmode hwilling

/-- A stack that is armed follows. -/
lemma GuardedStack.follows_armAll :
    s.armAll.2.Follows s.guard.layout s.pages
      { red := true, yellow := true, reserved := true } where
  closes := .armAll hfits hmode hwilling
  admits := by
    rw [s.armAll_guard]
    exact ⟨rfl, rfl, fun _ => rfl⟩

/-- All along a sequence of operations on an armed stack the guard is right about what cannot be
read, if and only if the reserved zone is lent and taken back only while yellow is armed.  About the
reserved zone it is right after any operations, in whatever order: no byte of that zone can be read
while the guard says that it is armed. -/
theorem backed_iff_orderly (hsize : s.guard.layout.yellowSize ≠ 0) (ops : List GuardOp) :
    ((∀ before, before <+: ops → (GuardOp.run s.armAll.2 before).Backed) ↔
      GuardOp.Orderly s.armAll.2 ops) ∧
    ∀ w, (GuardOp.run s.armAll.2 ops).guard.state = .enabled →
      (GuardOp.run s.armAll.2 ops).guard.layout.inReserved w = true →
      (GuardOp.run s.armAll.2 ops).pages.readable w = false := by
  have hfollows := GuardedStack.follows_armAll hfits hmode hwilling
  refine ⟨hfollows.backed_iff hfits hsize (fun _ => rfl) ops, fun w hstate hw => ?_⟩
  obtain ⟨z, hrun⟩ := hfollows.run hfits ops
  exact hrun.reserved_closed hstate hw

end

/-! ## An overflow in a method that has been lent the reserved zone -/

/-- A stack of sixteen pages, the guard of which is new. -/
def GuardedStack.unarmed : GuardedStack where
  guard :=
    { layout :=
        { stackBase := 0x1000100000, stackSize := 0x10000, redSize := 0x1000, yellowSize := 0x2000
          reservedSize := 0x1000 }
      mode := .mprotect }
  pages := { low := 0x1000000000, high := 0x1000100000 }

/-- While the zone is lent an overflow opens yellow; once the stack has unwound, both zones are
armed again, and the guard is right all along. -/
theorem backed_of_rearmed_overflow :
    (GuardOp.run GuardedStack.unarmed.armAll.2 [.lendReserved, .openYellow]).Backed ∧
      (GuardOp.run GuardedStack.unarmed.armAll.2
        [.lendReserved, .openYellow, .rearm 0x10000ff000]).Backed := by
  have hbacked := (backed_iff_orderly (s := .unarmed)
    ⟨by decide, by decide, by decide, by decide, by decide, by decide⟩ rfl
    (fun _ hmem => absurd hmem List.not_mem_nil) (by decide)
    [.lendReserved, .openYellow, .rearm 0x10000ff000]).1.mpr (by decide)
  exact ⟨hbacked _ ⟨[.rearm 0x10000ff000], rfl⟩, hbacked _ (List.prefix_refl _)⟩

/-- If the zone is taken back instead, the guard says that both zones are armed, and yellow can be
read. -/
theorem unbacked_of_reclaimed_overflow :
    let s := GuardOp.run GuardedStack.unarmed.armAll.2
      [.lendReserved, .openYellow, .reclaimReserved]
    s.guard.state = .enabled ∧ s.guard.layout.inYellow 0x10000f1000 = true ∧
      s.pages.readable 0x10000f1000 = true ∧ ¬s.Backed := by
  refine ⟨rfl, rfl, rfl, fun hbacked => ?_⟩
  exact absurd (hbacked.yellow rfl 0x10000f1000 rfl) (by decide)

end ManagedFaults
