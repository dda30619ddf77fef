import ManagedFaults.Frame.Basic
import ManagedFaults.Word
import ManagedFaults.Stack.Zones

/-!
# The native frame chain

A frame record is two words at the frame pointer: the caller's frame pointer and the return
address.  Following the records leads from a frame to its callers.  A record is read only once it
is known to lie on the stack, and a link is followed only if it leads up the stack
(`fp_lt_of_caller?`), so the whole `chain` of a frame is finite whatever memory holds.

Every function answers `none` if it reads where memory is not defined.
-/

namespace ManagedFaults

namespace Frame

/-- Bytes of a frame record. -/
def recordBytes : Nat := 16

/-- Whether the frame pointer is one that a record may be read at: an aligned address, not below
the stack pointer, with the whole record on the stack. -/
def hasRecord (bounds : StackRange) (fr : Frame) : Bool :=
  fr.fp != 0 && fr.fp.isAligned && decide (fr.sp ≤ fr.fp) && decide (bounds.low ≤ fr.fp)
    && decide (fr.fp.toNat + recordBytes ≤ bounds.base.toNat)

/-- Whether a record leads on: its link is an aligned address above the frame pointer and below
the base of the stack, and its return address is not zero. -/
def leadsOn (bounds : StackRange) (fr : Frame) (link returnAddress : Word) : Bool :=
  link != 0 && link.isAligned && decide (fr.fp < link) && decide (link < bounds.base)
    && returnAddress != 0

/-- The caller that the record at the frame pointer names, trusted or not. -/
def recorded (mem : Memory) (fr : Frame) : Option Frame := do
  let link ← mem fr.fp
  let returnAddress ← mem (fr.fp + Word.bytes)
  return { sp := link, fp := link, pc := returnAddress }

/-- The caller, if the record of the frame can be trusted. -/
def caller? (mem : Memory) (bounds : StackRange) (fr : Frame) : Option (Option Frame) :=
  if fr.hasRecord bounds then do
    let next ← fr.recorded mem
    return if fr.leadsOn bounds next.fp next.pc then some next else none
  else
    return none

/-- Whether the frame is the outermost one of the chain. -/
def isOutermost (mem : Memory) (bounds : StackRange) (fr : Frame) : Option Bool :=
  (fr.caller? mem bounds).map Option.isNone

/-- The caller, or the empty frame past the outermost one. -/
def callerOrEmpty (mem : Memory) (bounds : StackRange) (fr : Frame) : Option Frame :=
  if fr.isEmpty then
    return empty
  else
    (fr.caller? mem bounds).map fun next => next.getD empty

/-- A caller lies above the frame it was reached from, and below the base of the stack. -/
theorem fp_lt_of_caller? {mem : Memory} {bounds : StackRange} {fr next : Frame}
    (h : fr.caller? mem bounds = some (some next)) : fr.fp < next.fp ∧ next.fp < bounds.base := by
  unfold caller? at h
  split at h
  · cases hr : fr.recorded mem with
    | none => simp [hr] at h
    | some r =>
      simp only [hr, Option.bind_eq_bind, Option.bind_some, Option.pure_def, Option.some.injEq,
        Option.ite_none_right_eq_some] at h
      obtain ⟨hl, rfl⟩ := h
      simp only [leadsOn, Bool.and_eq_true, decide_eq_true_eq] at hl
      exact ⟨hl.1.1.2, hl.1.2⟩
  · simp at h

/-- The frames of the chain from `start` on. -/
def chain (mem : Memory) (bounds : StackRange) (start : Frame) : Option (List Frame) :=
  if start.isEmpty then
    some []
  else
    match _h : start.caller? mem bounds with
    | none => none
    | some none => some [start]
    | some (some next) => (chain mem bounds next).map (start :: ·)
termination_by bounds.base.toNat - start.fp.toNat
decreasing_by
  have := fp_lt_of_caller? _h
  simp only [UInt64.lt_iff_toNat_lt] at this
  omega

/-- The frames of the chain from `start` on, at most `limit` of them. -/
def walk (mem : Memory) (bounds : StackRange) : Nat → Frame → Option (List Frame)
  | 0, _ => some []
  | limit + 1, start =>
    if start.isEmpty then
      some []
    else do
      let next ← start.callerOrEmpty mem bounds
      let rest ← walk mem bounds limit next
      return start :: rest

end Frame

end ManagedFaults
