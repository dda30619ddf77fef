import ManagedFaults.Frame.Chain
import ManagedFaults.Proofs.Memory
import ManagedFaults.Proofs.Stack.Pages
import Mathlib.Data.List.Chain

/-!
# Walks along the native frame chain

Whatever the stack holds, a walk along the frame chain ends.  A record leads to a caller only if the
caller lies on the stack and at least a word higher (`Frame.LeadsTo`), so that a stack has room for
few frames, and a walk that stops at a limit has visited the first ones of the whole chain
(`walk_of_any_memory`).
-/

namespace ManagedFaults

/-- Every aligned word of a stack can be read. -/
def Memory.Covers (mem : Memory) (bounds : StackRange) : Prop :=
  ∀ a : Word, a.isAligned = true → bounds.low ≤ a →
    a.toNat + Word.bytes.toNat ≤ bounds.base.toNat → ∃ w, mem a = some w

lemma Word.toNat_bytes : Word.bytes.toNat = 8 :=
  rfl

lemma Word.isAligned_iff {a : Word} : a.isAligned = true ↔ a.toNat % 8 = 0 := by
  unfold isAligned
  rw [beq_iff_eq, ← UInt64.toNat_inj, UInt64.toNat_mod, toNat_bytes, UInt64.toNat_zero]

/-- An aligned word that lies on a stack with all its bytes. -/
structure StackRange.HasWord (bounds : StackRange) (a : Word) : Prop where
  aligned : a.isAligned = true
  low_le : bounds.low ≤ a
  below : a.toNat + Word.bytes.toNat ≤ bounds.base.toNat

lemma Memory.Covers.word {mem : Memory} {bounds : StackRange} (h : mem.Covers bounds) {a : Word}
    (ha : bounds.HasWord a) : ∃ w, mem a = some w :=
  h a ha.aligned ha.low_le ha.below

namespace Frame

/-! ## Records -/

/-- The frame pointer is one that a record may be read at. -/
structure HasRecord (bounds : StackRange) (fr : Frame) : Prop where
  aligned : fr.fp.isAligned = true
  sp_le : fr.sp ≤ fr.fp
  low_le : bounds.low ≤ fr.fp
  below : fr.fp.toNat + recordBytes ≤ bounds.base.toNat

lemma HasRecord.of_hasRecord {bounds : StackRange} {fr : Frame} (h : fr.hasRecord bounds = true) :
    fr.HasRecord bounds := by
  unfold hasRecord at h
  simp only [Bool.and_eq_true, decide_eq_true_eq] at h
  obtain ⟨⟨⟨⟨_, haligned⟩, hsp⟩, hlow⟩, hbelow⟩ := h
  exact ⟨haligned, hsp, hlow, hbelow⟩

/-- The words of the record at the frame pointer, if there may be one. -/
def recordWords (bounds : StackRange) (fr : Frame) : List Word :=
  if fr.hasRecord bounds then [fr.fp, fr.fp + Word.bytes] else []

/-- The second word of a record is where it should be: the addition does not wrap. -/
lemma HasRecord.toNat_returnAddress {bounds : StackRange} {fr : Frame} (h : fr.HasRecord bounds) :
    (fr.fp + Word.bytes).toNat = fr.fp.toNat + 8 := by
  have hbelow : fr.fp.toNat + 16 ≤ bounds.base.toNat := h.below
  refine Word.toNat_add_of_le (c := bounds.base) ?_
  rw [Word.toNat_bytes]
  omega

/-- The words of a record are words of the stack. -/
lemma hasWord_of_mem_recordWords {bounds : StackRange} {fr : Frame} {a : Word}
    (ha : a ∈ fr.recordWords bounds) : bounds.HasWord a := by
  unfold recordWords at ha
  split at ha
  · next hrecord =>
    have hrecord := HasRecord.of_hasRecord hrecord
    have hbelow : fr.fp.toNat + 16 ≤ bounds.base.toNat := hrecord.below
    have hadd := hrecord.toNat_returnAddress
    have haligned := Word.isAligned_iff.mp hrecord.aligned
    have hlow := UInt64.le_iff_toNat_le.mp hrecord.low_le
    simp only [List.mem_cons, List.not_mem_nil, or_false] at ha
    rcases ha with rfl | rfl
    · refine ⟨hrecord.aligned, hrecord.low_le, ?_⟩
      rw [Word.toNat_bytes]
      omega
    · refine ⟨Word.isAligned_iff.mpr (by omega), UInt64.le_iff_toNat_le.mpr (by omega), ?_⟩
      rw [Word.toNat_bytes]
      omega
  · simp at ha

/-- Looking for the caller reads the record, if there may be one, and nothing else. -/
lemma reads_caller? (bounds : StackRange) (fr : Frame) :
    Memory.Reads (fun mem => fr.caller? mem bounds) (fr.recordWords bounds) := by
  have hrecorded : Memory.Reads (fun mem => fr.recorded mem) [fr.fp, fr.fp + Word.bytes] :=
    (Memory.reads_word fr.fp).bind fun link => (Memory.reads_word (fr.fp + Word.bytes)).andThen
      fun returnAddress => ({ sp := link, fp := link, pc := returnAddress } : Frame)
  unfold caller? recordWords
  split
  · exact hrecorded.andThen fun next =>
      if fr.leadsOn bounds next.fp next.pc then some next else none
  · exact Memory.reads_nothing none

/-- What is known of a frame and a caller that its record leads to. -/
structure LeadsTo (bounds : StackRange) (fr next : Frame) : Prop where
  low_le : bounds.low ≤ fr.fp
  sp_le : fr.sp ≤ fr.fp
  rises : fr.fp.toNat + Word.bytes.toNat ≤ next.fp.toNat
  below : next.fp < bounds.base
  sp_eq : next.sp = next.fp
  aligned : next.fp.isAligned = true
  pc_ne : next.pc ≠ 0

variable {mem : Memory} {bounds : StackRange} {fr next start : Frame} {frames : List Frame}

/-- Aligned words that differ are at least a word apart. -/
private lemma rises_of_lt {a b : Word} (ha : a.isAligned = true) (hb : b.isAligned = true)
    (hlt : a < b) : a.toNat + Word.bytes.toNat ≤ b.toNat := by
  rw [Word.isAligned_iff] at ha hb
  rw [UInt64.lt_iff_toNat_lt] at hlt
  rw [Word.toNat_bytes]
  omega

/-- A caller has been checked. -/
lemma leadsTo_of_caller? (h : fr.caller? mem bounds = some (some next)) :
    fr.LeadsTo bounds next := by
  unfold caller? at h
  split at h
  · next hrecord =>
    have hrecord := HasRecord.of_hasRecord hrecord
    cases hlink : mem fr.fp with
    | none => simp [recorded, hlink] at h
    | some link =>
      cases hreturn : mem (fr.fp + Word.bytes) with
      | none => simp [recorded, hlink, hreturn] at h
      | some pc =>
        simp only [recorded, hlink, hreturn, Option.bind_eq_bind, Option.bind_some,
          Option.pure_def, Option.some.injEq, Option.ite_none_right_eq_some] at h
        obtain ⟨hleads, rfl⟩ := h
        simp only [leadsOn, Bool.and_eq_true, decide_eq_true_eq, bne_iff_ne] at hleads
        obtain ⟨⟨⟨⟨_, haligned⟩, hrises⟩, hbelow⟩, hpc⟩ := hleads
        exact ⟨hrecord.low_le, hrecord.sp_le, rises_of_lt hrecord.aligned haligned hrises, hbelow,
          rfl, haligned, hpc⟩
  · simp at h

namespace LeadsTo

/-- A caller lies on the stack. -/
lemma contains (h : fr.LeadsTo bounds next) : bounds.contains next.fp = true := by
  have hrises := h.rises
  have hlow := h.low_le
  unfold StackRange.contains
  rw [UInt64.le_iff_toNat_le] at hlow
  simp only [Bool.and_eq_true, decide_eq_true_eq]
  refine ⟨h.below, UInt64.le_iff_toNat_le.mpr ?_⟩
  omega

/-- A caller has a higher stack pointer. -/
lemma sp_lt (h : fr.LeadsTo bounds next) : fr.sp < next.sp := by
  have hrises := h.rises
  have hsp := h.sp_le
  rw [h.sp_eq, UInt64.lt_iff_toNat_lt]
  rw [UInt64.le_iff_toNat_le] at hsp
  rw [Word.toNat_bytes] at hrises
  omega

lemma not_isEmpty (h : fr.LeadsTo bounds next) : next.isEmpty = false := by
  have hpc : (next.pc == 0) = false := beq_false_of_ne h.pc_ne
  unfold isEmpty
  rw [hpc, Bool.and_false]

end LeadsTo

/-- Frames with rising stack pointers are in order. -/
lemma cmp_of_sp_lt {a b : Frame} (h : a.sp < b.sp) : a.cmp b = .lt := by
  have hsp : compare a.sp b.sp = .lt := if_pos h
  unfold cmp
  rw [hsp]
  rfl

/-! ## Visited frames -/

/-- The frames that a walk without limit visits: each one leads to the next, and the last one to
none. -/
inductive Visits (mem : Memory) (bounds : StackRange) : Frame → List Frame → Prop
  | nothing {start : Frame} (empty : start.isEmpty = true) : Visits mem bounds start []
  | outermost {start : Frame} (present : start.isEmpty = false)
      (last : start.caller? mem bounds = some none) : Visits mem bounds start [start]
  | caller {start next : Frame} {rest : List Frame} (present : start.isEmpty = false)
      (leads : start.caller? mem bounds = some (some next)) (visits : Visits mem bounds next rest) :
      Visits mem bounds start (start :: rest)

/-- The chain is what a walk without limit visits. -/
lemma visits_of_chain (h : start.chain mem bounds = some frames) :
    Visits mem bounds start frames := by
  fun_induction chain mem bounds start generalizing frames with
  | case1 start hempty =>
    obtain rfl := Option.some.inj h
    exact .nothing hempty
  | case2 start _ hnone => simp at h
  | case3 start hpresent hlast =>
    obtain rfl := Option.some.inj h
    exact .outermost (Bool.eq_false_iff.mpr hpresent) hlast
  | case4 start hpresent next hleads ih =>
    obtain ⟨rest, hrest, rfl⟩ := Option.map_eq_some_iff.mp h
    exact .caller (Bool.eq_false_iff.mpr hpresent) hleads (ih hrest)

/-- What a walk without limit visits is the chain. -/
lemma Visits.chain_eq (h : Visits mem bounds start frames) :
    start.chain mem bounds = some frames := by
  induction h with
  | nothing hempty =>
    unfold chain
    rw [if_pos hempty]
  | @outermost start hpresent hlast =>
    unfold chain
    rw [if_neg (by simp [hpresent])]
    split
    · next hnone => simp [hlast] at hnone
    · rfl
    · next hleads => simp [hlast] at hleads
  | @caller start next rest hpresent hleads _ ih =>
    unfold chain
    rw [if_neg (by simp [hpresent])]
    split
    · next hnone => simp [hleads] at hnone
    · next hlast => simp [hleads] at hlast
    · next next' hleads' =>
      obtain rfl : next = next' := by simpa [hleads] using hleads'
      rw [ih, Option.map_some]

/-- A record is read only where memory is defined, if the whole stack is. -/
lemma caller?_of_covers (hmem : mem.Covers bounds) (fr : Frame) :
    ∃ r, fr.caller? mem bounds = some r :=
  (reads_caller? bounds fr).answers fun _ ha => hmem.word (hasWord_of_mem_recordWords ha)

/-- On a stack that can be read, every walk visits some frames. -/
lemma chain_of_covers (hmem : mem.Covers bounds) (start : Frame) :
    ∃ frames, start.chain mem bounds = some frames := by
  fun_induction chain mem bounds start with
  | case1 start hempty => exact ⟨[], rfl⟩
  | case2 start _ hnone =>
    obtain ⟨r, hr⟩ := caller?_of_covers hmem start
    rw [hnone] at hr
    simp at hr
  | case3 start _ hlast => exact ⟨[start], rfl⟩
  | case4 start _ next _ ih =>
    obtain ⟨rest, hrest⟩ := ih
    exact ⟨start :: rest, by rw [hrest, Option.map_some]⟩

namespace Visits

/-- A frame that is not empty is visited first. -/
lemma eq_cons (h : Visits mem bounds start frames) (hpresent : start.isEmpty = false) :
    ∃ rest, frames = start :: rest := by
  cases h with
  | nothing hempty => simp [hempty] at hpresent
  | outermost _ _ => exact ⟨[], rfl⟩
  | caller _ _ _ => exact ⟨_, rfl⟩

lemma head?_eq (h : Visits mem bounds start frames) :
    frames.head? = if start.isEmpty then none else some start := by
  cases h with
  | nothing hempty => rw [if_pos hempty, List.head?_nil]
  | outermost hpresent _ => rw [hpresent, List.head?_cons, if_neg Bool.false_ne_true]
  | caller hpresent _ _ => rw [hpresent, List.head?_cons, if_neg Bool.false_ne_true]

/-- What holds of each frame that leads on and of its caller holds along the chain. -/
lemma isChain {R : Frame → Frame → Prop}
    (hR : ∀ fr next : Frame, fr.isEmpty = false → fr.caller? mem bounds = some (some next) →
      R fr next)
    (h : Visits mem bounds start frames) : frames.IsChain R := by
  induction h with
  | nothing _ => exact List.IsChain.nil
  | outermost _ _ => exact List.IsChain.singleton _
  | @caller start next rest hpresent hleads hvisits ih =>
    obtain ⟨more, rfl⟩ := hvisits.eq_cons (leadsTo_of_caller? hleads).not_isEmpty
    exact List.IsChain.cons_cons (hR start next hpresent hleads) ih

/-- The stack pointers rise along the chain. -/
lemma rising (h : Visits mem bounds start frames) :
    frames.Pairwise fun a b => a.sp < b.sp := by
  have hchain : frames.IsChain fun a b => a.sp < b.sp :=
    h.isChain fun _ _ _ hleads => (leadsTo_of_caller? hleads).sp_lt
  have : Trans (fun a b : Frame => a.sp < b.sp) (fun a b : Frame => a.sp < b.sp)
      (fun a b : Frame => a.sp < b.sp) := ⟨UInt64.lt_trans⟩
  exact hchain.pairwise

/-- Only the last frame is the outermost one. -/
lemma last (h : Visits mem bounds start frames) :
    (∀ fr ∈ frames.getLast?, fr.isEmpty = false ∧ fr.caller? mem bounds = some none) ∧
    ∀ fr ∈ frames.dropLast, fr.isOutermost mem bounds = some false := by
  induction h with
  | nothing _ => exact ⟨by simp, by simp⟩
  | outermost hpresent hlast => exact ⟨by simpa using ⟨hpresent, hlast⟩, by simp⟩
  | @caller start next rest hpresent hleads hvisits ih =>
    obtain ⟨more, rfl⟩ := hvisits.eq_cons (leadsTo_of_caller? hleads).not_isEmpty
    refine ⟨by simpa using ih.1, fun fr hfr => ?_⟩
    rw [List.dropLast_cons_cons] at hfr
    rcases List.mem_cons.mp hfr with rfl | hfr
    · unfold isOutermost
      rw [hleads]
      rfl
    · exact ih.2 fr hfr

/-- Every frame but the first one was led to. -/
lemma led (h : Visits mem bounds start frames) :
    ∀ next ∈ frames.tail, ∃ fr : Frame, fr.LeadsTo bounds next := by
  induction h with
  | nothing _ => simp
  | outermost _ _ => simp
  | @caller start next rest hpresent hleads hvisits ih =>
    have hled := leadsTo_of_caller? hleads
    obtain ⟨more, rfl⟩ := hvisits.eq_cons hled.not_isEmpty
    intro fr hfr
    rcases List.mem_cons.mp hfr with rfl | hfr
    · exact ⟨start, hled⟩
    · exact ih fr hfr

/-- A walk of several frames starts on the stack, and each of them but the last takes a word. -/
private lemma room (h : Visits mem bounds start frames) :
    frames.length ≤ 1 ∨ bounds.low ≤ start.fp ∧
      start.fp.toNat + Word.bytes.toNat * (frames.length - 1) < bounds.base.toNat := by
  induction h with
  | nothing _ => exact .inl (Nat.zero_le 1)
  | outermost _ _ => exact .inl (Nat.le_refl 1)
  | @caller start next rest hpresent hleads hvisits ih =>
    have hled := leadsTo_of_caller? hleads
    have hrises := hled.rises
    have hbelow : next.fp.toNat < bounds.base.toNat := hled.below
    rw [Word.toNat_bytes] at *
    refine .inr ⟨hled.low_le, ?_⟩
    rw [List.length_cons, Nat.add_sub_cancel]
    rcases ih with hfew | ⟨_, hmany⟩
    · omega
    · omega

/-- A stack has room for no more frames than words, and one more. -/
lemma length_le (h : Visits mem bounds start frames) (hsize : bounds.size ≤ bounds.base) :
    frames.length ≤ 1 + bounds.size.toNat / 8 := by
  rcases h.room with hfew | ⟨hlow, hmany⟩
  · omega
  · have hend : bounds.low.toNat = bounds.base.toNat - bounds.size.toNat :=
      UInt64.toNat_sub_of_le _ _ hsize
    rw [UInt64.le_iff_toNat_le] at hlow hsize
    rw [Word.toNat_bytes] at hmany
    omega

/-- A walk with a limit visits the first frames. -/
lemma walk_eq (h : Visits mem bounds start frames) (limit : Nat) :
    walk mem bounds limit start = some (frames.take limit) := by
  induction h generalizing limit with
  | nothing hempty => cases limit <;> simp [walk, hempty]
  | outermost hpresent hlast =>
    cases limit with
    | zero => rfl
    | succ limit =>
      have hpast : walk mem bounds limit empty = some [] := by cases limit <;> rfl
      simp [walk, callerOrEmpty, hpresent, hlast, hpast]
  | caller hpresent hleads _ ih =>
    cases limit with
    | zero => rfl
    | succ limit => simp [walk, callerOrEmpty, hpresent, hleads, ih limit]

end Visits

end Frame

/-- On a stack that can be read, whatever it holds, there are finitely many frames to visit from a
start frame, and no more than there are words on the stack and one more.  A walk visits the first
ones of these up to its limit.  They begin with the start frame, unless that is empty, each is the
caller of the one before, and they end at the first one that is outermost.  Their stack pointers
rise, and each that was led to has an aligned frame pointer on the stack, which is its stack
pointer, and a program counter. -/
theorem walk_of_any_memory {mem : Memory} {bounds : StackRange}
    (hsize : bounds.size ≤ bounds.base) (hmem : mem.Covers bounds) (start : Frame) :
    ∃ frames, start.chain mem bounds = some frames ∧
      frames.length ≤ 1 + bounds.size.toNat / 8 ∧
      (∀ limit, start.walk mem bounds limit = some (frames.take limit)) ∧
      frames.head? = (if start.isEmpty then none else some start) ∧
      frames.IsChain (fun fr next => fr.callerOrEmpty mem bounds = some next) ∧
      (∀ fr ∈ frames.dropLast, fr.isOutermost mem bounds = some false) ∧
      (∀ fr ∈ frames.getLast?, fr.isOutermost mem bounds = some true ∧
        fr.callerOrEmpty mem bounds = some Frame.empty) ∧
      frames.Pairwise (fun a b => a.cmp b = .lt ∧ a.sp < b.sp) ∧
      ∀ fr ∈ frames.tail, fr.sp = fr.fp ∧ fr.fp.isAligned = true ∧
        bounds.contains fr.fp = true ∧ fr.pc ≠ 0 := by
  obtain ⟨frames, hchain⟩ := Frame.chain_of_covers hmem start
  have hvisits := Frame.visits_of_chain hchain
  refine ⟨frames, hchain, hvisits.length_le hsize, hvisits.walk_eq, hvisits.head?_eq,
    hvisits.isChain fun fr next hpresent hleads => ?_, hvisits.last.2, fun fr hfr => ?_,
    hvisits.rising.imp fun hsp => ⟨Frame.cmp_of_sp_lt hsp, hsp⟩, fun fr hfr => ?_⟩
  · unfold Frame.callerOrEmpty
    rw [hpresent, hleads]
    rfl
  · obtain ⟨hpresent, hlast⟩ := hvisits.last.1 fr hfr
    unfold Frame.isOutermost Frame.callerOrEmpty
    rw [hpresent, hlast]
    exact ⟨rfl, rfl⟩
  · obtain ⟨from_, hled⟩ := hvisits.led fr hfr
    exact ⟨hled.sp_eq, hled.aligned, hled.contains, hled.pc_ne⟩

/-- A stack of sixteen pages. -/
def StackRange.sixteenPages : StackRange :=
  { base := 0x1000010000, size := 0x10000 }

/-- A stack with three records, the last of which links to itself. -/
def Memory.selfLinked : Memory :=
  Memory.zeroed 0x1000000000 0x1000010000
    [(0x1000001000, 0x1000001040), (0x1000001008, 0x400200),
     (0x1000001040, 0x10000010a0), (0x1000001048, 0x400300),
     (0x10000010a0, 0x10000010a0), (0x10000010a8, 0x400400)]

lemma Memory.selfLinked_covers : Memory.selfLinked.Covers .sixteenPages := by
  intro a _ hlow hbelow
  have hbase : a.toNat + Word.bytes.toNat ≤ (0x1000010000 : Word).toNat := hbelow
  have hlt : a < 0x1000010000 := by
    rw [UInt64.lt_iff_toNat_lt]
    rw [Word.toNat_bytes] at hbase
    omega
  exact ⟨_, if_pos ⟨hlow, hlt⟩⟩

/-- A walk visits the three frames with records, and does not follow the link of the last one. -/
theorem self_linked_chain :
    Frame.chain .selfLinked .sixteenPages { sp := 0x1000000ff0, fp := 0x1000001000, pc := 0x400100 }
      = some
        [{ sp := 0x1000000ff0, fp := 0x1000001000, pc := 0x400100 },
         { sp := 0x1000001040, fp := 0x1000001040, pc := 0x400200 },
         { sp := 0x10000010a0, fp := 0x10000010a0, pc := 0x400300 }] := by
  obtain ⟨frames, hchain, -, hwalk, -⟩ := walk_of_any_memory (by decide) Memory.selfLinked_covers
    { sp := 0x1000000ff0, fp := 0x1000001000, pc := 0x400100 }
  have hfour : some (frames.take 4) = some
      [{ sp := 0x1000000ff0, fp := 0x1000001000, pc := 0x400100 },
       { sp := 0x1000001040, fp := 0x1000001040, pc := 0x400200 },
       { sp := 0x10000010a0, fp := 0x10000010a0, pc := 0x400300 }] := (hwalk 4).symm.trans rfl
  rw [Option.some.injEq] at hfour
  -- a walk with room for a fourth frame has visited three, so there is no fourth
  have hlength := congrArg List.length hfour
  rw [List.length_take] at hlength
  rw [hchain, ← hfour, List.take_of_length_le (by simp at hlength; omega)]

end ManagedFaults
