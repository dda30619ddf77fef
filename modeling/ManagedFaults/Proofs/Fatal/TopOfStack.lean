import ManagedFaults.Fatal.Report
import ManagedFaults.Proofs.Frame.Chain

/-!
# What diagnostics read of a stack

The registers of a trap that cannot be recovered may hold anything, and so may the records on its
stack.  Each word that is read on their account is first known to be a word of the stack: a walk
along the frames reads records only (`Frame.reads_caller?`), and the report reads the words it
shows (`FatalReport.reads_topOfStack`).  So memory may be defined on the stack alone
(`diagnostics_stay_on_stack`).
-/

namespace ManagedFaults

/-- Memory that is defined on the aligned words of a stack, and nowhere else.  The stack ends below
an aligned address. -/
structure Memory.OnlyStack (mem : Memory) (bounds : StackRange) : Prop where
  base_aligned : bounds.base.isAligned = true
  size_le : bounds.size ≤ bounds.base
  isSome_iff : ∀ a, (mem a).isSome = true ↔ a.isAligned = true ∧ bounds.contains a = true

lemma StackRange.contains_iff {bounds : StackRange} {a : Word} :
    bounds.contains a = true ↔ a < bounds.base ∧ bounds.low ≤ a := by
  unfold contains
  simp only [Bool.and_eq_true, decide_eq_true_eq]

/-- The words of a stack are the aligned addresses on it, if it ends at an aligned one. -/
lemma StackRange.hasWord_iff {bounds : StackRange} (hbase : bounds.base.isAligned = true)
    {a : Word} : bounds.HasWord a ↔ a.isAligned = true ∧ bounds.contains a = true := by
  rw [contains_iff]
  constructor
  · rintro ⟨haligned, hlow, hbelow⟩
    rw [Word.toNat_bytes] at hbelow
    refine ⟨haligned, UInt64.lt_iff_toNat_lt.mpr ?_, hlow⟩
    omega
  · rintro ⟨haligned, hlt, hlow⟩
    refine ⟨haligned, hlow, ?_⟩
    rw [Word.isAligned_iff] at haligned hbase
    rw [UInt64.lt_iff_toNat_lt] at hlt
    rw [Word.toNat_bytes]
    omega

lemma Memory.OnlyStack.covers {mem : Memory} {bounds : StackRange} (h : mem.OnlyStack bounds) :
    mem.Covers bounds := by
  intro a haligned hlow hbelow
  rw [← Option.isSome_iff_exists, h.isSome_iff, ← StackRange.hasWord_iff h.base_aligned]
  exact ⟨haligned, hlow, hbelow⟩

/-! ## Frames -/

namespace Frame

lemma reads_isOutermost (bounds : StackRange) (fr : Frame) :
    Memory.Reads (fun mem => fr.isOutermost mem bounds) (fr.recordWords bounds) :=
  (reads_caller? bounds fr).map Option.isNone

/-- The empty frame has no record, so it makes no difference that none is looked for. -/
lemma reads_callerOrEmpty (bounds : StackRange) (fr : Frame) :
    Memory.Reads (fun mem => fr.callerOrEmpty mem bounds) (fr.recordWords bounds) := by
  have hsome := (reads_caller? bounds fr).map fun next => next.getD empty
  unfold callerOrEmpty
  cases hempty : fr.isEmpty with
  | false => exact hsome
  | true =>
    have hnone : fr.recordWords bounds = [] := by
      unfold isEmpty at hempty
      simp only [Bool.and_eq_true, beq_iff_eq] at hempty
      unfold recordWords hasRecord
      rw [hempty.1.2]
      rfl
    rw [hnone]
    exact Memory.reads_nothing empty

end Frame

/-! ## The words that are shown -/

namespace FatalReport

variable {stack : StackRange} {sp : Word} {trap : UnrecoverableTrap} {mem : Memory}

/-- A word of the stack, counted from a stack pointer. -/
def stackWord (sp : Word) (k : Nat) : Word :=
  sp + UInt64.ofNat k * Word.bytes

/-- The words at the top of the stack, as many as are shown. -/
def topWords (sp : Word) : List Word :=
  (List.range stackWords).map (stackWord sp)

/-- The words of the stack that are shown about a trap. -/
def shownWords (trap : UnrecoverableTrap) : List Word :=
  match trap.stack with
  | none => []
  | some stack => if showsStack stack trap.registers.sp then topWords trap.registers.sp else []

/-- The top of a stack has room for the words to show. -/
structure HasRoom (stack : StackRange) (sp : Word) : Prop where
  aligned : sp.isAligned = true
  contains : stack.contains sp = true
  fits : sp.toNat + 64 ≤ stack.base.toNat

/-- The top of the stack is shown if and only if it has room.  A sum that is cut off at the largest
word is above the base, since the largest word is not aligned. -/
lemma showsStack_iff (hbase : stack.base.isAligned = true) :
    showsStack stack sp = true ↔ HasRoom stack sp := by
  have hbytes : (UInt64.ofNat stackWords * Word.bytes).toNat = 64 := rfl
  have hend : sp.saturatingAdd (UInt64.ofNat stackWords * Word.bytes) ≤ stack.base ↔
      sp.toNat + 64 ≤ stack.base.toNat := by
    have hlt := stack.base.toNat_lt
    rw [Word.isAligned_iff] at hbase
    rw [UInt64.le_iff_toNat_le, Word.saturatingAdd, hbytes]
    split
    · next hsum => rw [UInt64.toNat_add, hbytes, Nat.mod_eq_of_lt hsum]
    · next hsum =>
      have hmax : Word.max.toNat = 18446744073709551615 := rfl
      have hsize : UInt64.size = 18446744073709551616 := rfl
      omega
  unfold showsStack
  rw [Bool.and_eq_true, Bool.and_eq_true, decide_eq_true_eq, hend]
  constructor
  · rintro ⟨⟨haligned, hcontains⟩, hfits⟩
    exact ⟨haligned, hcontains, hfits⟩
  · rintro ⟨haligned, hcontains, hfits⟩
    exact ⟨⟨haligned, hcontains⟩, hfits⟩

/-- The next word is a word further. -/
lemma stackWord_succ (sp : Word) (k : Nat) :
    stackWord sp k + Word.bytes = stackWord sp (k + 1) := by
  unfold stackWord
  rw [UInt64.ofNat_add, UInt64.add_mul, ← UInt64.add_assoc]
  rfl

/-- No address of a word that is shown wraps around. -/
lemma HasRoom.toNat_stackWord (h : HasRoom stack sp) {k : Nat} (hk : k < stackWords) :
    (stackWord sp k).toNat = sp.toNat + 8 * k := by
  have hfits := h.fits
  have hlt := stack.base.toNat_lt
  have hk : k < 8 := hk
  unfold stackWord
  rw [UInt64.toNat_add, UInt64.toNat_mul, Word.toNat_bytes,
    UInt64.toNat_ofNat_of_lt' (by show k < 2 ^ 64; omega)]
  omega

/-- The words that are shown are words of the stack. -/
lemma HasRoom.hasWord (h : HasRoom stack sp) {a : Word} (ha : a ∈ topWords sp) :
    stack.HasWord a := by
  obtain ⟨k, hk, rfl⟩ := List.mem_map.mp ha
  have hk : k < 8 := List.mem_range.mp hk
  have hfits := h.fits
  have hlow := (StackRange.contains_iff.mp h.contains).2
  have haligned := h.aligned
  have hword := h.toNat_stackWord hk
  rw [Word.isAligned_iff] at haligned
  rw [UInt64.le_iff_toNat_le] at hlow
  refine ⟨Word.isAligned_iff.mpr ?_, UInt64.le_iff_toNat_le.mpr ?_, ?_⟩
  · omega
  · omega
  · rw [Word.toNat_bytes]
    omega

lemma reads_stackRow (address : Word) :
    Memory.Reads (fun mem => stackRow mem address) [address, address + Word.bytes] :=
  (Memory.reads_word address).bind fun a => (Memory.reads_word (address + Word.bytes)).andThen
    fun b => address.hex16 ++ ":   " ++ a.hex16 ++ " " ++ b.hex16

/-- The rows show the words two by two. -/
lemma flatMap_rows (sp : Word) :
    ((List.range (stackWords / 2)).flatMap fun row =>
      [stackWord sp (2 * row), stackWord sp (2 * row) + Word.bytes]) = topWords sp := by
  simp only [stackWord_succ]
  rfl

/-- The report reads the words of the stack that it shows, and nothing else. -/
lemma reads_topOfStack (trap : UnrecoverableTrap) :
    Memory.Reads (fun mem => topOfStack mem trap) (shownWords trap) := by
  unfold topOfStack shownWords
  cases trap.stack with
  | none => exact Memory.reads_nothing _
  | some stack =>
    dsimp only
    split
    · have hrows := Memory.Reads.mapM (List.range (stackWords / 2)) fun row _ =>
        reads_stackRow (stackWord trap.registers.sp (2 * row))
      rw [flatMap_rows] at hrows
      exact hrows.andThen fun rows => _ :: rows ++ [""]
    · exact Memory.reads_nothing _

lemma shownWords_of_shows (hstack : trap.stack = some stack)
    (hshows : showsStack stack trap.registers.sp = true) :
    shownWords trap = topWords trap.registers.sp := by
  unfold shownWords
  rw [hstack]
  exact if_pos hshows

/-- The words that are shown are words of the stack of the trap. -/
lemma hasWord_of_mem_shownWords
    (hbase : ∀ stack, trap.stack = some stack → stack.base.isAligned = true) {a : Word}
    (ha : a ∈ shownWords trap) : ∃ stack, trap.stack = some stack ∧ stack.HasWord a := by
  unfold shownWords at ha
  cases hstack : trap.stack with
  | none => simp [hstack] at ha
  | some stack =>
    rw [hstack] at ha
    dsimp only at ha
    split at ha
    · next hshows =>
      exact ⟨stack, rfl, ((showsStack_iff (hbase stack hstack)).mp hshows).hasWord ha⟩
    · simp at ha

/-- The top of a stack that can be read can be shown. -/
lemma topOfStack_of_covers
    (h : ∀ stack, trap.stack = some stack → stack.base.isAligned = true ∧ mem.Covers stack) :
    ∃ lines, topOfStack mem trap = some lines := by
  refine (reads_topOfStack trap).answers fun a ha => ?_
  obtain ⟨stack, hstack, hword⟩ := hasWord_of_mem_shownWords (fun stack hs => (h stack hs).1) ha
  exact (h stack hstack).2.word hword

/-! ## What is shown -/

/-- How the lines about the top of a stack begin. -/
def title (sp : Word) : String :=
  "Top of Stack: (sp=" ++ sp.hex16 ++ ")"

/-- The row with two words of a stack whose words have these values. -/
def rowText (sp : Word) (value : Word → Word) (row : Nat) : String :=
  (stackWord sp (2 * row)).hex16 ++ ":   " ++ (value (stackWord sp (2 * row))).hex16 ++ " "
    ++ (value (stackWord sp (2 * row + 1))).hex16

/-- The lines about the top of a stack whose words have these values. -/
def dump (sp : Word) (value : Word → Word) : List String :=
  title sp :: (List.range (stackWords / 2)).map (rowText sp value) ++ [""]

lemma topOfStack_of_none (hstack : trap.stack = none) (mem : Memory) :
    topOfStack mem trap = some [title trap.registers.sp ++ " unavailable"] := by
  unfold topOfStack
  rw [hstack]
  rfl

lemma topOfStack_of_outside (hstack : trap.stack = some stack)
    (hshows : showsStack stack trap.registers.sp = false) (mem : Memory) :
    topOfStack mem trap = some [title trap.registers.sp ++ " outside the thread stack"] := by
  unfold topOfStack
  rw [hstack]
  dsimp only
  rw [hshows]
  rfl

lemma topOfStack_of_shown (hstack : trap.stack = some stack)
    (hshows : showsStack stack trap.registers.sp = true) {value : Word → Word}
    (hmem : ∀ a ∈ topWords trap.registers.sp, mem a = some (value a)) :
    topOfStack mem trap = some (dump trap.registers.sp value) := by
  have hwords := shownWords_of_shows hstack hshows
  -- what is shown depends on these words alone, so the others may be anything
  have hsame := (reads_topOfStack trap).congr mem (fun a => some (value a)) (hwords ▸ hmem)
  have hrow : ∀ row, stackRow (fun a => some (value a))
      (stackWord trap.registers.sp (2 * row)) = some (rowText trap.registers.sp value row) := by
    intro row
    unfold rowText
    rw [← stackWord_succ]
    rfl
  have hrows : ((List.range (stackWords / 2)).mapM fun row =>
      stackRow (fun a => some (value a)) (stackWord trap.registers.sp (2 * row))) =
        some ((List.range (stackWords / 2)).map (rowText trap.registers.sp value)) := by
    simp only [hrow]
    exact List.mapM_pure (m := Option)
  rw [hsame]
  unfold topOfStack
  rw [hstack]
  dsimp only
  rw [if_pos hshows]
  unfold stackWord at hrows
  rw [hrows]
  rfl

/-- Where there is room, exactly the words at the top are read; they are defined, and shown. -/
lemma shown_of_room (hmem : mem.OnlyStack stack) (hstack : trap.stack = some stack)
    (hroom : HasRoom stack trap.registers.sp) :
    Memory.Reads (fun mem => topOfStack mem trap) (topWords trap.registers.sp) ∧
      ∃ value : Word → Word, (∀ a ∈ topWords trap.registers.sp, mem a = some (value a)) ∧
        topOfStack mem trap = some (dump trap.registers.sp value) := by
  have hshows := (showsStack_iff hmem.base_aligned).mpr hroom
  have hwords := shownWords_of_shows hstack hshows
  have hvalue : ∀ a ∈ topWords trap.registers.sp, mem a = some ((mem a).getD 0) := by
    intro a ha
    obtain ⟨w, hw⟩ := hmem.covers.word (hroom.hasWord ha)
    rw [hw, Option.getD_some]
  rw [← hwords]
  exact ⟨reads_topOfStack trap, fun a => (mem a).getD 0, hwords ▸ hvalue,
    topOfStack_of_shown hstack hshows hvalue⟩

end FatalReport

/-! ## Staying on the stack -/

open FatalReport in
/-- Where memory is defined on the words of a stack alone, diagnostics never touch anything else.

The low end of the stack does not wrap around.  To tell whether a frame is outermost, and what its
caller is, takes the two words of its record if there may be one, and otherwise none; both are
defined, and the address of the second does not wrap around.  So every walk ends with an answer.  Of
the top of the stack nothing is read if the stack is not known or has no room for eight words from
the stack pointer on; otherwise exactly these eight words are, at addresses that do not wrap around,
and all of them are defined and shown. -/
theorem diagnostics_stay_on_stack {mem : Memory} {bounds : StackRange} (h : mem.OnlyStack bounds) :
    bounds.low.toNat + bounds.size.toNat = bounds.base.toNat ∧
    (∀ fr : Frame,
      Memory.Reads (fun mem => fr.isOutermost mem bounds) (fr.recordWords bounds) ∧
      Memory.Reads (fun mem => fr.callerOrEmpty mem bounds) (fr.recordWords bounds) ∧
      (∀ a ∈ fr.recordWords bounds, (mem a).isSome = true) ∧
      (fr.hasRecord bounds = true → (fr.fp + Word.bytes).toNat = fr.fp.toNat + 8) ∧
      (∃ last, fr.isOutermost mem bounds = some last) ∧
      ∃ next, fr.callerOrEmpty mem bounds = some next) ∧
    (∀ start : Frame, ∃ frames, start.chain mem bounds = some frames ∧
      ∀ limit, start.walk mem bounds limit = some (frames.take limit)) ∧
    ∀ trap : UnrecoverableTrap,
      (trap.stack = none →
        ∀ mem, topOfStack mem trap = some [title trap.registers.sp ++ " unavailable"]) ∧
      (trap.stack = some bounds → ¬HasRoom bounds trap.registers.sp →
        ∀ mem, topOfStack mem trap =
          some [title trap.registers.sp ++ " outside the thread stack"]) ∧
      (trap.stack = some bounds → HasRoom bounds trap.registers.sp →
        Memory.Reads (fun mem => topOfStack mem trap) (topWords trap.registers.sp) ∧
        (∀ k < stackWords,
          (stackWord trap.registers.sp k).toNat = trap.registers.sp.toNat + 8 * k) ∧
        ∃ value : Word → Word,
          (∀ a ∈ topWords trap.registers.sp, mem a = some (value a)) ∧
          topOfStack mem trap = some (dump trap.registers.sp value)) := by
  have hcovers := h.covers
  refine ⟨?_, fun fr => ?_, fun start => ?_, fun trap => ?_⟩
  · have hsize := UInt64.le_iff_toNat_le.mp h.size_le
    unfold StackRange.low
    rw [UInt64.toNat_sub_of_le _ _ h.size_le]
    omega
  · have hdefined : ∀ a ∈ fr.recordWords bounds, ∃ w, mem a = some w :=
      fun a ha => hcovers.word (Frame.hasWord_of_mem_recordWords ha)
    have houtermost := Frame.reads_isOutermost bounds fr
    have hcaller := Frame.reads_callerOrEmpty bounds fr
    refine ⟨houtermost, hcaller, fun a ha => ?_, fun hrecord => ?_, houtermost.answers hdefined,
      hcaller.answers hdefined⟩
    · rw [Option.isSome_iff_exists]
      exact hdefined a ha
    · exact (Frame.HasRecord.of_hasRecord hrecord).toNat_returnAddress
  · obtain ⟨frames, hchain⟩ := Frame.chain_of_covers hcovers start
    exact ⟨frames, hchain, (Frame.visits_of_chain hchain).walk_eq⟩
  · have hshows : showsStack bounds trap.registers.sp = true ↔ _ := showsStack_iff h.base_aligned
    refine ⟨topOfStack_of_none, fun hstack hroom => ?_, fun hstack hroom => ?_⟩
    · exact topOfStack_of_outside hstack (Bool.eq_false_iff.mpr (mt hshows.mp hroom))
    · obtain ⟨hreads, hshown⟩ := shown_of_room h hstack hroom
      exact ⟨hreads, fun k hk => hroom.toNat_stackWord hk, hshown⟩

/-- Memory that is zero on the words of a stack, and not defined anywhere else. -/
def Memory.blankStack (bounds : StackRange) : Memory := fun a =>
  if a.isAligned && bounds.contains a then some 0 else none

lemma Memory.onlyStack_blankStack {bounds : StackRange} (hbase : bounds.base.isAligned = true)
    (hsize : bounds.size ≤ bounds.base) : (Memory.blankStack bounds).OnlyStack bounds where
  base_aligned := hbase
  size_le := hsize
  isSome_iff a := by
    unfold blankStack
    rw [← Bool.and_eq_true]
    cases a.isAligned && bounds.contains a <;> simp

/-- A trap on the stack of sixteen pages, with its stack pointer anywhere. -/
def UnrecoverableTrap.withSp (sp : Word) : UnrecoverableTrap :=
  { thread := some 7, info := { signal := .segv }, pc := 0x400100, rule := .unrecognized
    registers := { sp }, stack := some .sixteenPages }

/-- The last eight words of a stack are shown; from one word further on there is no room, and an
address that wraps around is not followed. -/
theorem top_shown_at_base :
    (∃ value, FatalReport.topOfStack (.blankStack .sixteenPages) (.withSp 0x100000ffc0) =
      some (FatalReport.dump 0x100000ffc0 value)) ∧
    FatalReport.topOfStack (.blankStack .sixteenPages) (.withSp 0x100000ffc8) =
      some [FatalReport.title 0x100000ffc8 ++ " outside the thread stack"] ∧
    FatalReport.topOfStack (.blankStack .sixteenPages) (.withSp 0xfffffffffffffff8) =
      some [FatalReport.title 0xfffffffffffffff8 ++ " outside the thread stack"] := by
  have hmem : (Memory.blankStack .sixteenPages).OnlyStack .sixteenPages :=
    Memory.onlyStack_blankStack (by decide) (by decide)
  obtain ⟨-, -, -, htrap⟩ := diagnostics_stay_on_stack hmem
  refine ⟨?_, ?_, ?_⟩
  · obtain ⟨-, -, value, -, hshown⟩ :=
      (htrap (.withSp 0x100000ffc0)).2.2 rfl ⟨by decide, by decide, by decide⟩
    exact ⟨value, hshown⟩
  · refine (htrap (.withSp 0x100000ffc8)).2.1 rfl ?_ _
    rintro ⟨-, -, hfits⟩
    exact absurd hfits (by decide)
  · refine (htrap (.withSp 0xfffffffffffffff8)).2.1 rfl ?_ _
    rintro ⟨-, -, hfits⟩
    exact absurd hfits (by decide)

end ManagedFaults
