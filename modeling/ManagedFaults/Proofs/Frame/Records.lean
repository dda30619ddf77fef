import ManagedFaults.Proofs.Frame.Chain

/-!
# Chains of well-formed records

Compiled code leaves its frame records in order: each links to the next one up the stack, and the
last one to zero (`Memory.Links`).  Such a chain is walked to its end, however far apart the records
are and even if the first or the last of them touches an end of the stack
(`linked_records_walked`): no check of a record is stricter than it has to be.
-/

namespace ManagedFaults

/-- A frame record: where it lies, and the return address it holds. -/
structure FrameRecord where
  address : Word
  returnAddress : Word
deriving DecidableEq, Repr

namespace FrameRecord

/-- The frame that the record `r` leads to if it links to `next`. -/
def caller (r next : FrameRecord) : Frame :=
  { sp := next.address, fp := next.address, pc := r.returnAddress }

/-- The frames that a chain of records leads to: one for each record but the last. -/
def callers (first : FrameRecord) (rest : List FrameRecord) : List Frame :=
  List.zipWith caller (first :: rest) rest

lemma length_callers (first : FrameRecord) (rest : List FrameRecord) :
    (first.callers rest).length = rest.length := by
  unfold callers
  rw [List.length_zipWith, List.length_cons]
  omega

end FrameRecord

namespace Memory

/-- A record at an aligned address lies on the stack with both its words, and holds a link. -/
structure HoldsRecord (mem : Memory) (bounds : StackRange) (r : FrameRecord) (link : Word) :
    Prop where
  positive : 0 < r.address
  aligned : r.address.isAligned = true
  low_le : bounds.low ≤ r.address
  below : r.address.toNat + Frame.recordBytes ≤ bounds.base.toNat
  link_eq : mem r.address = some link
  return_eq : mem (r.address + Word.bytes) = some r.returnAddress

lemma HoldsRecord.address_ne_zero {mem : Memory} {bounds : StackRange} {r : FrameRecord}
    {link : Word} (h : mem.HoldsRecord bounds r link) : r.address ≠ 0 := by
  intro hzero
  have hpositive := h.positive
  rw [hzero] at hpositive
  exact absurd hpositive (by decide)

/-- Records that lead from `first` up the stack through the rest of them.  The last one links to
zero, and what it holds as its return address does not matter. -/
inductive Links (mem : Memory) (bounds : StackRange) : FrameRecord → List FrameRecord → Prop
  | last {r : FrameRecord} (holds : mem.HoldsRecord bounds r 0) : Links mem bounds r []
  | link {r next : FrameRecord} {rest : List FrameRecord}
      (holds : mem.HoldsRecord bounds r next.address) (rises : r.address < next.address)
      (returns : r.returnAddress ≠ 0) (links : Links mem bounds next rest) :
      Links mem bounds r (next :: rest)

/-- The first record of a chain is on the stack. -/
lemma Links.holds {mem : Memory} {bounds : StackRange} {first : FrameRecord}
    {rest : List FrameRecord} (h : mem.Links bounds first rest) :
    ∃ link, mem.HoldsRecord bounds first link := by
  cases h with
  | last holds => exact ⟨0, holds⟩
  | link holds => exact ⟨_, holds⟩

end Memory

namespace Frame

variable {mem : Memory} {bounds : StackRange} {start : Frame} {r next : FrameRecord} {link : Word}

/-! ## Single records -/

/-- A frame whose frame pointer is the address of a record is not the empty one. -/
lemma isEmpty_eq_false_of_holdsRecord (h : mem.HoldsRecord bounds r link)
    (hfp : start.fp = r.address) : start.isEmpty = false := by
  have hpresent : (start.fp == 0) = false := by
    rw [hfp]
    exact beq_false_of_ne h.address_ne_zero
  unfold isEmpty
  rw [hpresent, Bool.and_false, Bool.false_and]

/-- A record on the stack is read, and followed if it leads on. -/
lemma caller?_of_holdsRecord (h : mem.HoldsRecord bounds r link) (hfp : start.fp = r.address)
    (hsp : start.sp ≤ r.address) :
    start.caller? mem bounds =
      some (if start.leadsOn bounds link r.returnAddress then
        some { sp := link, fp := link, pc := r.returnAddress } else none) := by
  have hrecord : start.hasRecord bounds = true := by
    unfold hasRecord
    rw [hfp]
    simp only [Bool.and_eq_true, decide_eq_true_eq, bne_iff_ne]
    exact ⟨⟨⟨⟨h.address_ne_zero, h.aligned⟩, hsp⟩, h.low_le⟩, h.below⟩
  have hrecorded : start.recorded mem =
      some { sp := link, fp := link, pc := r.returnAddress } := by
    unfold recorded
    rw [hfp, h.link_eq, h.return_eq]
    rfl
  unfold caller?
  rw [if_pos hrecord, hrecorded]
  rfl

/-- A record that links to zero is the last one. -/
lemma caller?_of_last (h : mem.HoldsRecord bounds r 0) (hfp : start.fp = r.address)
    (hsp : start.sp ≤ r.address) : start.caller? mem bounds = some none := by
  have hends : start.leadsOn bounds 0 r.returnAddress = false := by simp [leadsOn]
  rw [caller?_of_holdsRecord h hfp hsp, hends]
  rfl

/-- A record that links to another one higher up leads to it. -/
lemma caller?_of_link (h : mem.HoldsRecord bounds r next.address)
    (hnext : mem.HoldsRecord bounds next link) (hrises : r.address < next.address)
    (hreturns : r.returnAddress ≠ 0) (hfp : start.fp = r.address) (hsp : start.sp ≤ r.address) :
    start.caller? mem bounds = some (some (r.caller next)) := by
  have hbelow : next.address < bounds.base := by
    have hroom : next.address.toNat + 16 ≤ bounds.base.toNat := hnext.below
    rw [UInt64.lt_iff_toNat_lt]
    omega
  have hleads : start.leadsOn bounds next.address r.returnAddress = true := by
    unfold leadsOn
    rw [hfp]
    simp only [Bool.and_eq_true, decide_eq_true_eq, bne_iff_ne]
    exact ⟨⟨⟨⟨hnext.address_ne_zero, hnext.aligned⟩, hrises⟩, hbelow⟩, hreturns⟩
  rw [caller?_of_holdsRecord h hfp hsp, hleads]
  rfl

/-! ## Whole chains -/

/-- A frame at the first record of a chain visits the frames that the records lead to. -/
lemma visits_of_links {rest : List FrameRecord} (h : mem.Links bounds r rest)
    (hfp : start.fp = r.address) (hsp : start.sp ≤ r.address) :
    Visits mem bounds start (start :: r.callers rest) := by
  -- by induction on the chain: the frame a record leads to is at the next record
  induction h generalizing start with
  | last holds =>
    exact .outermost (isEmpty_eq_false_of_holdsRecord holds hfp) (caller?_of_last holds hfp hsp)
  | @link r next rest holds rises returns links ih =>
    obtain ⟨link, hnext⟩ := links.holds
    have hleads := caller?_of_link holds hnext rises returns hfp hsp
    have hvisits : Visits mem bounds (r.caller next) (r.caller next :: next.callers rest) :=
      ih rfl (UInt64.le_refl _)
    exact .caller (isEmpty_eq_false_of_holdsRecord holds hfp) hleads hvisits

end Frame

/-- A chain of records, the first of which the frame pointer of a frame points to, not below its
stack pointer.  The walk from this frame visits it and then, for each record but the last, the frame
of the next record at the return address.  So there are as many frames as records, each one but the
last is followed by its caller, and a walk with a limit visits the first ones. -/
theorem linked_records_walked {mem : Memory} {bounds : StackRange} {first : FrameRecord}
    {rest : List FrameRecord} (h : mem.Links bounds first rest) {start : Frame}
    (hfp : start.fp = first.address) (hsp : start.sp ≤ first.address) :
    start.chain mem bounds = some (start :: first.callers rest) ∧
      (start :: first.callers rest).length = (first :: rest).length ∧
      (∀ limit, start.walk mem bounds limit = some ((start :: first.callers rest).take limit)) ∧
      (start :: first.callers rest).IsChain
        (fun fr next => fr.callerOrEmpty mem bounds = some next) ∧
      ∀ fr ∈ (start :: first.callers rest).dropLast, fr.isOutermost mem bounds = some false := by
  have hvisits := Frame.visits_of_links h hfp hsp
  refine ⟨hvisits.chain_eq, ?_, hvisits.walk_eq, ?_, hvisits.last.2⟩
  · rw [List.length_cons, List.length_cons, FrameRecord.length_callers]
  · refine hvisits.isChain fun fr next hpresent hleads => ?_
    unfold Frame.callerOrEmpty
    rw [hpresent, hleads]
    rfl

/-- A stack with three records, the first at its lower end, the second right above, and the last one
right below its base. -/
def Memory.edgeToEdge : Memory :=
  Memory.zeroed 0x1000000000 0x1000010000
    [(0x1000000000, 0x1000000010), (0x1000000008, 0x400200),
     (0x1000000010, 0x100000fff0), (0x1000000018, 0x400300)]

/-- Records at both ends of the stack are followed. -/
theorem edge_to_edge_walked :
    Frame.chain .edgeToEdge .sixteenPages { sp := 0x1000000000, fp := 0x1000000000, pc := 0x400100 }
      = some
        [{ sp := 0x1000000000, fp := 0x1000000000, pc := 0x400100 },
         { sp := 0x1000000010, fp := 0x1000000010, pc := 0x400200 },
         { sp := 0x100000fff0, fp := 0x100000fff0, pc := 0x400300 }] := by
  have hlast : Memory.edgeToEdge.HoldsRecord .sixteenPages ⟨0x100000fff0, 0⟩ 0 :=
    ⟨by decide, by decide, by decide, by decide, rfl, rfl⟩
  have hsecond : Memory.edgeToEdge.HoldsRecord .sixteenPages ⟨0x1000000010, 0x400300⟩
      0x100000fff0 :=
    ⟨by decide, by decide, by decide, by decide, rfl, rfl⟩
  have hfirst : Memory.edgeToEdge.HoldsRecord .sixteenPages ⟨0x1000000000, 0x400200⟩ 0x1000000010 :=
    ⟨by decide, by decide, by decide, by decide, rfl, rfl⟩
  have hlinks : Memory.edgeToEdge.Links .sixteenPages ⟨0x1000000000, 0x400200⟩
      [⟨0x1000000010, 0x400300⟩, ⟨0x100000fff0, 0⟩] :=
    .link hfirst (by decide) (by decide) (.link hsecond (by decide) (by decide) (.last hlast))
  exact (linked_records_walked hlinks rfl (by decide)).1

end ManagedFaults
