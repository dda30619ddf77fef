import ManagedFaults.RingBuffer
import Mathlib.Data.List.Induction
import Mathlib.Tactic.Lemma

/-!
# What a ring buffer holds

A ring buffer stands for the list of its elements, from the tail on and once around the end.  A push
appends to this list, and drops its first element if all slots were taken (`RingBuffer.Holds.push`).
So after any number of pushes the buffer holds the last of what was pushed, as much of it as there
are slots (`RingBuffer.holds_foldl_push`).  What is copied out of it are the first of these elements
(`RingBuffer.Holds.copyTo_eq_take`).  Whatever is pushed, popped and cleared, all that can be seen
of a buffer is what a queue of bounded length would show (`RingBuffer.acts_as_bounded_queue`).
-/

namespace ManagedFaults

namespace RingBuffer

variable {α : Type} {n : Nat} {b : RingBuffer α n} {xs : List α} {a : α}

/-! ## Slots -/

/-- A number below twice the number of slots wraps around at most once. -/
lemma wrap_eq {x : Nat} (h : x < 2 * n) : x % n = if x < n then x else x - n := by
  by_cases hx : x < n
  · rw [if_pos hx, Nat.mod_eq_of_lt hx]
  · rw [if_neg hx, Nat.mod_eq_sub_mod (by omega), Nat.mod_eq_of_lt (by omega)]

/-- Different offsets from the tail, within one turn, are different slots. -/
lemma wrap_ne {tail i j : Nat} (htail : tail < n) (hij : i < j) (hj : j < n) :
    (tail + i) % n ≠ (tail + j) % n := by
  rw [wrap_eq (by omega), wrap_eq (by omega)]
  split <;> split <;> omega

lemma slot_mk_set_self {head tail count i : Nat} (h : i < n) :
    slot { slots := b.slots.setIfInBounds i (some a), head, tail, count } i = some a := by
  unfold slot
  dsimp only
  rw [Vector.getElem?_setIfInBounds_self_of_lt h]
  rfl

lemma slot_mk_set_of_ne {head tail count i j : Nat} {content : Option α} (h : j ≠ i) :
    slot { slots := b.slots.setIfInBounds i content, head, tail, count } j = b.slot j := by
  unfold slot
  dsimp only
  rw [Vector.getElem?_setIfInBounds_ne h.symm]

/-! ## The list of the elements -/

/-- The elements of a buffer are those of a list, in this order from the tail on. -/
structure Holds (b : RingBuffer α n) (xs : List α) : Prop where
  count_eq : b.count = xs.length
  count_le : b.count ≤ n
  tail_lt : b.tail < n
  head_eq : b.head = (b.tail + b.count) % n
  slot_eq : ∀ i < xs.length, b.slot ((b.tail + i) % n) = xs[i]?

lemma holds_empty (h : 0 < n) : (empty : RingBuffer α n).Holds [] where
  count_eq := rfl
  count_le := Nat.zero_le n
  tail_lt := h
  head_eq := (Nat.zero_mod n).symm
  slot_eq _ hi := absurd hi (Nat.not_lt_zero _)

/-- Going around the buffer finds the list. -/
lemma elementsFrom_eq {index : Nat} (hindex : index < n)
    (h : ∀ i < xs.length, b.slot ((index + i) % n) = xs[i]?) :
    b.elementsFrom xs.length index = xs := by
  -- by induction on the list, while the index goes around
  induction xs generalizing index with
  | nil => rfl
  | cons x xs ih =>
    have hfirst : b.slot index = some x := by
      have hslot := h 0 (Nat.zero_lt_succ _)
      rwa [Nat.add_zero, Nat.mod_eq_of_lt hindex] at hslot
    have hrest : b.elementsFrom xs.length ((index + 1) % n) = xs := by
      refine ih (Nat.mod_lt _ (by omega)) fun i hi => ?_
      have hslot := h (i + 1) (Nat.succ_lt_succ hi)
      rwa [Nat.mod_add_mod, Nat.add_right_comm, Nat.add_assoc]
    rw [List.length_cons, elementsFrom, hfirst, hrest]

lemma Holds.toList_eq (h : b.Holds xs) : b.toList = xs := by
  unfold toList
  rw [h.count_eq]
  exact elementsFrom_eq h.tail_lt h.slot_eq

lemma Holds.head_lt (h : b.Holds xs) : b.head < n := by
  have htail := h.tail_lt
  rw [h.head_eq]
  exact Nat.mod_lt _ (by omega)

/-- What is copied are the first elements, as many as there is room for. -/
lemma Holds.copyTo_eq_take (h : b.Holds xs) (out : List α) :
    b.copyTo out = (min out.length xs.length,
      xs.take out.length ++ out.drop (min out.length xs.length)) := by
  unfold copyTo
  dsimp only
  rw [h.toList_eq, List.length_take]

/-- Where there is room for all elements, all are copied. -/
lemma Holds.copyTo_eq (h : b.Holds xs) {out : List α} (hout : xs.length ≤ out.length) :
    b.copyTo out = (xs.length, xs ++ out.drop xs.length) := by
  rw [h.copyTo_eq_take, Nat.min_eq_right hout, List.take_of_length_le hout]

/-! ## Pushing -/

/-- While there is a free slot, a push appends to the list. -/
private lemma Holds.push_of_free (h : b.Holds xs) (hfree : b.count < n) :
    (b.push a).Holds (xs ++ [a]) := by
  have hpush : b.push a =
      { slots := b.slots.setIfInBounds b.head (some a), head := (b.head + 1) % n, tail := b.tail
        count := b.count + 1 } := by
    unfold push
    rw [if_neg (by simp only [isFull, beq_iff_eq]; omega)]
  have hcount := h.count_eq
  have htail := h.tail_lt
  have hhead := h.head_lt
  rw [hpush]
  refine ⟨?_, hfree, htail, ?_, fun i hi => ?_⟩
  · show b.count + 1 = (xs ++ [a]).length
    rw [List.length_append, List.length_singleton, hcount]
  · show (b.head + 1) % n = (b.tail + (b.count + 1)) % n
    rw [h.head_eq, Nat.mod_add_mod, Nat.add_assoc]
  · show slot _ ((b.tail + i) % n) = (xs ++ [a])[i]?
    rw [List.length_append, List.length_singleton] at hi
    -- the new element is in the slot at the head, and the others stay where they are
    by_cases hnew : i = xs.length
    · rw [hnew, ← hcount, ← h.head_eq, slot_mk_set_self hhead, hcount,
        List.getElem?_concat_length]
    · have hother : (b.tail + i) % n ≠ b.head := by
        rw [h.head_eq]
        exact wrap_ne htail (by omega) hfree
      rw [slot_mk_set_of_ne hother, h.slot_eq i (by omega),
        List.getElem?_append_left (by omega)]

/-- When all slots are taken, a push drops the first element of the list. -/
private lemma Holds.push_of_full (h : b.Holds xs) (hfull : b.count = n) :
    (b.push a).Holds (xs.drop 1 ++ [a]) := by
  have hpush : b.push a =
      { slots := b.slots.setIfInBounds b.head (some a), head := (b.head + 1) % n
        tail := (b.tail + 1) % n, count := b.count } := by
    unfold push
    rw [if_pos (by simpa only [isFull, beq_iff_eq] using hfull)]
  have hcount := h.count_eq
  have htail := h.tail_lt
  have hhead : b.head = b.tail := by
    rw [h.head_eq, hfull, Nat.add_mod_right, Nat.mod_eq_of_lt htail]
  have hlength : (xs.drop 1 ++ [a]).length = n := by
    rw [List.length_append, List.length_drop, List.length_singleton]
    omega
  rw [hpush]
  refine ⟨?_, h.count_le, Nat.mod_lt _ (by omega), ?_, fun i hi => ?_⟩
  · show b.count = (xs.drop 1 ++ [a]).length
    rw [hlength, hfull]
  · show (b.head + 1) % n = ((b.tail + 1) % n + b.count) % n
    rw [hhead, hfull, Nat.add_mod_right, Nat.mod_mod]
  · show slot _ (((b.tail + 1) % n + i) % n) = (xs.drop 1 ++ [a])[i]?
    rw [hlength] at hi
    rw [Nat.mod_add_mod, Nat.add_assoc, Nat.add_comm 1 i]
    -- the oldest element was where the new one is, and the others move up by one
    by_cases hnew : i + 1 = n
    · have hlast : i = (xs.drop 1).length := by
        rw [List.length_drop]
        omega
      rw [hnew, Nat.add_mod_right, Nat.mod_eq_of_lt htail, ← hhead,
        slot_mk_set_self (by omega), hlast, List.getElem?_concat_length]
    · have hother : (b.tail + (i + 1)) % n ≠ b.head := by
        rw [h.head_eq, hfull, Nat.add_mod_right]
        exact (wrap_ne htail (Nat.zero_lt_succ i) (by omega)).symm
      have hold : i < (xs.drop 1).length := by
        rw [List.length_drop]
        omega
      rw [slot_mk_set_of_ne hother, h.slot_eq (i + 1) (by omega),
        List.getElem?_append_left hold, List.getElem?_drop, Nat.add_comm 1 i]

/-- A push appends to the list, and then drops what does not fit. -/
theorem Holds.push (h : b.Holds xs) (a : α) :
    (b.push a).Holds ((xs ++ [a]).drop (xs.length + 1 - n)) := by
  have hcount := h.count_eq
  by_cases hfull : b.count = n
  · have hdrop : xs.length + 1 - n = 1 := by omega
    have hpos : 1 ≤ xs.length := by
      have htail := h.tail_lt
      omega
    rw [hdrop, List.drop_append_of_le_length hpos]
    exact h.push_of_full hfull
  · have hle := h.count_le
    have hdrop : xs.length + 1 - n = 0 := by omega
    rw [hdrop, List.drop_zero]
    exact h.push_of_free (by omega)

/-- The last `k` elements of a list, after one more at its end. -/
private lemma drop_concat (k : Nat) (xs : List α) (a : α) :
    ((xs.drop (xs.length - k)) ++ [a]).drop ((xs.drop (xs.length - k)).length + 1 - k) =
      (xs ++ [a]).drop ((xs ++ [a]).length - k) := by
  have hconcat : xs.drop (xs.length - k) ++ [a] = (xs ++ [a]).drop (xs.length - k) :=
    (List.drop_append_of_le_length (by omega)).symm
  rw [hconcat, List.drop_drop, List.length_drop, List.length_append, List.length_singleton]
  congr 1
  omega

/-- After any number of pushes the last elements are there, as many as there are slots. -/
theorem holds_foldl_push (h : 0 < n) (events : List α) :
    (events.foldl RingBuffer.push (empty : RingBuffer α n)).Holds
      (events.drop (events.length - n)) := by
  induction events using List.reverseRecOn with
  | nil =>
    rw [List.drop_nil]
    exact holds_empty h
  | append_singleton events a ih =>
    rw [List.foldl_append]
    have hpush := ih.push a
    rwa [drop_concat] at hpush

/-! ## Popping -/

/-- The oldest element is in the slot at the tail. -/
private lemma Holds.slot_tail (h : b.Holds xs) (hpos : 0 < xs.length) :
    b.slot b.tail = xs.head? := by
  have hslot := h.slot_eq 0 hpos
  rwa [Nat.add_zero, Nat.mod_eq_of_lt h.tail_lt, ← List.head?_eq_getElem?] at hslot

lemma Holds.isEmpty_eq (h : b.Holds xs) : b.isEmpty = xs.isEmpty := by
  unfold isEmpty
  rw [h.count_eq]
  cases xs <;> rfl

/-- What a pop takes out is the first element of the list. -/
lemma Holds.pop_fst (h : b.Holds xs) : b.pop.1 = xs.head? := by
  unfold pop
  rw [h.isEmpty_eq]
  cases xs with
  | nil => rfl
  | cons x xs => exact h.slot_tail (Nat.zero_lt_succ _)

/-- A pop drops the first element of the list, if there is one. -/
lemma Holds.pop (h : b.Holds xs) : b.pop.2.Holds xs.tail := by
  have hempty := h.isEmpty_eq
  cases xs with
  | nil =>
    have hpop : b.pop.2 = b := by
      unfold RingBuffer.pop
      rw [hempty]
      rfl
    rwa [hpop]
  | cons x xs =>
    have hpop : b.pop.2 =
        { slots := b.slots.setIfInBounds b.tail none, head := b.head, tail := (b.tail + 1) % n
          count := b.count - 1 } := by
      unfold RingBuffer.pop
      rw [hempty]
      rfl
    have hcount : b.count = xs.length + 1 := h.count_eq
    have hle := h.count_le
    have htail := h.tail_lt
    rw [hpop]
    refine ⟨?_, ?_, Nat.mod_lt _ (by omega), ?_, fun i hi => ?_⟩
    · show b.count - 1 = xs.length
      rw [hcount, Nat.add_sub_cancel]
    · show b.count - 1 ≤ n
      omega
    · show b.head = ((b.tail + 1) % n + (b.count - 1)) % n
      rw [h.head_eq, hcount, Nat.add_sub_cancel, Nat.mod_add_mod, Nat.add_assoc,
        Nat.add_comm 1 xs.length]
    · show slot _ (((b.tail + 1) % n + i) % n) = xs[i]?
      have hi : i < xs.length := hi
      -- the others stay where they are, and move up by one in the list
      have hother : (b.tail + (i + 1)) % n ≠ b.tail := by
        have hne := wrap_ne htail (Nat.zero_lt_succ i) (by omega)
        rw [Nat.add_zero, Nat.mod_eq_of_lt htail] at hne
        exact hne.symm
      have hslot := h.slot_eq (i + 1) (Nat.succ_lt_succ hi)
      rw [Nat.mod_add_mod, Nat.add_assoc, Nat.add_comm 1 i, slot_mk_set_of_ne hother, hslot,
        List.getElem?_cons_succ]

/-! ## What can be seen -/

lemma Holds.front_eq (h : b.Holds xs) : b.front = xs.head? := by
  unfold front
  rw [h.isEmpty_eq]
  cases xs with
  | nil => rfl
  | cons x xs => exact h.slot_tail (Nat.zero_lt_succ _)

/-- The newest element is in the slot before the head, which may be at the other end. -/
lemma Holds.back_eq (h : b.Holds xs) : b.back = xs.getLast? := by
  unfold back
  rw [h.isEmpty_eq]
  cases xs with
  | nil => rfl
  | cons x xs =>
    have hcount : b.count = xs.length + 1 := h.count_eq
    have hle := h.count_le
    have htail := h.tail_lt
    have hhead := h.head_eq
    have hbefore : (b.head + n - 1) % n = (b.tail + xs.length) % n := by
      rw [hcount, wrap_eq (by omega)] at hhead
      have hlt : b.head < n := h.head_lt
      rw [wrap_eq (by omega), wrap_eq (by omega)]
      split at hhead <;> split <;> split <;> omega
    have hslot := h.slot_eq xs.length (Nat.lt_succ_self _)
    rw [hbefore]
    rw [List.getLast?_eq_getElem?]
    exact hslot

lemma Holds.isFull_iff (h : b.Holds xs) : b.isFull = true ↔ xs.length = n := by
  rw [isFull, beq_iff_eq, h.count_eq]

/-- As much is copied as there is room for. -/
lemma Holds.copyTo_fst (h : b.Holds xs) (out : List α) :
    (b.copyTo out).1 = min out.length xs.length := by
  rw [h.copyTo_eq_take]

/-- What is copied stands at the start, and the rest of the buffer is left as it is. -/
lemma Holds.copyTo_snd (h : b.Holds xs) (out : List α) (j : Nat) :
    (b.copyTo out).2[j]? = if j < min out.length xs.length then xs[j]? else out[j]? := by
  rw [h.copyTo_eq_take, List.getElem?_append, List.length_take]
  split
  · next hj => rw [List.getElem?_take_of_lt (by omega)]
  · next hj =>
    rw [List.getElem?_drop]
    congr 1
    omega

/-- All that can be seen of a buffer is as if it were the list of its elements, oldest first. -/
structure ActsAs (b : RingBuffer α n) (xs : List α) : Prop where
  head_lt : b.head < n
  tail_lt : b.tail < n
  head_eq : b.head = (b.tail + b.count) % n
  filled : ∀ i < b.count, (b.slot ((b.tail + i) % n)).isSome = true
  count_eq : b.count = xs.length
  count_le : b.count ≤ n
  isEmpty_eq : b.isEmpty = xs.isEmpty
  isFull_iff : b.isFull = true ↔ xs.length = n
  front_eq : b.front = xs.head?
  back_eq : b.back = xs.getLast?
  pop_eq : b.pop.1 = xs.head?
  toList_eq : b.toList = xs
  /-- Copying into `out` writes the first elements, as many as fit, and nothing else. -/
  copied : ∀ out : List α, (b.copyTo out).1 = min out.length xs.length ∧
    (b.copyTo out).2.length = out.length ∧
    ∀ j, (b.copyTo out).2[j]? = if j < min out.length xs.length then xs[j]? else out[j]?

lemma Holds.actsAs (h : b.Holds xs) : b.ActsAs xs where
  head_lt := h.head_lt
  tail_lt := h.tail_lt
  head_eq := h.head_eq
  filled i hi := by
    rw [h.count_eq] at hi
    rw [h.slot_eq i hi, List.getElem?_eq_getElem hi]
    rfl
  count_eq := h.count_eq
  count_le := h.count_le
  isEmpty_eq := h.isEmpty_eq
  isFull_iff := h.isFull_iff
  front_eq := h.front_eq
  back_eq := h.back_eq
  pop_eq := h.pop_fst
  toList_eq := h.toList_eq
  copied out := by
    refine ⟨h.copyTo_fst out, ?_, h.copyTo_snd out⟩
    unfold copyTo
    rw [List.length_append, List.length_drop, List.length_take]
    omega

/-! ## Short buffers -/

/-- How many elements of a list a buffer was given, and what it holds, if these are the last ones,
as many as there is room for, and it is otherwise left as it was. -/
def newestInto (xs out : List α) : Nat × List α :=
  (min out.length xs.length,
    xs.drop (xs.length - out.length) ++ out.drop (min out.length xs.length))

/-- The first elements of a list without repetition are its last ones if they are none or all. -/
lemma take_eq_drop_iff (hnodup : xs.Nodup) (k : Nat) :
    xs.take k = xs.drop (xs.length - k) ↔ k = 0 ∨ xs.length ≤ k := by
  constructor
  · intro heq
    by_contra hother
    -- otherwise the first of all stands in two places
    have hfirst : xs[0]? = xs[xs.length - k]? := by
      have hheads : (xs.take k)[0]? = (xs.drop (xs.length - k))[0]? := congrArg (·[0]?) heq
      rwa [List.getElem?_take_of_lt (by omega), List.getElem?_drop, Nat.add_zero] at hheads
    have hpos : 0 < xs.length := by omega
    have hzero := (List.getElem?_inj hpos hnodup).mp hfirst
    omega
  · rintro (rfl | hall)
    · rw [List.take_zero, Nat.sub_zero, List.drop_length]
    · rw [List.take_of_length_le hall, Nat.sub_eq_zero_of_le hall, List.drop_zero]

/-- Where there is room for all elements, they are the last ones too. -/
lemma Holds.copyTo_eq_newestInto (h : b.Holds xs) {out : List α} (hout : xs.length ≤ out.length) :
    b.copyTo out = newestInto xs out := by
  unfold newestInto
  rw [h.copyTo_eq hout, Nat.min_eq_right hout, Nat.sub_eq_zero_of_le hout, List.drop_zero]

/-- Without repetition, only then are they, unless there is no room at all. -/
lemma Holds.copyTo_eq_newestInto_iff (h : b.Holds xs) (hnodup : xs.Nodup) (out : List α) :
    b.copyTo out = newestInto xs out ↔ out = [] ∨ xs.length ≤ out.length := by
  rw [← List.length_eq_zero_iff, ← take_eq_drop_iff hnodup, h.copyTo_eq_take, newestInto,
    Prod.mk.injEq, List.append_left_inj]
  exact and_iff_right rfl

/-! ## Requests -/

/-- What can be asked of a buffer that changes it. -/
inductive Request (α : Type) where
  | push (a : α)
  | pop
  | clear

/-- Carries out a request. -/
def after (b : RingBuffer α n) : Request α → RingBuffer α n
  | .push a => b.push a
  | .pop => b.pop.2
  | .clear => b.clear

/-- What a request does to a queue of at most `n` elements, which forgets the oldest one when it has
no room for another. -/
def Request.onQueue (n : Nat) (xs : List α) : Request α → List α
  | .push a => (if xs.length = n then xs.tail else xs) ++ [a]
  | .pop => xs.tail
  | .clear => []

/-- A request does to the buffer what it does to the queue. -/
lemma Holds.after (h : b.Holds xs) (request : Request α) :
    (b.after request).Holds (request.onQueue n xs) := by
  have hcount := h.count_eq
  have htail := h.tail_lt
  cases request with
  | push a =>
    show (b.push a).Holds ((if xs.length = n then xs.tail else xs) ++ [a])
    split
    · next hfull =>
      rw [← List.drop_one]
      exact h.push_of_full (hcount.trans hfull)
    · next hfree =>
      have hle := h.count_le
      exact h.push_of_free (by omega)
  | pop => exact h.pop
  | clear => exact holds_empty (by omega)

/-- After any requests the buffer holds what the queue does. -/
lemma Holds.run (h : b.Holds xs) (requests : List (Request α)) :
    (requests.foldl RingBuffer.after b).Holds (requests.foldl (Request.onQueue n) xs) := by
  induction requests generalizing b xs with
  | nil => exact h
  | cons request requests ih => exact ih (h.after request)

/-- Whatever is pushed, popped and cleared, a buffer with at least one slot acts as a queue that
forgets its oldest element when all slots are taken. -/
theorem acts_as_bounded_queue (h : 0 < n) (requests : List (Request α)) :
    (requests.foldl RingBuffer.after (empty : RingBuffer α n)).ActsAs
      (requests.foldl (Request.onQueue n) []) :=
  ((holds_empty h).run requests).actsAs

/-- In three slots, four elements wrap around and push out the first, and a pop makes room for
another. -/
theorem wrapped_twice_around :
    ([.push 1, .push 2, .push 3, .push 4, .pop, .push 5, .push 6].foldl RingBuffer.after
      (empty : RingBuffer Nat 3)).ActsAs [4, 5, 6] :=
  acts_as_bounded_queue (by decide) [.push 1, .push 2, .push 3, .push 4, .pop, .push 5, .push 6]

end RingBuffer

end ManagedFaults
