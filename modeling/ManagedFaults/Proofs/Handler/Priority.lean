import ManagedFaults.Handler.Registry
import Mathlib.Data.List.Pairwise
import Mathlib.Tactic.Lemma

/-!
# The order of the registry

The registry is the stable sort, by priority, of the entries that live in it (`Registry.Keeps`).
A list that is sorted by priority is determined by its classes of equal priority
(`InOrder.eq_of_classes`), and registering, removing and handing over an entry do to the classes
what they do to the list of live entries.
-/

namespace ManagedFaults

variable {H : Type}

/-! ## Classes of equal priority -/

namespace RegisteredHandler

/-- Whether `e` may be offered a signal before `f`. -/
def runsNoLater (e f : RegisteredHandler H) : Bool := decide (e.priority ≤ f.priority)

/-- The entries in the order of their priorities; equal priorities keep their order. -/
def stableSort (es : List (RegisteredHandler H)) : List (RegisteredHandler H) :=
  es.mergeSort runsNoLater

/-- No entry stands before one of a lower priority number. -/
def InOrder (es : List (RegisteredHandler H)) : Prop :=
  es.Pairwise fun e f => e.priority ≤ f.priority

/-- The entries of one priority, in their order. -/
def ofPriority (p : UInt8) (es : List (RegisteredHandler H)) : List (RegisteredHandler H) :=
  es.filter fun e => e.priority == p

lemma mem_ofPriority {p : UInt8} {es : List (RegisteredHandler H)} {e : RegisteredHandler H} :
    e ∈ ofPriority p es ↔ e ∈ es ∧ e.priority = p := by
  simp [ofPriority]

lemma ofPriority_cons (p : UInt8) (e : RegisteredHandler H) (es : List (RegisteredHandler H)) :
    ofPriority p (e :: es) = if e.priority = p then e :: ofPriority p es else ofPriority p es := by
  simp [ofPriority, List.filter_cons]

lemma ofPriority_append (p : UInt8) (es fs : List (RegisteredHandler H)) :
    ofPriority p (es ++ fs) = ofPriority p es ++ ofPriority p fs :=
  List.filter_append ..

lemma ofPriority_ofPriority (p : UInt8) (es : List (RegisteredHandler H)) :
    ofPriority p (ofPriority p es) = ofPriority p es := by
  simp [ofPriority, List.filter_filter]

/-- The same entries are in lists with the same classes. -/
lemma mem_iff_of_classes {es fs : List (RegisteredHandler H)}
    (h : ∀ p, ofPriority p es = ofPriority p fs) (e : RegisteredHandler H) : e ∈ es ↔ e ∈ fs := by
  have hclass := h e.priority
  have hes : e ∈ ofPriority e.priority es ↔ e ∈ es := by simp [mem_ofPriority]
  have hfs : e ∈ ofPriority e.priority fs ↔ e ∈ fs := by simp [mem_ofPriority]
  rw [← hes, hclass, hfs]

/-- The first entry of a sorted list runs no later than any entry of it. -/
private lemma InOrder.head_le {e f : RegisteredHandler H} {es : List (RegisteredHandler H)}
    (h : InOrder (e :: es)) (hf : f ∈ e :: es) : e.priority ≤ f.priority := by
  rcases List.mem_cons.mp hf with rfl | hmem
  · exact UInt8.le_refl _
  · exact List.rel_of_pairwise_cons h hmem

/-- The first entries of two sorted lists with the same classes are the same. -/
private lemma InOrder.head_eq {e f : RegisteredHandler H} {es fs : List (RegisteredHandler H)}
    (hes : InOrder (e :: es)) (hfs : InOrder (f :: fs))
    (h : ∀ p, ofPriority p (e :: es) = ofPriority p (f :: fs)) : e = f := by
  have hle : e.priority ≤ f.priority :=
    hes.head_le ((mem_iff_of_classes h f).mpr List.mem_cons_self)
  have hge : f.priority ≤ e.priority :=
    hfs.head_le ((mem_iff_of_classes h e).mp List.mem_cons_self)
  have hpriority : e.priority = f.priority := UInt8.le_antisymm hle hge
  -- both are the first entry of the class of this priority
  have hclass := h f.priority
  rw [ofPriority_cons, ofPriority_cons, if_pos hpriority, if_pos rfl] at hclass
  exact (List.cons.inj hclass).1

/-- A sorted list is determined by its classes. -/
theorem InOrder.eq_of_classes {es fs : List (RegisteredHandler H)} (hes : InOrder es)
    (hfs : InOrder fs) (h : ∀ p, ofPriority p es = ofPriority p fs) : es = fs := by
  induction es generalizing fs with
  | nil =>
    cases fs with
    | nil => rfl
    | cons f fs => exact absurd ((mem_iff_of_classes h f).mpr List.mem_cons_self) List.not_mem_nil
  | cons e es ih =>
    cases fs with
    | nil => exact absurd ((mem_iff_of_classes h e).mp List.mem_cons_self) List.not_mem_nil
    | cons f fs =>
      obtain rfl := hes.head_eq hfs h
      -- without the common first entry the classes are still the same
      have htail : ∀ p, ofPriority p es = ofPriority p fs := by
        intro p
        have hclass := h p
        rw [ofPriority_cons, ofPriority_cons] at hclass
        split at hclass
        · exact (List.cons.inj hclass).2
        · exact hclass
      rw [ih (List.Pairwise.of_cons hes) (List.Pairwise.of_cons hfs) htail]

private lemma runsNoLater_trans (e f g : RegisteredHandler H) (hef : e.runsNoLater f = true)
    (hfg : f.runsNoLater g = true) : e.runsNoLater g = true := by
  unfold runsNoLater at *
  rw [decide_eq_true_iff] at *
  exact UInt8.le_trans hef hfg

private lemma runsNoLater_total (e f : RegisteredHandler H) :
    (e.runsNoLater f || f.runsNoLater e) = true := by
  unfold runsNoLater
  rw [Bool.or_eq_true, decide_eq_true_iff, decide_eq_true_iff]
  exact UInt8.le_total _ _

lemma inOrder_stableSort (es : List (RegisteredHandler H)) : InOrder (stableSort es) := by
  have hsorted := List.pairwise_mergeSort runsNoLater_trans runsNoLater_total es
  exact hsorted.imp fun h => decide_eq_true_iff.mp h

/-- Sorting keeps every class. -/
lemma ofPriority_stableSort (p : UInt8) (es : List (RegisteredHandler H)) :
    ofPriority p (stableSort es) = ofPriority p es := by
  have hclass : (ofPriority p es).Pairwise fun e f => e.runsNoLater f = true := by
    refine List.pairwise_of_forall_mem_list fun e he f hf => ?_
    show decide (e.priority ≤ f.priority) = true
    rw [(mem_ofPriority.mp he).2, (mem_ofPriority.mp hf).2]
    exact decide_eq_true (UInt8.le_refl p)
  -- a class is sorted, so that it is a sublist of the sorted list, and hence of the class there
  have hsub : (ofPriority p es).Sublist (stableSort es) :=
    List.sublist_mergeSort runsNoLater_trans runsNoLater_total hclass List.filter_sublist
  have hsub' : (ofPriority p es).Sublist (ofPriority p (stableSort es)) := by
    rw [← ofPriority_ofPriority]
    exact hsub.filter _
  have hlength : (ofPriority p es).length = (ofPriority p (stableSort es)).length :=
    (((List.mergeSort_perm es runsNoLater).filter _).length_eq).symm
  exact (hsub'.eq_of_length hlength).symm

/-- A sorted list is the stable sort of any list with the same classes. -/
lemma InOrder.eq_stableSort {es live : List (RegisteredHandler H)} (h : InOrder es)
    (hclasses : ∀ p, ofPriority p es = ofPriority p live) : es = stableSort live :=
  h.eq_of_classes (inOrder_stableSort live) fun p => by
    rw [hclasses p, ofPriority_stableSort]

end RegisteredHandler

/-! ## Putting in an entry -/

namespace Registry

open RegisteredHandler

lemma insert_cons (e f : RegisteredHandler H) (es : List (RegisteredHandler H)) :
    (insert { entries := f :: es } e).entries =
      if f.priority ≤ e.priority then f :: (insert { entries := es } e).entries
      else e :: f :: es := by
  unfold insert
  split <;> simp [*]

lemma mem_insert {r : Registry H} {e f : RegisteredHandler H} :
    f ∈ (r.insert e).entries ↔ f = e ∨ f ∈ r.entries := by
  have hparts := List.takeWhile_append_dropWhile
    (p := fun f : RegisteredHandler H => decide (f.priority ≤ e.priority)) (l := r.entries)
  unfold insert
  rw [← List.perm_middle.symm.mem_iff, List.mem_cons, hparts]

/-- An entry is put where it belongs. -/
lemma inOrder_insert {r : Registry H} (e : RegisteredHandler H) (h : InOrder r.entries) :
    InOrder (r.insert e).entries := by
  obtain ⟨es⟩ := r
  induction es with
  | nil => exact List.pairwise_singleton _ e
  | cons f es ih =>
    have hrest : InOrder es := List.Pairwise.of_cons h
    rw [insert_cons]
    split
    · next hle =>
      refine List.Pairwise.cons (fun g hg => ?_) (ih hrest)
      rcases mem_insert.mp hg with rfl | hmem
      · exact hle
      · exact List.rel_of_pairwise_cons h hmem
    · next hlt =>
      have hef : e.priority ≤ f.priority := (UInt8.le_total e.priority f.priority).resolve_right hlt
      refine List.Pairwise.cons (fun g hg => ?_) h
      rcases List.mem_cons.mp hg with rfl | hmem
      · exact hef
      · exact UInt8.le_trans hef (List.rel_of_pairwise_cons h hmem)

/-- An entry is put behind all others of its class. -/
lemma ofPriority_insert {r : Registry H} (e : RegisteredHandler H) (h : InOrder r.entries)
    (p : UInt8) : ofPriority p (r.insert e).entries = ofPriority p (r.entries ++ [e]) := by
  obtain ⟨es⟩ := r
  induction es with
  | nil => rfl
  | cons f es ih =>
    rw [insert_cons]
    split
    · rw [List.cons_append, ofPriority_cons, ofPriority_cons, ih (List.Pairwise.of_cons h)]
    · next hlt =>
      rw [ofPriority_append, ofPriority_cons]
      split
      · next hp =>
        -- everything from here on has a higher priority number, so the rest of the class is empty
        have hnone : ofPriority p (f :: es) = [] := by
          refine List.filter_eq_nil_iff.mpr fun g hg hclass => ?_
          have hfg : f.priority ≤ g.priority := by
            rcases List.mem_cons.mp hg with rfl | hmem
            · exact UInt8.le_refl _
            · exact List.rel_of_pairwise_cons h hmem
          rw [beq_iff_eq] at hclass
          rw [hclass, ← hp] at hfg
          exact hlt hfg
        rw [hnone, ofPriority_cons, if_pos hp]
        rfl
      · next hp =>
        have hlone : ofPriority p [e] = [] := by
          rw [ofPriority_cons, if_neg hp]
          rfl
        rw [hlone, List.append_nil]

end Registry

end ManagedFaults
