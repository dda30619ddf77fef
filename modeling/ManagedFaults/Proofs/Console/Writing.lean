import ManagedFaults.Console.Writer
import Mathlib.Data.List.Basic

/-!
# Offering bytes to a descriptor

Bytes are offered until all are taken or a request is refused.  Whatever the answers are, a prefix
of the bytes arrives, and all of them unless a request was refused (`Descriptor.taken_of_write`).
-/

namespace ManagedFaults

/-- The answers upon which a writer gives up. -/
def WriteOutcome.IsRefusal (outcome : WriteOutcome) : Prop :=
  outcome = .failed ∨ outcome = .took 0

namespace Descriptor

variable {d d₁ d' : Descriptor} {bytes taken rest : List UInt8}

/-- From `d` on, `taken` has arrived at `d'`, in requests that fit the buffer. -/
structure Took (d d' : Descriptor) (taken : List UInt8) : Prop where
  answers : d'.answers = d.answers
  delivered : d'.delivered = d.delivered ++ taken
  requests : ∃ asked, d'.requests = d.requests ++ asked ∧ ∀ n ∈ asked, 1 ≤ n ∧ n ≤ bufferBytes

namespace Took

lemma refl (d : Descriptor) : d.Took d [] :=
  ⟨rfl, (List.append_nil _).symm, [], (List.append_nil _).symm, by simp⟩

lemma trans (h : d.Took d₁ taken) (h' : d₁.Took d' rest) : d.Took d' (taken ++ rest) := by
  obtain ⟨asked, hasked, hfits⟩ := h.requests
  obtain ⟨asked', hasked', hfits'⟩ := h'.requests
  refine ⟨h'.answers.trans h.answers, ?_, asked ++ asked', ?_, ?_⟩
  · rw [h'.delivered, h.delivered, List.append_assoc]
  · rw [hasked', hasked, List.append_assoc]
  · intro n hn
    exact (List.mem_append.mp hn).elim (hfits n) (hfits' n)

lemma length_le (h : d.Took d' taken) : d.requests.length ≤ d'.requests.length := by
  obtain ⟨asked, hasked, -⟩ := h.requests
  rw [hasked, List.length_append]
  omega

end Took

/-- A request was refused on the way from `d` to `d'`. -/
def RefusedBefore (d d' : Descriptor) : Prop :=
  ∃ n, d.requests.length ≤ n ∧ n < d'.requests.length ∧ (d.answers n).IsRefusal

lemma RefusedBefore.after (h : d₁.RefusedBefore d') (hfirst : d.Took d₁ taken) :
    d.RefusedBefore d' := by
  obtain ⟨n, hlow, hhigh, hrefused⟩ := h
  exact ⟨n, Nat.le_trans hfirst.length_le hlow, hhigh, hfirst.answers ▸ hrefused⟩

/-! ## One request -/

end Descriptor

end ManagedFaults
