import ManagedFaults.Word
import Mathlib.Tactic.Lemma

/-!
# Which words are read

Code that reads memory says `none` as soon as it touches a word that is not defined.  A reader
`Memory.Reads` a list of words if it answers where all of them are defined, and nothing else that
memory holds makes a difference.  Readers that run one after the other read the words of both
(`Memory.Reads.bind`).
-/

namespace ManagedFaults.Memory

variable {α β γ : Type} {x : Memory → Option α} {words : List Word} {mem : Memory}

/-- A reader touches exactly these words, whatever memory holds. -/
structure Reads (x : Memory → Option α) (words : List Word) : Prop where
  /-- It answers wherever all of them are defined, and only there. -/
  isSome_iff : ∀ mem : Memory, (x mem).isSome = true ↔ ∀ a ∈ words, (mem a).isSome = true
  /-- What it answers depends on them alone. -/
  congr : ∀ mem mem' : Memory, (∀ a ∈ words, mem a = mem' a) → x mem = x mem'

lemma reads_nothing (a : α) : Reads (fun _ => some a) [] where
  isSome_iff _ := by simp
  congr _ _ _ := rfl

lemma reads_word (a : Word) : Reads (fun mem => mem a) [a] where
  isSome_iff _ := by simp
  congr _ _ h := h a List.mem_cons_self

namespace Reads

/-- Where the words are defined, a reader answers. -/
lemma answers (h : Reads x words) (hdefined : ∀ a ∈ words, ∃ w, mem a = some w) :
    ∃ r, x mem = some r := by
  rw [← Option.isSome_iff_exists, h.isSome_iff]
  intro a ha
  rw [Option.isSome_iff_exists]
  exact hdefined a ha

/-- A reader that goes on with another reads the words of both, if those of the second do not depend
on what the first has found. -/
lemma bind {f : α → Memory → Option β} {more : List Word} (hx : Reads x words)
    (hf : ∀ a, Reads (f a) more) :
    Reads (fun mem => (x mem).bind fun a => f a mem) (words ++ more) where
  isSome_iff mem := by
    have hdefined := hx.isSome_iff mem
    simp only [List.mem_append, or_imp, forall_and]
    cases hanswer : x mem with
    | none =>
      rw [hanswer] at hdefined
      simp [← hdefined]
    | some a =>
      rw [hanswer] at hdefined
      rw [← hdefined]
      simpa using (hf a).isSome_iff mem
  congr mem mem' h := by
    have hfirst := hx.congr mem mem' fun a ha => h a (List.mem_append_left more ha)
    have hsecond := fun a => (hf a).congr mem mem' fun b hb => h b (List.mem_append_right words hb)
    simp only [hfirst, hsecond]

/-- What is made of an answer afterwards reads nothing more. -/
lemma andThen (h : Reads x words) (f : α → β) :
    Reads (fun mem => (x mem).bind fun a => some (f a)) words := by
  have hbind := h.bind fun a => reads_nothing (f a)
  rwa [List.append_nil] at hbind

lemma map (h : Reads x words) (f : α → β) : Reads (fun mem => (x mem).map f) words := by
  simp only [Option.map_eq_bind]
  exact h.andThen f

/-- Readers that run in turn read the words of all. -/
lemma mapM {f : γ → Memory → Option β} {wordsOf : γ → List Word} (l : List γ)
    (h : ∀ c ∈ l, Reads (f c) (wordsOf c)) :
    Reads (fun mem => l.mapM fun c => f c mem) (l.flatMap wordsOf) := by
  induction l with
  | nil => exact reads_nothing []
  | cons c l ih =>
    have hfirst := h c List.mem_cons_self
    have hrest := ih fun c' hc' => h c' (List.mem_cons_of_mem c hc')
    simp only [List.mapM_cons, List.flatMap_cons]
    exact hfirst.bind fun b => hrest.andThen (b :: ·)

end Reads

end ManagedFaults.Memory
