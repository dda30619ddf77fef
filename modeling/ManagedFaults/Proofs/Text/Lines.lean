import ManagedFaults.Text.Characters
import Mathlib.Data.List.TakeWhile
import Mathlib.Tactic.Lemma

/-!
# Trimmed texts and lines

Trimming finds what stands between blanks (`padded_trim`, `Padded.trim_eq`), and a text that was
written line by line is read line by line, whether its lines end with a line feed alone or with a
carriage return before it (`lines_written`).  So is a text that joins its lines by line feeds
(`lines_intercalate`).
-/

namespace ManagedFaults.Text

variable {cs core before after : List Char}

/-! ## Blanks -/

/-- Nothing but blanks. -/
def AllBlank (cs : List Char) : Prop := ∀ c ∈ cs, isBlank c = true

/-- `core`, between blanks. -/
def Padded (core cs : List Char) : Prop :=
  ∃ before after, AllBlank before ∧ AllBlank after ∧ cs = before ++ core ++ after

lemma Padded.refl (cs : List Char) : Padded cs cs :=
  ⟨[], [], by simp [AllBlank], by simp [AllBlank], (List.append_nil cs).symm⟩

lemma trim_blank_append (h : AllBlank before) (cs : List Char) : trim (before ++ cs) = trim cs := by
  unfold trim
  rw [List.dropWhile_append_of_pos h]

lemma trim_append_blank (h : AllBlank after) (cs : List Char) : trim (cs ++ after) = trim cs := by
  have hreverse : AllBlank after.reverse := fun c hc => h c (List.mem_reverse.mp hc)
  unfold trim
  rw [List.dropWhile_append]
  split
  · rename_i hempty
    have hafter : after.dropWhile isBlank = [] := List.dropWhile_eq_nil_iff.mpr h
    rw [hafter, List.isEmpty_iff.mp hempty]
  · rw [List.reverse_append, List.dropWhile_append_of_pos hreverse]

/-- Blanks around a text make no difference to trimming it. -/
lemma Padded.trim_eq (h : Padded core cs) : trim cs = trim core := by
  obtain ⟨before, after, hbefore, hafter, rfl⟩ := h
  rw [trim_append_blank hafter, trim_blank_append hbefore]

/-- Trimming takes nothing but blanks away. -/
lemma padded_trim (cs : List Char) : Padded (trim cs) cs := by
  let rest := cs.dropWhile isBlank
  refine ⟨cs.takeWhile isBlank, (rest.reverse.takeWhile isBlank).reverse, ?_, ?_, ?_⟩
  · exact fun c hc => List.mem_takeWhile_imp hc
  · exact fun c hc => List.mem_takeWhile_imp (List.mem_reverse.mp hc)
  · have hrest : trim cs ++ (rest.reverse.takeWhile isBlank).reverse = rest := by
      show (rest.reverse.dropWhile isBlank).reverse ++ _ = rest
      rw [← List.reverse_append, List.takeWhile_append_dropWhile, List.reverse_reverse]
    rw [List.append_assoc, hrest]
    exact List.takeWhile_append_dropWhile.symm

/-- A text without blanks is not trimmed. -/
lemma trim_of_no_blank (h : ∀ c ∈ cs, isBlank c = false) : trim cs = cs := by
  have hkeeps : ∀ l : List Char, (∀ c ∈ l, isBlank c = false) → l.dropWhile isBlank = l := by
    intro l hl
    cases l with
    | nil => rfl
    | cons c l => exact List.dropWhile_cons_of_neg (by rw [hl c List.mem_cons_self]; decide)
  unfold trim
  rw [hkeeps cs h, hkeeps _ fun c hc => h c (List.mem_reverse.mp hc), List.reverse_reverse]

/-! ## Lines -/

/-- How a line ends. -/
inductive LineEnd where
  | lineFeed
  | carriageReturn
deriving DecidableEq, Repr

/-- What stands before the line feed. -/
def LineEnd.kept : LineEnd → List Char
  | .lineFeed => []
  | .carriageReturn => ['\r']

lemma LineEnd.allBlank_kept (ending : LineEnd) : AllBlank ending.kept := by
  cases ending with
  | lineFeed => simp [AllBlank, kept]
  | carriageReturn =>
    intro c hc
    rw [List.mem_singleton.mp hc]
    decide

/-- Lines one after the other, each with its end. -/
def written (ls : List (List Char × LineEnd)) : List Char :=
  ls.flatMap fun l => l.1 ++ l.2.kept ++ ['\n']

lemma lines_append_lineFeed {line : List Char} (h : '\n' ∉ line) (rest : List Char) :
    lines (line ++ '\n' :: rest) = line :: lines rest := by
  induction line with
  | nil =>
    show lines ('\n' :: rest) = _
    rw [lines, if_pos rfl]
  | cons c line ih =>
    have hc : c ≠ '\n' := fun heq => h (heq ▸ List.mem_cons_self)
    have hline := ih fun hmem => h (List.mem_cons_of_mem _ hmem)
    show lines (c :: (line ++ '\n' :: rest)) = _
    rw [lines, if_neg hc, hline]

/-- A text is read line by line as it was written; a carriage return stays with its line. -/
lemma lines_written {ls : List (List Char × LineEnd)} (h : ∀ l ∈ ls, '\n' ∉ l.1) :
    lines (written ls) = ls.map (fun l => l.1 ++ l.2.kept) ++ [[]] := by
  induction ls with
  | nil => rfl
  | cons l ls ih =>
    have hline : '\n' ∉ l.1 ++ l.2.kept := by
      rw [List.mem_append]
      refine not_or.mpr ⟨h l List.mem_cons_self, ?_⟩
      cases l.2 <;> decide
    have hrest := ih fun l' hl' => h l' (List.mem_cons_of_mem _ hl')
    have hwritten : written (l :: ls) = l.1 ++ l.2.kept ++ '\n' :: written ls := by
      unfold written
      rw [List.flatMap_cons, List.append_assoc _ ['\n']]
      rfl
    rw [hwritten, lines_append_lineFeed hline, hrest]
    rfl

lemma lines_of_no_lineFeed {line : List Char} (h : '\n' ∉ line) : lines line = [line] := by
  induction line with
  | nil => rfl
  | cons c line ih =>
    have hc : c ≠ '\n' := fun heq => h (heq ▸ List.mem_cons_self)
    have hline := ih fun hmem => h (List.mem_cons_of_mem _ hmem)
    rw [lines, if_neg hc, hline]

/-- Lines that are joined by line feeds are read back. -/
lemma lines_intercalate {ls : List (List Char)} (hne : ls ≠ []) (h : ∀ line ∈ ls, '\n' ∉ line) :
    lines (['\n'].intercalate ls) = ls := by
  induction ls with
  | nil => exact absurd rfl hne
  | cons line ls ih =>
    have hline : '\n' ∉ line := h line List.mem_cons_self
    cases ls with
    | nil =>
      rw [List.intercalate_singleton]
      exact lines_of_no_lineFeed hline
    | cons next ls =>
      have hrest := ih (List.cons_ne_nil _ _) fun l hl => h l (List.mem_cons_of_mem _ hl)
      rw [List.intercalate_cons_cons, List.append_assoc, List.singleton_append,
        lines_append_lineFeed hline, hrest]

end ManagedFaults.Text
