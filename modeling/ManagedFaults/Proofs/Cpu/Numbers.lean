import ManagedFaults.Cpu.Identity
import ManagedFaults.Proofs.Text.Lines
import Mathlib.Data.List.Forall2
import Mathlib.Data.Nat.Digits.Defs

/-!
# Numbers in the list of cores

A number is written in decimal, or in hexadecimal after `0x` or `0X` with digits of either case, and
may have a plus sign before its digits (`Numeral`).  Those numerals of at most 32 bits are read,
with any blanks around them, and nothing else is (`number?_eq_some_iff`).
-/

namespace ManagedFaults.Cpu

variable {base n v : Nat} {c : Char} {cs : List Char}

/-! ## Digits -/

/-- `c` is the digit with value `v` in a base, of either case. -/
def IsDigit (base : Nat) (c : Char) (v : Nat) : Prop :=
  v < base ∧ (c = v.digitChar ∨ c = v.digitChar.toUpper)

/-- The digits `cs` write `n` in a base, the most significant one first. -/
def Writes (base n : Nat) (cs : List Char) : Prop :=
  cs ≠ [] ∧ ∃ values, List.Forall₂ (IsDigit base) cs values ∧ Nat.ofDigits base values.reverse = n

/-- What writes `n` in a base, after a plus sign or none. -/
inductive Unsigned (base n : Nat) : List Char → Prop
  | plain {cs : List Char} (writes : Writes base n cs) : Unsigned base n cs
  | plus {cs : List Char} (writes : Writes base n cs) : Unsigned base n ('+' :: cs)

/-- What writes `n`: decimal, or hexadecimal after its prefix. -/
inductive Numeral (n : Nat) : List Char → Prop
  | decimal {cs : List Char} (unsigned : Unsigned 10 n cs) : Numeral n cs
  | hexadecimal {cs : List Char} {x : Char} (hx : x = 'x' ∨ x = 'X') (unsigned : Unsigned 16 n cs) :
      Numeral n ('0' :: x :: cs)

namespace Identity

lemma digit?_digitChar : ∀ v < 16,
    digit? 16 v.digitChar = some v ∧ digit? 16 v.digitChar.toUpper = some v := by
  decide

/-- In a smaller base the same digits are read, as far as their values are below it. -/
lemma digit?_eq_filter (hbase : base ≤ 16) (c : Char) :
    digit? base c = (digit? 16 c).filter (· < base) := by
  unfold digit?
  dsimp only
  rw [Option.filter_filter]
  refine congrArg (Option.filter · _) (funext fun v => ?_)
  by_cases hv : v < base
  · simp [hv, Nat.lt_of_lt_of_le hv hbase]
  · simp [hv]

/-- A character that is read as a digit is the one with its value, of either case. -/
lemma eq_of_digit?_sixteen (h : digit? 16 c = some v) :
    c = v.digitChar ∨ c = v.digitChar.toUpper := by
  have hdecimal : ∀ n ≤ 57, 48 ≤ n → Char.ofNat n = (n - 48).digitChar := by decide
  have hlower : ∀ n ≤ 102, 97 ≤ n → Char.ofNat n = (n - 97 + 10).digitChar := by decide
  have hupper : ∀ n ≤ 70, 65 ≤ n → Char.ofNat n = (n - 65 + 10).digitChar.toUpper := by decide
  have hchar : c = Char.ofNat c.toNat := (Char.ofNat_toNat c).symm
  obtain ⟨hvalue, -⟩ := Option.filter_eq_some_iff.mp h
  split at hvalue
  · rename_i hrange
    cases hvalue
    exact .inl (hchar.trans (hdecimal _ hrange.2 hrange.1))
  · split at hvalue
    · rename_i hrange
      cases hvalue
      exact .inl (hchar.trans (hlower _ hrange.2 hrange.1))
    · split at hvalue
      · rename_i hrange
        cases hvalue
        exact .inr (hchar.trans (hupper _ hrange.2 hrange.1))
      · cases hvalue

lemma digit?_eq_some_iff (hbase : base ≤ 16) : digit? base c = some v ↔ IsDigit base c v := by
  rw [digit?_eq_filter hbase, Option.filter_eq_some_iff, decide_eq_true_eq, and_comm]
  refine and_congr_right fun hv => ⟨eq_of_digit?_sixteen, ?_⟩
  have hread := digit?_digitChar v (Nat.lt_of_lt_of_le hv hbase)
  rintro (rfl | rfl)
  · exact hread.1
  · exact hread.2

/-! ## Runs of digits -/

/-- Digits are read on from what was read before them. -/
lemma digits?_eq_some_iff (hbase : base ≤ 16) {before : Nat} :
    digits? base before cs = some n ↔
      ∃ values, List.Forall₂ (IsDigit base) cs values ∧
        before * base ^ cs.length + Nat.ofDigits base values.reverse = n := by
  induction cs generalizing before with
  | nil =>
    rw [digits?, Option.some_inj]
    constructor
    · rintro rfl
      exact ⟨[], .nil, by simp⟩
    · rintro ⟨values, hvalues, rfl⟩
      cases hvalues
      simp
  | cons c cs ih =>
    -- the next digit moves what was read before it up by one place
    have hshift : ∀ (v : Nat) (values : List Nat), values.length = cs.length →
        (before * base + v) * base ^ cs.length + Nat.ofDigits base values.reverse =
          before * base ^ (c :: cs).length + Nat.ofDigits base (v :: values).reverse := by
      intro v values hlength
      rw [List.reverse_cons, Nat.ofDigits_append, List.length_reverse, hlength,
        Nat.ofDigits_singleton, List.length_cons]
      ring
    rw [digits?, Option.bind_eq_some_iff]
    constructor
    · rintro ⟨v, hv, hrest⟩
      obtain ⟨values, hvalues, rfl⟩ := ih.mp hrest
      exact ⟨v :: values, .cons ((digit?_eq_some_iff hbase).mp hv) hvalues,
        (hshift v values hvalues.length_eq.symm).symm⟩
    · rintro ⟨values, hvalues, rfl⟩
      obtain ⟨v, values, hv, hrest, rfl⟩ := List.forall₂_cons_left_iff.mp hvalues
      exact ⟨v, (digit?_eq_some_iff hbase).mpr hv,
        ih.mpr ⟨values, hrest, hshift v values hrest.length_eq.symm⟩⟩

lemma writes_iff (hbase : base ≤ 16) :
    Writes base n cs ↔ cs ≠ [] ∧ digits? base 0 cs = some n := by
  rw [digits?_eq_some_iff hbase, Writes]
  simp

/-! ## Numbers of 32 bits -/

/-- Digits that do not stand alone write nothing. -/
lemma not_writes_of_no_digit (hbase : base ≤ 16) (h : digit? base c = none) :
    ¬ Writes base n (c :: cs) := by
  rw [writes_iff hbase, digits?, h]
  rintro ⟨-, hread⟩
  cases hread

private lemma body_eq_some_iff (hbase : base ≤ 16) {w : UInt32} :
    (if cs.isEmpty then none
      else ((digits? base 0 cs).filter (· < UInt32.size)).map UInt32.ofNat) = some w ↔
      Writes base w.toNat cs := by
  rw [writes_iff hbase]
  by_cases hempty : cs = []
  · simp [hempty]
  rw [if_neg (by simpa using hempty), Option.map_eq_some_iff]
  constructor
  · rintro ⟨n, hread, rfl⟩
    obtain ⟨hdigits, hsize⟩ := Option.filter_eq_some_iff.mp hread
    rw [UInt32.toNat_ofNat_of_lt' (of_decide_eq_true hsize)]
    exact ⟨hempty, hdigits⟩
  · rintro ⟨-, hdigits⟩
    refine ⟨w.toNat, Option.filter_eq_some_iff.mpr ⟨hdigits, ?_⟩, UInt32.ofNat_toNat⟩
    exact decide_eq_true w.toNat_lt

lemma unsigned?_eq_some_iff (hbase : base ≤ 16) {w : UInt32} :
    unsigned? base cs = some w ↔ Unsigned base w.toNat cs := by
  unfold unsigned?
  dsimp only
  split
  · rename_i cs
    rw [body_eq_some_iff hbase]
    refine ⟨.plus, fun h => ?_⟩
    cases h with
    | plus writes => exact writes
    | plain writes => exact absurd writes (not_writes_of_no_digit hbase rfl)
  · rename_i hsign
    rw [body_eq_some_iff hbase]
    refine ⟨.plain, fun h => ?_⟩
    cases h with
    | plus writes => exact absurd rfl (hsign _)
    | plain writes => exact writes

/-- The letter that marks a hexadecimal number is no decimal digit. -/
lemma not_unsigned_ten_of_x {x : Char} (hx : x = 'x' ∨ x = 'X') :
    ¬ Unsigned 10 n ('0' :: x :: cs) := by
  rintro (⟨-, values, hvalues, -⟩ | -)
  obtain ⟨_, rest, -, hrest, -⟩ := List.forall₂_cons_left_iff.mp hvalues
  obtain ⟨v, _, hdigit, -, -⟩ := List.forall₂_cons_left_iff.mp hrest
  have hread := (digit?_eq_some_iff (by decide)).mpr hdigit
  rcases hx with rfl | rfl <;> cases hread

lemma number?_eq_some_iff_trim {w : UInt32} :
    number? cs = some w ↔ Numeral w.toNat (Text.trim cs) := by
  unfold number?
  generalize Text.trim cs = cs
  split
  · rw [unsigned?_eq_some_iff (by decide)]
    refine ⟨.hexadecimal (.inl rfl), fun h => ?_⟩
    cases h with
    | decimal unsigned => exact absurd unsigned (not_unsigned_ten_of_x (.inl rfl))
    | hexadecimal hx unsigned => exact unsigned
  · rw [unsigned?_eq_some_iff (by decide)]
    refine ⟨.hexadecimal (.inr rfl), fun h => ?_⟩
    cases h with
    | decimal unsigned => exact absurd unsigned (not_unsigned_ten_of_x (.inr rfl))
    | hexadecimal hx unsigned => exact unsigned
  · rename_i hlower hupper
    rw [unsigned?_eq_some_iff (by decide)]
    refine ⟨.decimal, fun h => ?_⟩
    cases h with
    | decimal unsigned => exact unsigned
    | hexadecimal hx unsigned =>
      rcases hx with rfl | rfl
      · exact absurd rfl (hlower _)
      · exact absurd rfl (hupper _)

/-- Every number can be written. -/
lemma exists_writes (n : Nat) : ∃ cs, Writes 10 n cs := by
  by_cases hzero : n = 0
  · exact ⟨['0'], List.cons_ne_nil _ _, [0], .cons ⟨by decide, .inl rfl⟩ .nil, hzero.symm⟩
  · let values := (Nat.digits 10 n).reverse
    have hsome : values.map Nat.digitChar ≠ [] := by
      rw [Ne, List.map_eq_nil_iff, List.reverse_eq_nil_iff, Nat.digits_eq_nil_iff_eq_zero]
      exact hzero
    have hdigits : List.Forall₂ (IsDigit 10) (values.map Nat.digitChar) values := by
      refine List.forall₂_map_left_iff.mpr (List.forall₂_same.mpr fun v hv => ⟨?_, .inl rfl⟩)
      exact Nat.digits_lt_base (by decide) (List.mem_reverse.mp hv)
    refine ⟨_, hsome, values, hdigits, ?_⟩
    rw [List.reverse_reverse, Nat.ofDigits_digits]

/-! ## Numbers between blanks -/

lemma isBlank_digitChar : ∀ v < 16, Text.isBlank v.digitChar = false ∧
    Text.isBlank v.digitChar.toUpper = false := by
  decide

lemma isBlank_of_isDigit (hbase : base ≤ 16) (h : IsDigit base c v) : Text.isBlank c = false := by
  have hblank := isBlank_digitChar v (Nat.lt_of_lt_of_le h.1 hbase)
  rcases h.2 with rfl | rfl
  · exact hblank.1
  · exact hblank.2

lemma isBlank_of_writes (hbase : base ≤ 16) (h : Writes base n cs) :
    ∀ c ∈ cs, Text.isBlank c = false := by
  obtain ⟨-, values, hvalues, -⟩ := h
  induction hvalues with
  | nil => simp
  | cons hdigit _ ih => exact List.forall_mem_cons.mpr ⟨isBlank_of_isDigit hbase hdigit, ih⟩

lemma isBlank_of_unsigned (hbase : base ≤ 16) (h : Unsigned base n cs) :
    ∀ c ∈ cs, Text.isBlank c = false := by
  cases h with
  | plain writes => exact isBlank_of_writes hbase writes
  | plus writes => exact List.forall_mem_cons.mpr ⟨rfl, isBlank_of_writes hbase writes⟩

lemma isBlank_of_numeral (h : Numeral n cs) : ∀ c ∈ cs, Text.isBlank c = false := by
  cases h with
  | decimal unsigned => exact isBlank_of_unsigned (by decide) unsigned
  | hexadecimal hx unsigned =>
    refine List.forall_mem_cons.mpr ⟨rfl, List.forall_mem_cons.mpr ⟨?_, ?_⟩⟩
    · rcases hx with rfl | rfl <;> rfl
    · exact isBlank_of_unsigned (by decide) unsigned

/-- What is read as a number is a numeral of at most 32 bits between blanks. -/
theorem number?_eq_some_iff {w : UInt32} :
    number? cs = some w ↔ ∃ numeral, Text.Padded numeral cs ∧ Numeral w.toNat numeral := by
  rw [number?_eq_some_iff_trim]
  constructor
  · exact fun h => ⟨_, Text.padded_trim cs, h⟩
  · rintro ⟨numeral, hpadded, h⟩
    rwa [hpadded.trim_eq, Text.trim_of_no_blank (isBlank_of_numeral h)]

end Identity
end ManagedFaults.Cpu
