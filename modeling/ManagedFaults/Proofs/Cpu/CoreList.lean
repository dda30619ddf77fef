import ManagedFaults.Proofs.Cpu.MainId
import ManagedFaults.Proofs.Cpu.Numbers
import Mathlib.Data.List.Induction
import Mathlib.Data.List.Perm.Basic

/-!
# The list of cores

A line of the list either gives a number to one of the keys (`Entry`) or is passed over (`Ignored`),
and the five entries of a core may stand in any order (`CoreLines`).  Every list of cores is listed
by some text (`exists_listsCores`).  A text that lists cores is read as the register of the last
core is decoded, with the part number of the last core of another kind as the second model
(`core_list_agrees_with_register`).
-/

namespace ManagedFaults.Cpu

open Text (Padded LineEnd)

namespace Identity

variable {k : Key} {w : UInt32} {key value line cs : List Char}

/-! ## Lines -/

/-- A line that gives the key `k` the number `w`. -/
def Entry (k : Key) (w : UInt32) (line : List Char) : Prop :=
  ∃ key value numeral, Padded k.text.toList key ∧ Padded numeral value ∧ Numeral w.toNat numeral ∧
    line = key ++ ':' :: value

/-- A line that says nothing about a core. -/
inductive Ignored : List Char → Prop
  | noColon {line : List Char} (hcolon : ':' ∉ line) : Ignored line
  | otherKey {key value : List Char} (hcolon : ':' ∉ key)
      (hkey : ∀ k : Key, ¬ Padded k.text.toList key) : Ignored (key ++ ':' :: value)
  | noNumber {key value : List Char} (hcolon : ':' ∉ key)
      (hvalue : ∀ (w : UInt32) (numeral : List Char),
        Padded numeral value → ¬ Numeral w.toNat numeral) :
      Ignored (key ++ ':' :: value)

/-- The spelling of every key is trimmed and has no colon. -/
lemma key_text (k : Key) : Text.trim k.text.toList = k.text.toList ∧ ':' ∉ k.text.toList := by
  cases k <;> decide

lemma ofText?_eq_some_iff : Key.ofText? cs = some k ↔ cs = k.text.toList := by
  constructor
  · intro h
    have hfound := List.find?_some (p := fun k : Key => k.text.toList == cs) h
    exact (beq_iff_eq.mp hfound).symm
  · rintro rfl
    cases k <;> decide

lemma ofText?_trim_eq_some_iff :
    Key.ofText? (Text.trim cs) = some k ↔ Padded k.text.toList cs := by
  rw [ofText?_eq_some_iff]
  constructor
  · intro h
    rw [← h]
    exact Text.padded_trim cs
  · intro h
    rw [h.trim_eq, (key_text k).1]

lemma not_mem_of_padded_key (h : Padded k.text.toList key) : ':' ∉ key := by
  obtain ⟨before, after, hbefore, hafter, rfl⟩ := h
  have hblank : Text.isBlank ':' ≠ true := by decide
  simp only [List.mem_append, not_or]
  exact ⟨⟨fun hmem => hblank (hbefore _ hmem), (key_text k).2⟩, fun hmem => hblank (hafter _ hmem)⟩

lemma entry?_of_no_colon (h : ':' ∉ line) : entry? line = none := by
  have hdrop : line.dropWhile (· != ':') = [] :=
    List.dropWhile_eq_nil_iff.mpr fun c hc => bne_iff_ne.mpr fun heq => h (heq ▸ hc)
  unfold entry?
  rw [hdrop]

/-- A line is split at its first colon. -/
lemma entry?_of_colon (h : ':' ∉ key) : entry? (key ++ ':' :: value) =
    (number? value).bind fun n => (Key.ofText? (Text.trim key)).map fun k => (k, n) := by
  have hkey : ∀ c ∈ key, (c != ':') = true := fun c hc => bne_iff_ne.mpr fun heq => h (heq ▸ hc)
  have hdrop : (key ++ ':' :: value).dropWhile (· != ':') = ':' :: value :=
    List.dropWhile_append_of_pos hkey
  have htake : (key ++ ':' :: value).takeWhile (· != ':') = key := by
    rw [List.takeWhile_append_of_pos hkey]
    exact List.append_nil key
  unfold entry?
  rw [hdrop, htake]

lemma entry?_eq_some_iff : entry? line = some (k, w) ↔ Entry k w line := by
  constructor
  · intro h
    by_cases hcolon : ':' ∈ line
    · obtain ⟨key, value, rfl, hkey⟩ := List.eq_append_cons_of_mem hcolon
      rw [entry?_of_colon hkey] at h
      obtain ⟨n, hn, hrest⟩ := Option.bind_eq_some_iff.mp h
      obtain ⟨k', hk, heq⟩ := Option.map_eq_some_iff.mp hrest
      cases heq
      obtain ⟨numeral, hvalue, hnumeral⟩ := number?_eq_some_iff.mp hn
      exact ⟨key, value, numeral, ofText?_trim_eq_some_iff.mp hk, hvalue, hnumeral, rfl⟩
    · rw [entry?_of_no_colon hcolon] at h
      cases h
  · rintro ⟨key, value, numeral, hkey, hvalue, hnumeral, rfl⟩
    rw [entry?_of_colon (not_mem_of_padded_key hkey),
      number?_eq_some_iff.mpr ⟨numeral, hvalue, hnumeral⟩, ofText?_trim_eq_some_iff.mpr hkey]
    rfl

lemma entry?_eq_none_iff : entry? line = none ↔ Ignored line := by
  constructor
  · intro h
    by_cases hcolon : ':' ∈ line
    · obtain ⟨key, value, rfl, hkey⟩ := List.eq_append_cons_of_mem hcolon
      rw [entry?_of_colon hkey] at h
      cases hnumber : number? value with
      | none =>
        refine .noNumber hkey fun w numeral hvalue hnumeral => ?_
        have hread : number? value = some w := number?_eq_some_iff.mpr ⟨numeral, hvalue, hnumeral⟩
        rw [hnumber] at hread
        cases hread
      | some n =>
        rw [hnumber, Option.bind_some, Option.map_eq_none_iff] at h
        refine .otherKey hkey fun k hpadded => ?_
        rw [ofText?_trim_eq_some_iff.mpr hpadded] at h
        cases h
    · exact .noColon hcolon
  · intro h
    cases h with
    | noColon hcolon => exact entry?_of_no_colon hcolon
    | otherKey hcolon hkey =>
      rw [entry?_of_colon hcolon]
      refine Option.bind_eq_none_iff.mpr fun n _ => Option.map_eq_none_iff.mpr ?_
      exact Option.eq_none_iff_forall_ne_some.mpr fun k hk =>
        hkey k (ofText?_trim_eq_some_iff.mp hk)
    | noNumber hcolon hvalue =>
      rw [entry?_of_colon hcolon]
      have hnumber : number? _ = none := Option.eq_none_iff_forall_ne_some.mpr fun w hw =>
        let ⟨numeral, hpadded, hnumeral⟩ := number?_eq_some_iff.mp hw
        hvalue w numeral hpadded hnumeral
      rw [hnumber]
      rfl

/-- However a line ends, it is read as its contents are. -/
lemma entry?_append_kept (line : List Char) (ending : LineEnd) :
    entry? (line ++ ending.kept) = entry? line := by
  by_cases hcolon : ':' ∈ line
  · obtain ⟨key, value, rfl, hkey⟩ := List.eq_append_cons_of_mem hcolon
    have hnumber : number? (value ++ ending.kept) = number? value := by
      unfold number?
      rw [Text.trim_append_blank ending.allBlank_kept]
    rw [List.append_assoc, List.cons_append, entry?_of_colon hkey, hnumber, entry?_of_colon hkey]
  · have hkept : ':' ∉ ending.kept := fun hmem => absurd (ending.allBlank_kept _ hmem) (by decide)
    rw [entry?_of_no_colon hcolon,
      entry?_of_no_colon fun hmem => (List.mem_append.mp hmem).elim hcolon hkept]

lemma filterMap_entry?_written {ls : List (List Char × LineEnd)} (h : ∀ l ∈ ls, '\n' ∉ l.1) :
    (Text.lines (Text.written ls)).filterMap entry? = (ls.map Prod.fst).filterMap entry? := by
  have hempty : entry? [] = none := entry?_of_no_colon List.not_mem_nil
  rw [Text.lines_written h, List.filterMap_append, List.filterMap_cons_none hempty,
    List.filterMap_nil, List.append_nil, List.filterMap_map, List.filterMap_map]
  exact congrArg (List.filterMap · ls) (funext fun l => entry?_append_kept l.1 l.2)

/-! ## Cores -/

/-- Every key that identifies a core. -/
def Key.all : List Key := [.implementer, .variant, .architecture, .part, .revision]

/-- Lines that give these keys the fields of `id`, in this order, among ignored ones. -/
inductive Describes (id : MainId) : List Key → List (List Char) → Prop
  | done : Describes id [] []
  | passedOver {keys : List Key} {line : List Char} {lines : List (List Char)}
      (ignored : Ignored line) (rest : Describes id keys lines) : Describes id keys (line :: lines)
  | entry {k : Key} {keys : List Key} {line : List Char} {lines : List (List Char)}
      (entry : Entry k (id.field k) line) (rest : Describes id keys lines) :
      Describes id (k :: keys) (line :: lines)

/-- Lines with an entry for each key of one core, in any order. -/
def CoreLines (id : MainId) (lines : List (List Char)) : Prop :=
  ∃ keys : List Key, keys.Perm Key.all ∧ Describes id keys lines

/-- A text that lists these cores one after the other, with either end on each of its lines. -/
def ListsCores (cores : List MainId) (text : String) : Prop :=
  ∃ blocks : List (List (List Char × LineEnd)),
    text.toList = Text.written blocks.flatten ∧ (∀ l ∈ blocks.flatten, '\n' ∉ l.1) ∧
      List.Forall₂ (fun id block => CoreLines id (block.map Prod.fst)) cores blocks

/-- What is known after one more core. -/
def addCore (i : Identity) (id : MainId) : Identity :=
  { id.identity with model2 := if i.model = id.field .part then i.model2 else i.model }

/-- Every field can be given to its key in one line. -/
lemma exists_entry (k : Key) (w : UInt32) : ∃ line, Entry k w line ∧ '\n' ∉ line := by
  obtain ⟨numeral, hwrites⟩ := exists_writes w.toNat
  have hnumeral : Numeral w.toNat numeral := .decimal (.plain hwrites)
  have hkey : '\n' ∉ k.text.toList := by cases k <;> decide
  have hblank : Text.isBlank '\n' ≠ false := by decide
  refine ⟨k.text.toList ++ ':' :: numeral,
    ⟨_, _, numeral, .refl _, .refl _, hnumeral, rfl⟩, ?_⟩
  simp only [List.mem_append, List.mem_cons, not_or]
  exact ⟨hkey, by decide, fun hmem => hblank (isBlank_of_numeral hnumeral _ hmem)⟩

/-- Every core can be described. -/
lemma exists_describes (id : MainId) (keys : List Key) :
    ∃ lines, Describes id keys lines ∧ ∀ line ∈ lines, '\n' ∉ line := by
  induction keys with
  | nil => exact ⟨[], .done, by simp⟩
  | cons k keys ih =>
    obtain ⟨lines, hlines, hends⟩ := ih
    obtain ⟨line, hentry, hend⟩ := exists_entry k (id.field k)
    exact ⟨line :: lines, .entry hentry hlines, List.forall_mem_cons.mpr ⟨hend, hends⟩⟩

/-- Every list of cores is listed by some text. -/
theorem exists_listsCores (cores : List MainId) : ∃ text, ListsCores cores text := by
  let ended : List (List Char) → List (List Char × LineEnd) := List.map (·, .lineFeed)
  have hended : ∀ lines, (ended lines).map Prod.fst = lines := by
    intro lines
    rw [List.map_map]
    exact List.map_id lines
  suffices h : ∃ blocks : List (List (List Char × LineEnd)),
      (∀ l ∈ blocks.flatten, '\n' ∉ l.1) ∧
        List.Forall₂ (fun id block => CoreLines id (block.map Prod.fst)) cores blocks by
    obtain ⟨blocks, hends, hcores⟩ := h
    exact ⟨String.ofList (Text.written blocks.flatten), blocks, String.toList_ofList, hends, hcores⟩
  induction cores with
  | nil => exact ⟨[], by simp, .nil⟩
  | cons id cores ih =>
    obtain ⟨blocks, hends, hcores⟩ := ih
    obtain ⟨lines, hlines, hend⟩ := exists_describes id Key.all
    refine ⟨ended lines :: blocks, fun l hl => ?_, .cons ⟨Key.all, .rfl, ?_⟩ hcores⟩
    · rw [List.flatten_cons, List.mem_append] at hl
      rcases hl with hl | hl
      · obtain ⟨line, hline, rfl⟩ := List.mem_map.mp hl
        exact hend line hline
      · exact hends l hl
    · rw [hended]
      exact hlines

lemma Describes.filterMap_entry? {id : MainId} {keys : List Key} {lines : List (List Char)}
    (h : Describes id keys lines) :
    lines.filterMap entry? = keys.map fun k => (k, id.field k) := by
  induction h with
  | done => rfl
  | passedOver ignored _ ih =>
    rw [List.filterMap_cons_none (entry?_eq_none_iff.mpr ignored), ih]
  | entry entry _ ih =>
    rw [List.filterMap_cons_some (entry?_eq_some_iff.mpr entry), ih, List.map_cons]

/-- Entries of different keys may be taken over in either order. -/
lemma set_set_comm (i : Identity) {k k' : Key} (h : k ≠ k') (n n' : UInt32) :
    (i.set k n).set k' n' = (i.set k' n').set k n := by
  cases k <;> cases k' <;> first | rfl | exact absurd rfl h

/-- What is known after more lines. -/
def afterLines (i : Identity) (lines : List (List Char)) : Identity :=
  (lines.filterMap entry?).foldl (fun i e => i.set e.1 e.2) i

lemma afterLines_append (i : Identity) (lines more : List (List Char)) :
    i.afterLines (lines ++ more) = (i.afterLines lines).afterLines more := by
  unfold afterLines
  rw [List.filterMap_append, List.foldl_append]

/-- The entries of a core leave the same behind in every order. -/
lemma afterLines_of_coreLines {id : MainId} {lines : List (List Char)} (h : CoreLines id lines)
    (i : Identity) : i.afterLines lines = i.addCore id := by
  obtain ⟨keys, hkeys, hlines⟩ := h
  have hcomm : ∀ e ∈ keys.map fun k => (k, id.field k), ∀ e' ∈ keys.map fun k => (k, id.field k),
      ∀ i : Identity, (i.set e.1 e.2).set e'.1 e'.2 = (i.set e'.1 e'.2).set e.1 e.2 := by
    intro e he e' he' i
    obtain ⟨k, -, rfl⟩ := List.mem_map.mp he
    obtain ⟨k', -, rfl⟩ := List.mem_map.mp he'
    -- the key fixes the number, so entries of one key are the same entry
    by_cases hsame : k = k'
    · rw [hsame]
    · exact set_set_comm i hsame _ _
  unfold afterLines
  rw [hlines.filterMap_entry?, (hkeys.map _).foldl_eq' hcomm]
  unfold addCore MainId.identity
  rw [← id.toUInt8_field_implementer]
  rfl

/-- A text that lists cores is read core by core. -/
lemma ofCoreList_of_listsCores {cores : List MainId} {text : String} (h : ListsCores cores text) :
    ofCoreList text = cores.foldl addCore {} := by
  obtain ⟨blocks, htext, hlines, hcores⟩ := h
  have hread : ofCoreList text = afterLines {} (blocks.flatten.map Prod.fst) := by
    unfold ofCoreList afterLines
    rw [htext, filterMap_entry?_written hlines]
  rw [hread]
  clear htext hlines hread
  -- by induction on the cores, whatever is known before the first of them
  generalize ({} : Identity) = i
  induction hcores generalizing i with
  | nil => rfl
  | cons hcore _ ih =>
    rw [List.flatten_cons, List.map_append, afterLines_append, afterLines_of_coreLines hcore, ih,
      List.foldl_cons]

/-! ## The kinds of cores -/

/-- The part number of the last core of another kind than `last`, or 0. -/
def otherPart (cores : List MainId) (last : MainId) : UInt32 :=
  (cores.filter fun core => core.part ≠ last.part).getLast?.elim 0 (·.field .part)

lemma field_part_eq_iff (id id' : MainId) :
    id.field .part = id'.field .part ↔ id.part = id'.part := by
  constructor
  · intro h
    have hlt : ∀ part : BitVec 12, part.toNat < UInt32.size :=
      fun part => Nat.lt_of_lt_of_le part.isLt (by decide)
    have hparts := congrArg UInt32.toNat h
    unfold MainId.field at hparts
    rw [UInt32.toNat_ofNat_of_lt' (hlt _), UInt32.toNat_ofNat_of_lt' (hlt _)] at hparts
    exact BitVec.eq_of_toNat_eq hparts
  · exact congrArg fun part : BitVec 12 => UInt32.ofNat part.toNat

/-- A core of the same kind leaves the other part, and one of another kind is it. -/
lemma otherPart_append_singleton (cores : List MainId) (core last : MainId) :
    otherPart (cores ++ [core]) last =
      if core.part = last.part then otherPart cores core else core.field .part := by
  unfold otherPart
  rw [List.filter_append]
  split
  · rename_i hsame
    rw [List.filter_singleton, hsame]
    simp
  · rename_i hother
    rw [List.filter_singleton]
    simp [hother]

/-- The first core is the only kind there is. -/
lemma addCore_default (last : MainId) : addCore {} last = last.identity :=
  congrArg (fun second => { last.identity with model2 := second }) (ite_self 0)

/-- A core after another takes its place, and keeps the other's part if it is of another kind. -/
lemma addCore_after (core last : MainId) (second : UInt32) :
    addCore { core.identity with model2 := second } last =
      { last.identity with
        model2 := if core.part = last.part then second else core.field .part } := by
  unfold addCore
  simp only [← field_part_eq_iff]
  rfl

/-- What is known after a whole list: the last core, and the other part before it. -/
lemma foldl_addCore (cores : List MainId) (last : MainId) :
    (cores ++ [last]).foldl addCore {} = { last.identity with model2 := otherPart cores last } := by
  induction cores using List.reverseRecOn generalizing last with
  | nil => exact addCore_default last
  | append_singleton cores core ih =>
    rw [List.foldl_append, ih core, List.foldl_cons, List.foldl_nil, addCore_after,
      otherPart_append_singleton]

/-- Both sources of the identity agree: a register is decoded to the fields it was packed from,
and a text that lists cores gives what the register of its last core gives, with the other part
among the cores before it. -/
theorem core_list_agrees_with_register :
    (∀ w : BitVec 32, ∃ id : MainId, id.packed = w) ∧
    (∀ (id : MainId) (above : BitVec 32), ofMidr (id.register above) = id.identity) ∧
    ∀ (cores : List MainId) (last : MainId) (text : String),
      ListsCores (cores ++ [last]) text →
        ofCoreList text = { ofMidr (last.register 0) with model2 := otherPart cores last } := by
  refine ⟨MainId.exists_packed, ofMidr_register, fun cores last text h => ?_⟩
  rw [ofCoreList_of_listsCores h, foldl_addCore, ofMidr_register]

/-- A small core. -/
def little : MainId := ⟨0x41, 0, 8, 0xd03, 4⟩

/-- A big core in the same system. -/
def big : MainId := ⟨0x41, 1, 8, 0xd09, 2⟩

/-- Lines about the small core, as a kernel writes them. -/
def littleLines : List (List Char × LineEnd) :=
  ["processor\t: 0", "CPU implementer\t: 0x41", "CPU architecture: 8", "CPU variant\t: 0x0",
    "CPU part\t: 0xd03", "CPU revision\t: 4", ""].map fun l => (l.toList, .lineFeed)

/-- Lines about the big core, in another order and another spelling. -/
def bigLines : List (List Char × LineEnd) :=
  ["CPU part : 0XD09", "CPU revision:2", " CPU variant: 01", "Hardware", "CPU implementer: 65",
    "CPU part: none", "CPU architecture : 0x8"].map fun l => (l.toList, .carriageReturn)

lemma coreLines_little : CoreLines little (littleLines.map Prod.fst) := by
  refine ⟨[.implementer, .architecture, .variant, .part, .revision], by decide, ?_⟩
  exact .passedOver (entry?_eq_none_iff.mp rfl) <| .entry (entry?_eq_some_iff.mp rfl) <|
    .entry (entry?_eq_some_iff.mp rfl) <| .entry (entry?_eq_some_iff.mp rfl) <|
    .entry (entry?_eq_some_iff.mp rfl) <| .entry (entry?_eq_some_iff.mp rfl) <|
    .passedOver (entry?_eq_none_iff.mp rfl) .done

lemma coreLines_big : CoreLines big (bigLines.map Prod.fst) := by
  refine ⟨[.part, .revision, .variant, .implementer, .architecture], by decide, ?_⟩
  exact .entry (entry?_eq_some_iff.mp rfl) <| .entry (entry?_eq_some_iff.mp rfl) <|
    .entry (entry?_eq_some_iff.mp rfl) <| .passedOver (entry?_eq_none_iff.mp rfl) <|
    .entry (entry?_eq_some_iff.mp rfl) <| .passedOver (entry?_eq_none_iff.mp rfl) <|
    .entry (entry?_eq_some_iff.mp rfl) .done

/-- Both cores, the big one last. -/
def littleAndBig : String := String.ofList (Text.written (littleLines ++ bigLines))

lemma listsCores_littleAndBig : ListsCores [little, big] littleAndBig := by
  refine ⟨[littleLines, bigLines], ?_, by decide, .cons coreLines_little (.cons coreLines_big .nil)⟩
  unfold littleAndBig
  rw [String.toList_ofList]
  rfl

/-- The small core is still known after the big one. -/
theorem little_kept_beside_big :
    ListsCores [little, big] littleAndBig ∧
    ofCoreList littleAndBig = { ofMidr 0x4118d092 with model2 := 0xd03 } :=
  ⟨listsCores_littleAndBig,
    core_list_agrees_with_register.2.2 [little] big littleAndBig listsCores_littleAndBig⟩

end Identity
end ManagedFaults.Cpu
