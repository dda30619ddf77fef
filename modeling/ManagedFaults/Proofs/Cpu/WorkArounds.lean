import ManagedFaults.Cpu.Features
import ManagedFaults.Proofs.Cpu.CoreList

/-!
# Work-arounds of the listed cores

Two work-arounds are named after a part of Arm's (`armErrata`).  The list of cores leaves three
numbers behind that decide about them: the implementer of the last core, its part, and the part
before the last change.  Of at most two kinds of cores every part is among these (`Remembers`,
`remembers_foldl`), but only one implementer is.  So a work-around is found if its part is listed
and the last core is one of Arm's (`work_arounds_of_two_kinds`).  That is right for every order of
the cores if they all have the same implementer, and may miss a core that is listed before one of
another (`missed_beside_other_implementer`).
-/

namespace ManagedFaults.Cpu

/-- What kinds of cores are told apart by. -/
structure CoreKind where
  implementer : UInt8
  part : UInt32
deriving DecidableEq, Repr

/-- A kind of core that Arm designed. -/
def CoreKind.arm (part : UInt32) : CoreKind :=
  { implementer := Family.arm.code, part }

/-- The work-arounds that cores of Arm's need, each with the part that needs it. -/
def armErrata : List (Feature × UInt32) :=
  [(.a53mac, cortexA53), (.stxrPrefetch, cortexA57)]

lemma Family.ofCode?_eq_some_iff {c : UInt8} {f : Family} :
    Family.ofCode? c = some f ↔ c = f.code := by
  constructor
  · intro h
    have hfound := List.find?_some (p := fun f : Family => f.code == c) h
    exact (beq_iff_eq.mp hfound).symm
  · rintro rfl
    cases f <;> decide

namespace Identity

variable {k : Key} {w : UInt32} {lines : List (List Char)}

/-! ## What decides about a work-around -/

/-- A work-around of Arm's is needed for its part, be that the model or the second one. -/
lemma needs_iff {e : Feature × UInt32} (he : e ∈ armErrata) (i : Identity) :
    i.needs e.1 = true ↔ i.implementer = Family.arm.code ∧ i.hasPart e.2 = true := by
  have hfamily : (i.family? == some .arm) = true ↔ i.implementer = Family.arm.code := by
    rw [beq_iff_eq]
    exact Family.ofCode?_eq_some_iff
  have hneeds : i.needs e.1 = (i.family? == some .arm && i.hasPart e.2) := by
    rcases List.mem_pair.mp he with rfl | rfl <;> rfl
  rw [hneeds, Bool.and_eq_true, hfamily]

/-- The work-arounds come from the identity, whatever the system reports. -/
lemma has_ofParts {e : Feature × UInt32} (he : e ∈ armErrata) (i : Identity)
    (reported : FeatureSet) (registers : CacheRegisters) :
    (Processor.ofParts i reported registers).features.has e.1 = i.needs e.1 := by
  have hworkAround : e.1.isWorkAround = true := by
    rcases List.mem_pair.mp he with rfl | rfl <;> rfl
  exact if_pos hworkAround

/-! ## Lines about a kind of core -/

/-- Lines of which none gives the key a number. -/
def SilentOn (k : Key) (lines : List (List Char)) : Prop :=
  ∀ line ∈ lines, ∀ w, ¬ Entry k w line

/-- Of these lines one gives the key `k` a number, and it is `w`. -/
def GivesOnce (k : Key) (w : UInt32) (lines : List (List Char)) : Prop :=
  ∃ before line after, lines = before ++ line :: after ∧ Entry k w line ∧
    SilentOn k before ∧ SilentOn k after

/-- Lines about one core of a kind: one with its implementer, of whose number the low byte counts,
and one with its part, in either order and among any lines that give neither. -/
structure KindLines (kind : CoreKind) (lines : List (List Char)) : Prop where
  implementer : ∃ w : UInt32, w.toUInt8 = kind.implementer ∧ GivesOnce .implementer w lines
  part : GivesOnce .part kind.part lines

/-- A text that lists cores of these kinds one after the other.  Before the first of them there may
be lines that are about no core. -/
def ListsKinds (kinds : List CoreKind) (text : String) : Prop :=
  ∃ (front : List (List Char)) (blocks : List (List (List Char))),
    text.toList = ['\n'].intercalate (front ++ blocks.flatten) ∧
    (∀ line ∈ front ++ blocks.flatten, '\n' ∉ line) ∧
    SilentOn .implementer front ∧ SilentOn .part front ∧ List.Forall₂ KindLines kinds blocks

lemma silentOn_iff :
    SilentOn k lines ↔ ∀ e ∈ lines.filterMap entry?, e.1 ≠ k := by
  constructor
  · rintro h e he rfl
    obtain ⟨line, hline, hentry⟩ := List.mem_filterMap.mp he
    exact h line hline e.2 (entry?_eq_some_iff.mp hentry)
  · intro h line hline w hentry
    exact h (k, w) (List.mem_filterMap.mpr ⟨line, hline, entry?_eq_some_iff.mpr hentry⟩) rfl

lemma givesOnce_iff :
    GivesOnce k w lines ↔ (lines.filterMap entry?).filter (·.1 = k) = [(k, w)] := by
  constructor
  · rintro ⟨before, line, after, rfl, hentry, hbefore, hafter⟩
    have hnone : ∀ {lines}, SilentOn k lines → (lines.filterMap entry?).filter (·.1 = k) = [] := by
      intro lines hsilent
      refine List.filter_eq_nil_iff.mpr fun e he => ?_
      exact decide_eq_true_iff.not.mpr (silentOn_iff.mp hsilent e he)
    rw [List.filterMap_append, List.filterMap_cons_some (entry?_eq_some_iff.mpr hentry),
      List.filter_append, List.filter_cons_of_pos (by simp), hnone hbefore, hnone hafter,
      List.nil_append]
  · intro h
    obtain ⟨es, es', hes, hbefore, -, hafter⟩ := List.filter_eq_cons_iff.mp h
    obtain ⟨before, rest, rfl, rfl, hrest⟩ := List.filterMap_eq_append_iff.mp hes
    obtain ⟨skipped, line, after, rfl, hskipped, hentry, rfl⟩ := List.filterMap_eq_cons_iff.mp hrest
    refine ⟨before ++ skipped, line, after, (List.append_assoc _ _ _).symm,
      entry?_eq_some_iff.mp hentry, silentOn_iff.mpr ?_, silentOn_iff.mpr ?_⟩
    · intro e he
      rw [List.filterMap_append, List.filterMap_eq_nil_iff.mpr hskipped, List.append_nil] at he
      exact of_decide_eq_false (Bool.eq_false_iff.mpr (hbefore e he))
    · intro e he
      exact of_decide_eq_false (Bool.eq_false_iff.mpr (List.filter_eq_nil_iff.mp hafter e he))

/-- A line gives a number to one key only. -/
lemma silentOn_singleton {line : List Char} (h : Entry k w line) {k' : Key} (hne : k ≠ k') :
    SilentOn k' [line] := by
  rw [silentOn_iff, List.filterMap_cons_some (entry?_eq_some_iff.mpr h)]
  intro e he
  rw [List.mem_singleton.mp he]
  exact hne

lemma silentOn_nil : SilentOn k [] := by
  intro line hline
  cases hline

/-- Every kind of core can be described. -/
lemma exists_kindLines (kind : CoreKind) :
    ∃ lines, KindLines kind lines ∧ ∀ line ∈ lines, '\n' ∉ line := by
  obtain ⟨first, hfirst, hfirstEnd⟩ := exists_entry .implementer kind.implementer.toUInt32
  obtain ⟨second, hsecond, hsecondEnd⟩ := exists_entry .part kind.part
  have hsame : kind.implementer.toUInt32.toUInt8 = kind.implementer :=
    UInt8.toUInt8_toUInt32 kind.implementer
  refine ⟨[first, second], ⟨⟨_, hsame, [], first, [second], rfl, hfirst, silentOn_nil, ?_⟩,
    [first], second, [], rfl, hsecond, ?_, silentOn_nil⟩, ?_⟩
  · exact silentOn_singleton hsecond (by decide)
  · exact silentOn_singleton hfirst (by decide)
  · exact List.forall_mem_cons.mpr ⟨hfirstEnd, List.forall_mem_singleton.mpr hsecondEnd⟩

/-- Every list of kinds is listed by some text. -/
theorem exists_listsKinds (kinds : List CoreKind) : ∃ text, ListsKinds kinds text := by
  suffices h : ∃ blocks : List (List (List Char)),
      (∀ line ∈ blocks.flatten, '\n' ∉ line) ∧ List.Forall₂ KindLines kinds blocks by
    obtain ⟨blocks, hlines, hkinds⟩ := h
    exact ⟨String.ofList _, [], blocks, String.toList_ofList, hlines, silentOn_nil, silentOn_nil,
      hkinds⟩
  induction kinds with
  | nil => exact ⟨[], by simp, .nil⟩
  | cons kind kinds ih =>
    obtain ⟨blocks, hlines, hkinds⟩ := ih
    obtain ⟨lines, hkind, hends⟩ := exists_kindLines kind
    refine ⟨lines :: blocks, fun line hline => ?_, .cons hkind hkinds⟩
    rw [List.flatten_cons, List.mem_append] at hline
    exact hline.elim (hends line) (hlines line)

/-! ## What the lines leave behind -/

/-- What `f` shows is changed by entries of the key `k` alone, and what they make of it depends on
nothing else. -/
structure OwnedBy {β : Type} (k : Key) (f : Identity → β) : Prop where
  of_other : ∀ (i : Identity) (k' : Key) (w : UInt32), k' ≠ k → f (i.set k' w) = f i
  of_own : ∀ (i j : Identity) (w : UInt32), f i = f j → f (i.set k w) = f (j.set k w)

/-- The two models. -/
def parts (i : Identity) : UInt32 × UInt32 := (i.model, i.model2)

lemma ownedBy_implementer : OwnedBy .implementer Identity.implementer where
  of_other i k w h := by cases k <;> first | rfl | exact absurd rfl h
  of_own _ _ _ _ := rfl

lemma ownedBy_part : OwnedBy .part parts where
  of_other i k w h := by cases k <;> first | rfl | exact absurd rfl h
  of_own i j w h := by
    have hmodel : i.model = j.model := congrArg Prod.fst h
    have hmodel2 : i.model2 = j.model2 := congrArg Prod.snd h
    unfold parts set
    rw [hmodel, hmodel2]

namespace OwnedBy

variable {β : Type} {f : Identity → β}

/-- Lines that are silent on a key leave what it owns as it is. -/
lemma afterLines_of_silent (h : OwnedBy k f) (hsilent : SilentOn k lines) (i : Identity) :
    f (i.afterLines lines) = f i := by
  have hothers := silentOn_iff.mp hsilent
  unfold afterLines
  generalize lines.filterMap entry? = es at hothers ⊢
  induction es generalizing i with
  | nil => rfl
  | cons e es ih =>
    have hrest := ih (i.set e.1 e.2) fun e' he' => hothers e' (List.mem_cons_of_mem _ he')
    rw [List.foldl_cons, hrest, h.of_other _ _ _ (hothers e List.mem_cons_self)]

/-- The one line that gives the key its number decides about what the key owns. -/
lemma afterLines_of_givesOnce (h : OwnedBy k f) (hgives : GivesOnce k w lines) (i : Identity) :
    f (i.afterLines lines) = f (i.set k w) := by
  obtain ⟨before, line, after, rfl, hentry, hbefore, hafter⟩ := hgives
  have hline : ∀ j : Identity, j.afterLines (line :: after) = (j.set k w).afterLines after := by
    intro j
    unfold afterLines
    rw [List.filterMap_cons_some (entry?_eq_some_iff.mpr hentry), List.foldl_cons]
  rw [afterLines_append, hline, h.afterLines_of_silent hafter]
  exact h.of_own _ _ _ (h.afterLines_of_silent hbefore i)

end OwnedBy

/-- What is known after a core of one more kind, as far as kinds are concerned. -/
def addKind (i : Identity) (kind : CoreKind) : Identity :=
  { i.set .part kind.part with implementer := kind.implementer }

/-- Lines about cores of some kinds leave behind what the kinds do. -/
lemma afterLines_of_kinds {kinds : List CoreKind} {blocks : List (List (List Char))}
    (h : List.Forall₂ KindLines kinds blocks) {i j : Identity}
    (himplementer : i.implementer = j.implementer) (hparts : i.parts = j.parts) :
    (i.afterLines blocks.flatten).implementer = (kinds.foldl addKind j).implementer ∧
      (i.afterLines blocks.flatten).parts = (kinds.foldl addKind j).parts := by
  induction h generalizing i j with
  | nil => exact ⟨himplementer, hparts⟩
  | cons hkind _ ih =>
    rw [List.flatten_cons, afterLines_append, List.foldl_cons]
    obtain ⟨w, hw, hgives⟩ := hkind.implementer
    refine ih ?_ ?_
    · rw [ownedBy_implementer.afterLines_of_givesOnce hgives]
      exact hw
    · rw [ownedBy_part.afterLines_of_givesOnce hkind.part]
      exact ownedBy_part.of_own i j _ hparts

/-- A text that lists cores is read kind by kind. -/
lemma ofCoreList_of_listsKinds {kinds : List CoreKind} {text : String} (h : ListsKinds kinds text) :
    (ofCoreList text).implementer = (kinds.foldl addKind {}).implementer ∧
      (ofCoreList text).parts = (kinds.foldl addKind {}).parts := by
  obtain ⟨front, blocks, htext, hlines, himplementer, hpart, hkinds⟩ := h
  have hread : ofCoreList text = (afterLines {} front).afterLines blocks.flatten := by
    rw [← afterLines_append]
    show afterLines {} (Text.lines text.toList) = _
    rw [htext]
    by_cases hempty : front ++ blocks.flatten = []
    · -- no lines at all are read as an empty one
      rw [hempty]
      rfl
    · rw [Text.lines_intercalate hempty hlines]
  rw [hread]
  exact afterLines_of_kinds hkinds (ownedBy_implementer.afterLines_of_silent himplementer {})
    (ownedBy_part.afterLines_of_silent hpart {})

/-! ## What the kinds leave behind -/

/-- The implementer is that of the last core. -/
lemma implementer_foldl_addKind (kinds : List CoreKind) :
    (kinds.foldl addKind {}).implementer = kinds.getLast?.elim 0 (·.implementer) := by
  induction kinds using List.reverseRecOn with
  | nil => rfl
  | append_singleton kinds last =>
    rw [List.foldl_append, List.getLast?_concat]
    rfl

lemma hasPart_iff (i : Identity) (part : UInt32) :
    i.hasPart part = true ↔ i.model = part ∨ i.model2 = part := by
  unfold hasPart
  rw [Bool.or_eq_true, beq_iff_eq, beq_iff_eq]

lemma hasPart_congr {i j : Identity} (h : i.parts = j.parts) (part : UInt32) :
    i.hasPart part = j.hasPart part :=
  congrArg (fun parts : UInt32 × UInt32 => parts.1 == part || parts.2 == part) h

/-- The new part is one of the two, beside the model if that has another one. -/
lemma hasPart_addKind (i : Identity) (kind : CoreKind) (part : UInt32) :
    (i.addKind kind).hasPart part = true ↔
      kind.part = part ∨ (if i.model = kind.part then i.model2 else i.model) = part :=
  hasPart_iff _ part

/-- Of the cores so far every part is one of the two models, and nothing else is but 0. -/
structure Remembers (kinds : List CoreKind) (i : Identity) : Prop where
  covered : ∀ kind ∈ kinds, i.hasPart kind.part = true
  listed : ∀ part, i.hasPart part = true → part = 0 ∨ ∃ kind ∈ kinds, kind.part = part
  /-- The model itself is listed as soon as there is a core. -/
  model_listed : kinds ≠ [] → ∃ kind ∈ kinds, kind.part = i.model

/-- Of at most two kinds, two different ones are all there are. -/
lemma eq_or_eq_of_two {a b x y z : CoreKind} (hx : x = a ∨ x = b) (hy : y = a ∨ y = b)
    (hz : z = a ∨ z = b) (hne : x ≠ y) : z = x ∨ z = y := by
  grind

/-- One more core of at most two kinds does not push out a part that is still needed. -/
lemma Remembers.covered_addKind {kinds : List CoreKind} {last kind a b : CoreKind} {i : Identity}
    (h : Remembers kinds i) (htwo : ∀ kind ∈ kinds ++ [last], kind = a ∨ kind = b)
    (hkind : kind ∈ kinds) : (i.addKind last).hasPart kind.part = true := by
  rw [hasPart_addKind]
  by_cases hsame : i.model = last.part
  · rw [if_pos hsame, ← hsame]
    exact (hasPart_iff _ _).mp (h.covered kind hkind)
  · -- the last core is of another kind than that of the model, so there is no third one
    rw [if_neg hsame]
    obtain ⟨other, hother, hmodel⟩ := h.model_listed (List.ne_nil_of_mem hkind)
    have hne : last ≠ other := by
      rintro rfl
      exact hsame hmodel.symm
    have hmem : ∀ k ∈ kinds, k ∈ kinds ++ [last] := fun k => List.mem_append_left [last]
    have hlast : last ∈ kinds ++ [last] := List.mem_append_right _ (List.mem_singleton_self _)
    rw [← hmodel]
    rcases eq_or_eq_of_two (htwo last hlast) (htwo other (hmem other hother))
      (htwo kind (hmem kind hkind)) hne with rfl | rfl
    · exact .inl rfl
    · exact .inr rfl

/-- What is remembered after one more core of at most two kinds. -/
lemma Remembers.addKind {kinds : List CoreKind} {last a b : CoreKind} {i : Identity}
    (h : Remembers kinds i) (htwo : ∀ kind ∈ kinds ++ [last], kind = a ∨ kind = b) :
    Remembers (kinds ++ [last]) (i.addKind last) where
  covered kind hkind := by
    rcases List.mem_append.mp hkind with hbefore | hnew
    · exact h.covered_addKind htwo hbefore
    · rw [List.mem_singleton.mp hnew, hasPart_addKind]
      exact .inl rfl
  listed part hpart := by
    have hlast : ∃ kind ∈ kinds ++ [last], kind.part = last.part :=
      ⟨last, List.mem_append_right _ (List.mem_singleton_self _), rfl⟩
    rcases (hasPart_addKind i last part).mp hpart with rfl | hbefore
    · exact .inr hlast
    · have hold : i.hasPart part = true := by
        rw [hasPart_iff]
        split at hbefore
        · exact .inr hbefore
        · exact .inl hbefore
      refine (h.listed part hold).imp_right ?_
      rintro ⟨kind, hkind, hpart⟩
      exact ⟨kind, List.mem_append_left _ hkind, hpart⟩
  model_listed _ := ⟨last, List.mem_append_right _ (List.mem_singleton_self _), rfl⟩

/-- Of at most two kinds of cores every part is remembered. -/
lemma remembers_foldl {kinds : List CoreKind} {a b : CoreKind}
    (htwo : ∀ kind ∈ kinds, kind = a ∨ kind = b) : Remembers kinds (kinds.foldl addKind {}) := by
  induction kinds using List.reverseRecOn with
  | nil =>
    refine ⟨by simp, fun part hpart => .inl ?_, fun hne => absurd rfl hne⟩
    exact ((hasPart_iff _ _).mp hpart).elim Eq.symm Eq.symm
  | append_singleton kinds last ih =>
    rw [List.foldl_append]
    exact (ih fun kind hkind => htwo kind (List.mem_append_left _ hkind)).addKind htwo

/-! ## Two kinds of cores -/

/-- What the work-arounds of a text are: of at most two kinds of cores every part counts, but only
the implementer of the last core. -/
lemma has_iff_of_listsKinds {kinds : List CoreKind} {text : String} (hlists : ListsKinds kinds text)
    {a b : CoreKind} (htwo : ∀ kind ∈ kinds, kind = a ∨ kind = b) {e : Feature × UInt32}
    (he : e ∈ armErrata) (reported : FeatureSet) (registers : CacheRegisters) :
    (Processor.ofParts (ofCoreList text) reported registers).features.has e.1 = true ↔
      (∃ last ∈ kinds.getLast?, last.implementer = Family.arm.code) ∧
        ∃ kind ∈ kinds, kind.part = e.2 := by
  obtain ⟨himplementer, hparts⟩ := ofCoreList_of_listsKinds hlists
  have hremembers := remembers_foldl htwo
  have hnonzero : e.2 ≠ 0 := by
    rcases List.mem_pair.mp he with rfl | rfl <;> decide
  have hlast : kinds.getLast?.elim 0 (·.implementer) = Family.arm.code ↔
      ∃ last ∈ kinds.getLast?, last.implementer = Family.arm.code := by
    cases kinds.getLast? with
    | none => simp [Family.code]
    | some last => simp
  have hpart : (kinds.foldl addKind {}).hasPart e.2 = true ↔ ∃ kind ∈ kinds, kind.part = e.2 := by
    constructor
    · exact fun h => (hremembers.listed _ h).resolve_left hnonzero
    · rintro ⟨kind, hkind, heq⟩
      rw [← heq]
      exact hremembers.covered kind hkind
  rw [has_ofParts he, needs_iff he, hasPart_congr hparts, himplementer, implementer_foldl_addKind,
    hlast, hpart]

/-- Among cores of one implementer, those of Arm's with a part are those with the part if the last
core is one of Arm's. -/
lemma listed_arm_iff {kinds : List CoreKind} {part : UInt32}
    (hsame : ∀ kind ∈ kinds, ∀ other ∈ kinds, kind.implementer = other.implementer) :
    ((∃ last ∈ kinds.getLast?, last.implementer = Family.arm.code) ∧
      ∃ kind ∈ kinds, kind.part = part) ↔ CoreKind.arm part ∈ kinds := by
  constructor
  · rintro ⟨⟨last, hlast, harm⟩, kind, hkind, rfl⟩
    have hmem : last ∈ kinds := List.mem_of_getLast? hlast
    have hkindArm : kind.implementer = Family.arm.code := (hsame kind hkind last hmem).trans harm
    have hkindEq : CoreKind.arm kind.part = kind := by
      unfold CoreKind.arm
      rw [← hkindArm]
    rwa [hkindEq]
  · intro hmem
    have hne : kinds ≠ [] := List.ne_nil_of_mem hmem
    have hlast := List.getLast?_eq_some_getLast hne
    exact ⟨⟨_, hlast, hsame _ (List.getLast_mem hne) _ hmem⟩, _, hmem, rfl⟩

/-- A list of cores of at most two kinds calls for a work-around of Arm's if a core of its part is
listed and the last core is one of Arm's.  So if all cores have the same implementer, it does if and
only if the part is listed as one of Arm's, and then neither the order of the cores nor what the
system reports makes a difference. -/
theorem work_arounds_of_two_kinds {kinds : List CoreKind} {text : String}
    (hlists : ListsKinds kinds text) (htwo : ∃ a b, ∀ kind ∈ kinds, kind = a ∨ kind = b)
    (reported : FeatureSet) (registers : CacheRegisters) :
    ∀ e ∈ armErrata,
      ((Processor.ofParts (ofCoreList text) reported registers).features.has e.1 = true ↔
        (∃ last ∈ kinds.getLast?, last.implementer = Family.arm.code) ∧
          ∃ kind ∈ kinds, kind.part = e.2) ∧
      ((∀ kind ∈ kinds, ∀ other ∈ kinds, kind.implementer = other.implementer) →
        ((Processor.ofParts (ofCoreList text) reported registers).features.has e.1 = true ↔
          CoreKind.arm e.2 ∈ kinds) ∧
        ∀ (kinds' : List CoreKind) (text' : String) (reported' : FeatureSet)
            (registers' : CacheRegisters),
          (∀ kind, kind ∈ kinds' ↔ kind ∈ kinds) → ListsKinds kinds' text' →
            (Processor.ofParts (ofCoreList text') reported' registers').features.has e.1 =
              (Processor.ofParts (ofCoreList text) reported registers).features.has e.1) := by
  obtain ⟨a, b, htwo⟩ := htwo
  intro e he
  have hhas := has_iff_of_listsKinds hlists htwo he reported registers
  refine ⟨hhas, fun hsame => ?_⟩
  have harm := hhas.trans (listed_arm_iff hsame)
  refine ⟨harm, fun kinds' text' reported' registers' hkinds hlists' => ?_⟩
  have htwo' : ∀ kind ∈ kinds', kind = a ∨ kind = b :=
    fun kind hkind => htwo kind ((hkinds kind).mp hkind)
  have hsame' : ∀ kind ∈ kinds', ∀ other ∈ kinds', kind.implementer = other.implementer :=
    fun kind hkind other hother =>
      hsame kind ((hkinds kind).mp hkind) other ((hkinds other).mp hother)
  have harm' := (has_iff_of_listsKinds hlists' htwo' he reported' registers').trans
    (listed_arm_iff hsame')
  rw [Bool.eq_iff_iff, harm', harm]
  exact hkinds _

/-- What a kernel writes about one core. -/
def kernelLines (implementer part : String) : List (List Char) :=
  ["BogoMIPS\t: 26.00", "CPU implementer\t: " ++ implementer, "CPU architecture: 8",
    "CPU variant\t: 0x0", "CPU part\t: " ++ part, "CPU revision\t: 4", ""].map String.toList

/-- What it writes about several cores, each given by its implementer and its part. -/
def kernelText (cores : List (String × String)) : String :=
  String.ofList (['\n'].intercalate (cores.map fun core => kernelLines core.1 core.2).flatten)

lemma listsKinds_kernelText {kinds : List CoreKind} {cores : List (String × String)}
    (hends : ∀ line ∈ (cores.map fun core => kernelLines core.1 core.2).flatten, '\n' ∉ line)
    (hkinds : List.Forall₂ KindLines kinds (cores.map fun core => kernelLines core.1 core.2)) :
    ListsKinds kinds (kernelText cores) :=
  ⟨[], _, String.toList_ofList, hends, silentOn_nil, silentOn_nil, hkinds⟩

/-- Such lines are about one core, whatever the two numbers are. -/
lemma kindLines_kernelLines {implementer part : String} {i p : UInt32}
    (h : (kernelLines implementer part).filterMap entry? =
      [(.implementer, i), (.architecture, 8), (.variant, 0), (.part, p), (.revision, 4)]) :
    KindLines ⟨i.toUInt8, p⟩ (kernelLines implementer part) := by
  refine ⟨⟨i, rfl, givesOnce_iff.mpr ?_⟩, givesOnce_iff.mpr ?_⟩
  · rw [h]
    rfl
  · rw [h]
    rfl

lemma kindLines_a53 : KindLines (.arm cortexA53) (kernelLines "0x41" "0xd03") :=
  kindLines_kernelLines (i := 0x41) (by decide +kernel)

lemma kindLines_a57 : KindLines (.arm cortexA57) (kernelLines "0x41" "0xd07") :=
  kindLines_kernelLines (i := 0x41) (by decide +kernel)

/-- A small core on both sides of a big one. -/
def bigBetweenLittle : String :=
  kernelText [("0x41", "0xd03"), ("0x41", "0xd07"), ("0x41", "0xd03")]

/-- The big core first, and the small one once. -/
def bigBeforeLittle : String := kernelText [("0x41", "0xd07"), ("0x41", "0xd03")]

/-- Of two kinds of Arm's both work-arounds are found, although one kind is listed on both sides of
the other, and so they are if the cores are listed in another order. -/
theorem both_found_in_any_order :
    ListsKinds [.arm cortexA53, .arm cortexA57, .arm cortexA53] bigBetweenLittle ∧
    (Processor.ofParts (ofCoreList bigBetweenLittle) (.ofBits 0) .conservative).features.has
      .a53mac = true ∧
    (Processor.ofParts (ofCoreList bigBetweenLittle) (.ofBits 0) .conservative).features.has
      .stxrPrefetch = true ∧
    ListsKinds [.arm cortexA57, .arm cortexA53] bigBeforeLittle ∧
    (Processor.ofParts (ofCoreList bigBeforeLittle) (.ofBits 0) .conservative).features.has
      .a53mac = true := by
  have hlists : ListsKinds [.arm cortexA53, .arm cortexA57, .arm cortexA53] bigBetweenLittle :=
    listsKinds_kernelText (by decide +kernel)
      (.cons kindLines_a53 (.cons kindLines_a57 (.cons kindLines_a53 .nil)))
  have hlists' : ListsKinds [.arm cortexA57, .arm cortexA53] bigBeforeLittle :=
    listsKinds_kernelText (by decide +kernel) (.cons kindLines_a57 (.cons kindLines_a53 .nil))
  have htwo : ∃ a b, ∀ kind ∈ [CoreKind.arm cortexA53, .arm cortexA57, .arm cortexA53],
      kind = a ∨ kind = b :=
    ⟨.arm cortexA53, .arm cortexA57, by decide⟩
  have hfound := work_arounds_of_two_kinds hlists htwo (.ofBits 0) .conservative
  obtain ⟨ha53, horder⟩ := (hfound (.a53mac, cortexA53) (by decide)).2 (by decide)
  obtain ⟨ha57, -⟩ := (hfound (.stxrPrefetch, cortexA57) (by decide)).2 (by decide)
  have hfirst := ha53.mpr (by decide)
  have hkinds : ∀ kind, kind ∈ [CoreKind.arm cortexA57, .arm cortexA53] ↔
      kind ∈ [CoreKind.arm cortexA53, .arm cortexA57, .arm cortexA53] := by
    intro kind
    grind
  have hsecond := horder _ _ (.ofBits 0) .conservative hkinds hlists'
  exact ⟨hlists, hfirst, ha57.mpr (by decide), hlists', hsecond.trans hfirst⟩

/-- A kind of core that somebody else designed. -/
def otherKind : CoreKind := { implementer := Family.qualcomm.code, part := 0x201 }

lemma kindLines_otherKind : KindLines otherKind (kernelLines "0x51" "0x201") :=
  kindLines_kernelLines (i := 0x51) (by decide +kernel)

/-- A core of Arm's before one of another implementer. -/
def armBeforeOther : String := kernelText [("0x41", "0xd03"), ("0x51", "0x201")]

/-- The same cores in the other order. -/
def armAfterOther : String := kernelText [("0x51", "0x201"), ("0x41", "0xd03")]

/-- A core that needs a work-around is missed if one of another implementer is listed after it, and
not if it is listed before. -/
theorem missed_beside_other_implementer :
    ListsKinds [.arm cortexA53, otherKind] armBeforeOther ∧
    (Processor.ofParts (ofCoreList armBeforeOther) (.ofBits 0) .conservative).features.has
      .a53mac = false ∧
    ListsKinds [otherKind, .arm cortexA53] armAfterOther ∧
    (Processor.ofParts (ofCoreList armAfterOther) (.ofBits 0) .conservative).features.has
      .a53mac = true := by
  have hbefore : ListsKinds [.arm cortexA53, otherKind] armBeforeOther :=
    listsKinds_kernelText (by decide +kernel) (.cons kindLines_a53 (.cons kindLines_otherKind .nil))
  have hafter : ListsKinds [otherKind, .arm cortexA53] armAfterOther :=
    listsKinds_kernelText (by decide +kernel) (.cons kindLines_otherKind (.cons kindLines_a53 .nil))
  have ha53mac : (Feature.a53mac, cortexA53) ∈ armErrata := List.mem_cons_self
  refine ⟨hbefore, ?_, hafter, ?_⟩
  · rw [Bool.eq_false_iff, Ne, has_iff_of_listsKinds hbefore (a := .arm cortexA53) (b := otherKind)
      (by decide) ha53mac]
    decide
  · rw [has_iff_of_listsKinds hafter (a := otherKind) (b := .arm cortexA53) (by decide) ha53mac]
    decide

end Identity
end ManagedFaults.Cpu
