import ManagedFaults.Proofs.Race
import ManagedFaults.Proofs.Signal.Steps
import ManagedFaults.Trap.Launch

/-!
# Races to publish a trap system

Attempts to launch a trap system may run on many threads at once.  Each claims the right to
publish, publishes its system, has it installed, and if that fails withdraws the system and only
then gives up the claim (`launch_eq_steps`).  Because of this order an attempt that holds the claim
is alone, and what it withdraws is its own system (`publishing_exclusive`).
-/

namespace ManagedFaults

namespace Publication

variable {p : Publication}

/-- A claim that comes too late changes nothing. -/
lemma claim_of_claimed (h : p.claimed = true) : p.claim = (false, p) := by
  obtain ⟨claimed, published⟩ := p
  obtain rfl : claimed = true := h
  rfl

lemma claim_of_free (h : p.claimed = false) : p.claim = (true, { p with claimed := true }) := by
  unfold claim
  rw [h]
  rfl

end Publication

/-! ## The steps of an attempt -/

/-- What an attempt to launch a trap system does next. -/
inductive LaunchStage where
  | claiming
  | publishing
  | installing
  | withdrawing (failure : TrapFailure)
  | releasing (failure : TrapFailure)
  /-- The attempt has returned. -/
  | returned (result : Except TrapFailure Unit)

namespace LaunchStage

/-- The next atomic step of an attempt, with what its installation will answer. -/
def step (installed : Nat → Except TrapFailure Unit) (attempt : Nat) :
    LaunchStage → Publication → LaunchStage × Publication
  | .claiming, p =>
    (if p.claim.1 then .publishing else .returned (.error .alreadyPublished), p.claim.2)
  | .publishing, p => (.installing, p.publish attempt)
  | .installing, p =>
    match installed attempt with
    | .ok () => (.returned (.ok ()), p)
    | .error failure => (.withdrawing failure, p)
  | .withdrawing failure, p => (.releasing failure, p.withdraw)
  | .releasing failure, p => (.returned (.error failure), p.release)
  | .returned result, p => (.returned result, p)

/-- Changes the publication by the next atomic step of an attempt. -/
def touch (stage : LaunchStage) (attempt : Nat) (installed : Except TrapFailure Unit) :
    TrapM LaunchStage :=
  modifyGet fun s =>
    let (next, publication) := stage.step (fun _ => installed) attempt s.publication
    (next, { s with publication })

/-- What an attempt says after a step: what has come of its installation, once it returns. -/
def tell : LaunchStage → LaunchStage → TrapM Unit
  | .installing, .returned result | .releasing _, .returned result => tellInstalled result
  | _, _ => pure ()

/-- Takes the next step of an attempt, which is to have its system installed or to change the
publication. -/
def take (stage : LaunchStage) (attempt : Nat) (install : TrapM (Except TrapFailure Unit)) :
    TrapM LaunchStage := do
  let installed ← match stage with
    | .installing => install
    | _ => pure (.ok ())
  let next ← stage.touch attempt installed
  stage.tell next
  return next

/-- Whether an attempt has claimed the right to publish and has not returned. -/
def UnderWay : LaunchStage → Prop
  | .publishing | .installing | .withdrawing _ | .releasing _ => True
  | .claiming | .returned _ => False

/-- Whether an attempt has the right to publish: while it is under way, and for ever once it has
succeeded. -/
def Holds : LaunchStage → Prop
  | .publishing | .installing | .withdrawing _ | .releasing _ | .returned (.ok ()) => True
  | .claiming | .returned (.error _) => False

/-- Whether the system of an attempt is the one that is published. -/
def Shows : LaunchStage → Prop
  | .installing | .withdrawing _ | .returned (.ok ()) => True
  | .claiming | .publishing | .releasing _ | .returned (.error _) => False

variable {stage : LaunchStage} {installed : Nat → Except TrapFailure Unit} {attempt : Nat}
  {p : Publication}

/-- An attempt whose claim comes too late returns without having changed anything. -/
lemma step_claiming_of_claimed (h : p.claimed = true) :
    step installed attempt .claiming p = (.returned (.error .alreadyPublished), p) := by
  simp only [step]
  rw [Publication.claim_of_claimed h]
  rfl

lemma step_claiming_of_free (h : p.claimed = false) :
    step installed attempt .claiming p = (.publishing, { p with claimed := true }) := by
  simp only [step]
  rw [Publication.claim_of_free h]
  rfl

/-- A step that is taken before the installation only changes the publication. -/
lemma run_take (stage : LaunchStage) (installed : Nat → Except TrapFailure Unit) (attempt : Nat)
    (install : TrapM (Except TrapFailure Unit)) (s : ProcessState)
    (h : stage = .claiming ∨ stage = .publishing) :
    (stage.take attempt install).run s =
      .ok (stage.step installed attempt s.publication).1
        { s with publication := (stage.step installed attempt s.publication).2 } := by
  rcases h with rfl | rfl <;> rfl

lemma take_installing (attempt : Nat) (install : TrapM (Except TrapFailure Unit)) :
    LaunchStage.installing.take attempt install = (do
      let installed ← install
      let next ← LaunchStage.installing.touch attempt installed
      LaunchStage.installing.tell next
      return next) :=
  rfl

lemma holds_of_shows (h : stage.Shows) : stage.Holds := by
  unfold Shows at h
  split at h <;> trivial

lemma holds_of_underWay (h : stage.UnderWay) : stage.Holds := by
  unfold UnderWay at h
  split at h <;> trivial

lemma holds_iff : stage.Holds ↔ stage.UnderWay ∨ stage = .returned (.ok ()) := by
  cases stage with
  | returned result => cases result <;> simp [Holds, UnderWay]
  | _ => simp [Holds, UnderWay]

end LaunchStage

/-- The race of attempts to publish a trap system, after steps in this order. -/
def raceToPublish (installed : Nat → Except TrapFailure Unit) (order : List Nat) :
    Race Publication LaunchStage :=
  Race.run (LaunchStage.step installed) { shared := {}, stage := fun _ => .claiming } order

/-! ## Who has the right to publish -/

/-- The right to publish is claimed while an attempt has it, only one has it, and what is published
belongs to that one. -/
structure Race.Exclusive (r : Race Publication LaunchStage) : Prop where
  claimed_iff : r.shared.claimed = true ↔ ∃ i, (r.stage i).Holds
  unique : ∀ i j, (r.stage i).Holds → (r.stage j).Holds → i = j
  published_iff : ∀ i, r.shared.published = some i ↔ (r.stage i).Shows

namespace Race

variable {installed : Nat → Except TrapFailure Unit} {r : Race Publication LaunchStage} {i : Nat}

lemma exclusive_start :
    Exclusive { shared := ({} : Publication), stage := fun _ => LaunchStage.claiming } where
  claimed_iff := by simp [LaunchStage.Holds]
  unique := by simp [LaunchStage.Holds]
  published_iff := by simp [LaunchStage.Shows]

/-- A step of an attempt, when no other one has the right to publish. -/
private lemma exclusive_of_alone (stage : LaunchStage) (p : Publication)
    (hothers : ∀ j, j ≠ i → ¬ (r.stage j).Holds)
    (hstep : LaunchStage.step installed i (r.stage i) r.shared = (stage, p))
    (hclaimed : p.claimed = true ↔ stage.Holds)
    (hpublished : p.published = some i ∧ stage.Shows ∨ p.published = none ∧ ¬ stage.Shows) :
    (r.after (LaunchStage.step installed) i).Exclusive := by
  obtain ⟨hstage, hshared⟩ := after_eq hstep
  have hnone : ∀ j, j ≠ i → ¬ ((r.after (LaunchStage.step installed) i).stage j).Holds :=
    fun j hj => by rw [stage_after_of_ne hj]; exact hothers j hj
  have honly : ∀ j, ((r.after (LaunchStage.step installed) i).stage j).Holds → j = i :=
    fun j hholds => Decidable.by_contra fun hj => hnone j hj hholds
  rw [← hstage, ← hshared] at hclaimed hpublished
  refine ⟨hclaimed.trans ⟨fun h => ⟨i, h⟩, fun ⟨j, hj⟩ => honly j hj ▸ hj⟩,
    fun j k hj hk => (honly j hj).trans (honly k hk).symm, fun j => ?_⟩
  by_cases hj : j = i
  · rw [hj]
    rcases hpublished with ⟨hsome, hshows⟩ | ⟨hnothing, hshows⟩
    · simp [hsome, hshows]
    · simp [hnothing, hshows]
  · have hshows := mt LaunchStage.holds_of_shows (hnone j hj)
    rcases hpublished with ⟨hsome, _⟩ | ⟨hnothing, _⟩
    · simp [hsome, hshows, Ne.symm hj]
    · simp [hnothing, hshows]

/-- A step of an attempt that neither has the right to publish nor gets it. -/
private lemma exclusive_of_idle (h : r.Exclusive) (stage : LaunchStage)
    (hstep : LaunchStage.step installed i (r.stage i) r.shared = (stage, r.shared))
    (hbefore : ¬ (r.stage i).Holds) (hafter : ¬ stage.Holds) :
    (r.after (LaunchStage.step installed) i).Exclusive := by
  obtain ⟨hstage, hshared⟩ := after_eq hstep
  have hholds : ∀ j, ((r.after (LaunchStage.step installed) i).stage j).Holds ↔
      (r.stage j).Holds := by
    intro j
    by_cases hj : j = i
    · rw [hj, hstage]
      exact iff_of_false hafter hbefore
    · rw [stage_after_of_ne hj]
  have hshows : ∀ j, ((r.after (LaunchStage.step installed) i).stage j).Shows ↔
      (r.stage j).Shows := by
    intro j
    by_cases hj : j = i
    · rw [hj, hstage]
      exact iff_of_false (mt LaunchStage.holds_of_shows hafter)
        (mt LaunchStage.holds_of_shows hbefore)
    · rw [stage_after_of_ne hj]
  refine ⟨?_, fun j k hj hk => h.unique j k ((hholds j).mp hj) ((hholds k).mp hk), fun j => ?_⟩
  · rw [hshared, h.claimed_iff]
    exact exists_congr fun j => (hholds j).symm
  · rw [hshared, h.published_iff]
    exact (hshows j).symm

namespace Exclusive

/-- Whoever has the right to publish is alone with it. -/
lemma others (h : r.Exclusive) (hi : (r.stage i).Holds) (j : Nat) (hj : j ≠ i) :
    ¬ (r.stage j).Holds :=
  fun hholds => hj (h.unique j i hholds hi)

/-- Nothing is published unless somebody's system is. -/
lemma published_eq_none (h : r.Exclusive) (hnone : ∀ j, ¬ (r.stage j).Shows) :
    r.shared.published = none := by
  cases hpublished : r.shared.published with
  | none => rfl
  | some j => exact absurd ((h.published_iff j).mp hpublished) (hnone j)

/-- If nobody has the right to publish, it is as if nothing had happened. -/
lemma shared_eq (h : r.Exclusive) (hnone : ∀ j, ¬ (r.stage j).Holds) : r.shared = {} := by
  have hclaimed : r.shared.claimed = false :=
    Bool.eq_false_iff.mpr fun hclaimed =>
      have ⟨j, hj⟩ := h.claimed_iff.mp hclaimed
      hnone j hj
  have hpublished : r.shared.published = none :=
    h.published_eq_none fun j hj => hnone j (LaunchStage.holds_of_shows hj)
  cases hshared : r.shared with
  | mk claimed published =>
    rw [hshared] at hclaimed hpublished
    rw [show claimed = false from hclaimed, show published = none from hpublished]

/-- Every step of every attempt keeps the right exclusive. -/
lemma after (h : r.Exclusive) (i : Nat) : (r.after (LaunchStage.step installed) i).Exclusive := by
  have hclaimed : (r.stage i).Holds → r.shared.claimed = true :=
    fun hi => h.claimed_iff.mpr ⟨i, hi⟩
  have hpublished : (r.stage i).Shows → r.shared.published = some i := (h.published_iff i).mpr
  have hothers := h.others (i := i)
  cases hstage : r.stage i with
  | claiming =>
    cases hfree : r.shared.claimed with
    | true =>
      exact exclusive_of_idle h (.returned (.error .alreadyPublished))
        (by rw [hstage, LaunchStage.step_claiming_of_claimed hfree]) (by rw [hstage]; exact id) id
    | false =>
      have hnobody : ∀ j, ¬ (r.stage j).Holds := fun j hj => by
        have hj := h.claimed_iff.mpr ⟨j, hj⟩
        simp [hfree] at hj
      have hnothing : r.shared.published = none :=
        h.published_eq_none fun j hj => hnobody j (LaunchStage.holds_of_shows hj)
      exact exclusive_of_alone .publishing { r.shared with claimed := true }
        (fun j _ => hnobody j) (by rw [hstage, LaunchStage.step_claiming_of_free hfree])
        (iff_of_true rfl trivial) (.inr ⟨hnothing, id⟩)
  | publishing =>
    rw [hstage] at hclaimed hothers
    exact exclusive_of_alone .installing (r.shared.publish i) (hothers trivial)
      (by rw [hstage]; rfl) (iff_of_true (hclaimed trivial) trivial) (.inl ⟨rfl, trivial⟩)
  | installing =>
    rw [hstage] at hclaimed hpublished hothers
    cases hinstalled : installed i with
    | ok _ =>
      exact exclusive_of_alone (.returned (.ok ())) r.shared (hothers trivial)
        (by simp [hstage, LaunchStage.step, hinstalled])
        (iff_of_true (hclaimed trivial) trivial) (.inl ⟨hpublished trivial, trivial⟩)
    | error failure =>
      exact exclusive_of_alone (.withdrawing failure) r.shared (hothers trivial)
        (by simp [hstage, LaunchStage.step, hinstalled])
        (iff_of_true (hclaimed trivial) trivial) (.inl ⟨hpublished trivial, trivial⟩)
  | withdrawing failure =>
    rw [hstage] at hclaimed hothers
    exact exclusive_of_alone (.releasing failure) r.shared.withdraw (hothers trivial)
      (by rw [hstage]; rfl) (iff_of_true (hclaimed trivial) trivial) (.inr ⟨rfl, id⟩)
  | releasing failure =>
    have hnothing : r.shared.published = none := by
      refine h.published_eq_none fun j => ?_
      by_cases hj : j = i
      · rw [hj, hstage]
        exact id
      · exact mt LaunchStage.holds_of_shows (hothers (by rw [hstage]; trivial) j hj)
    exact exclusive_of_alone (.returned (.error failure)) r.shared.release
      (hothers (by rw [hstage]; trivial)) (by rw [hstage]; rfl)
      (iff_of_false Bool.false_ne_true id) (.inr ⟨hnothing, id⟩)
  | returned result => rwa [after_of_rest (by rw [hstage]; rfl)]

/-- The right stays exclusive whatever the order of the steps. -/
lemma run (h : r.Exclusive) (order : List Nat) :
    (r.run (LaunchStage.step installed) order).Exclusive :=
  run_keeps (P := Exclusive) (fun _ i hr => hr.after i) h order

end Exclusive

/-- An attempt that has returned does nothing more. -/
lemma run_of_returned {result : Except TrapFailure Unit} (h : r.stage i = .returned result)
    (order : List Nat) : (r.run (LaunchStage.step installed) order).stage i = .returned result := by
  refine run_keeps (P := fun r : Race _ LaunchStage => r.stage i = .returned result)
    (fun r j hr => ?_) h order
  by_cases hj : i = j
  · rw [← hj, stage_after_self, hr]
    rfl
  · rw [stage_after_of_ne hj, hr]

/-- Once an attempt has succeeded, any other that starts finds that it is too late. -/
lemma run_of_late (hexclusive : r.Exclusive) (hsuccess : r.stage i = .returned (.ok ())) {j : Nat}
    (hj : r.stage j = .claiming) (order : List Nat) :
    (r.run (LaunchStage.step installed) order).stage j =
      if j ∈ order then .returned (.error .alreadyPublished) else .claiming := by
  induction order generalizing r with
  | nil => rw [if_neg List.not_mem_nil]; exact hj
  | cons k order ih =>
    rw [run_cons]
    by_cases hk : j = k
    · have hclaimed : r.shared.claimed = true :=
        hexclusive.claimed_iff.mpr ⟨i, by rw [hsuccess]; trivial⟩
      have hreturned : (r.after (LaunchStage.step installed) j).stage j =
          .returned (.error .alreadyPublished) := by
        rw [stage_after_self, hj, LaunchStage.step_claiming_of_claimed hclaimed]
      rw [← hk, if_pos List.mem_cons_self]
      exact run_of_returned hreturned order
    · rw [ih (hexclusive.after k) (run_of_returned hsuccess [k]) (by rw [stage_after_of_ne hk, hj])]
      simp [hk]

end Race

/-! ## An attempt that nobody interferes with -/

section Alone

variable (installed : Nat → Except TrapFailure Unit) {r : Race Publication LaunchStage} {i : Nat}

/-- An attempt that takes all its steps where nothing is claimed returns what its installation
answers, and leaves its system published only if that went well. -/
lemma Race.run_alone_of_free (hstart : r.stage i = .claiming)
    (hfree : r.shared.claimed = false) :
    (r.run (LaunchStage.step installed) (List.replicate 5 i)).stage i = .returned (installed i) ∧
      (r.run (LaunchStage.step installed) (List.replicate 5 i)).shared =
        match installed i with
        | .ok () => { claimed := true, published := some i }
        | .error _ => {} := by
  have hclaim : LaunchStage.step installed i .claiming r.shared =
      (.publishing, { r.shared with claimed := true }) := LaunchStage.step_claiming_of_free hfree
  rw [← Prod.mk.injEq, run_replicate, hstart, Function.iterate_succ_apply, hclaim]
  cases hinstalled : installed i <;>
    simp [LaunchStage.step, Publication.publish, Publication.withdraw, Publication.release,
      hinstalled]

/-- An attempt that takes its steps where the right to publish is claimed is told so. -/
lemma Race.run_alone_of_claimed (hstart : r.stage i = .claiming)
    (hclaimed : r.shared.claimed = true) :
    (r.run (LaunchStage.step installed) (List.replicate 5 i)).stage i =
        .returned (.error .alreadyPublished) ∧
      (r.run (LaunchStage.step installed) (List.replicate 5 i)).shared = r.shared := by
  have hclaim : LaunchStage.step installed i .claiming r.shared =
      (.returned (.error .alreadyPublished), r.shared) :=
    LaunchStage.step_claiming_of_claimed hclaimed
  rw [← Prod.mk.injEq, run_replicate, hstart, Function.iterate_succ_apply, hclaim]
  simp [LaunchStage.step]

end Alone

/-! ## Launching a trap system -/

section Launch

variable {s t : ProcessState} {attempt : Nat}

/-- The publication is as it was. -/
def ProcessState.SamePublication (s t : ProcessState) : Prop :=
  t.publication = s.publication

/-- The process once the system of an attempt is published. -/
def ProcessState.announced (s : ProcessState) (attempt : Nat) : ProcessState :=
  { s with publication := { claimed := true, published := some attempt } }

lemma announce_run_of_claimed (h : s.publication.claimed = true) :
    (announce attempt).run s = .ok (.error .alreadyPublished) s := by
  unfold announce
  rw [TrapM.run_get_bind]
  dsimp only
  rw [Publication.claim_of_claimed h]
  rfl

lemma announce_run_of_free (h : s.publication.claimed = false) :
    (announce attempt).run s = .ok (.ok ()) (s.announced attempt) := by
  unfold announce
  rw [TrapM.run_get_bind]
  dsimp only
  rw [Publication.claim_of_free h]
  rfl

/-- An attempt ends by the answer of its installation. -/
lemma settle_run (answer : Except TrapFailure Unit) :
    ∃ t, (settle answer).run s = .ok answer t ∧
      t.publication =
        match answer with
        | .ok () => s.publication
        | .error _ => s.publication.withdraw.release := by
  cases answer with
  | ok _ => exact ⟨_, rfl, rfl⟩
  | error failure => exact ⟨_, rfl, rfl⟩

/-- An attempt that comes too late is told so, and changes nothing. -/
lemma launch_run_of_claimed (install : TrapM (Except TrapFailure Unit))
    (h : s.publication.claimed = true) :
    (launch attempt install).run s = .ok (.error .alreadyPublished) s := by
  unfold launch
  rw [TrapM.run_bind_of_ok (announce_run_of_claimed h)]
  rfl

/-- An attempt that finds nothing claimed publishes its system and has it installed. -/
lemma launch_run_of_free (install : TrapM (Except TrapFailure Unit))
    (h : s.publication.claimed = false) :
    (launch attempt install).run s = (install >>= settle).run (s.announced attempt) := by
  unfold launch
  rw [TrapM.run_bind_of_ok (announce_run_of_free h)]

/-- Launching a trap system is taking five steps, with which the attempt has returned. -/
theorem launch_eq_steps (attempt : Nat) (install : TrapM (Except TrapFailure Unit)) :
    LaunchStage.returned <$> launch attempt install = (do
      let stage ← LaunchStage.claiming.take attempt install
      let stage ← stage.take attempt install
      let stage ← stage.take attempt install
      let stage ← stage.take attempt install
      stage.take attempt install) := by
  refine funext fun s => ?_
  have htake := fun stage => LaunchStage.run_take stage (fun _ => .ok ()) attempt install
  rw [map_eq_pure_bind]
  show (_ : TrapM LaunchStage).run s = (_ : TrapM LaunchStage).run s
  rw [TrapM.run_bind_of_ok (htake .claiming s (.inl rfl))]
  cases hclaimed : s.publication.claimed with
  | true =>
    rw [TrapM.run_bind_of_ok (launch_run_of_claimed install hclaimed),
      LaunchStage.step_claiming_of_claimed hclaimed]
    rfl
  | false =>
    rw [TrapM.run_bind_congr (launch_run_of_free install hclaimed),
      LaunchStage.step_claiming_of_free hclaimed,
      TrapM.run_bind_of_ok (htake .publishing _ (.inr rfl)), bind_assoc]
    -- the system is published, and both sides have it installed
    show (install >>= _).run (s.announced attempt) =
      (LaunchStage.installing.take attempt install >>= _).run (s.announced attempt)
    rw [LaunchStage.take_installing, bind_assoc]
    cases hrun : install.run (s.announced attempt) with
    | error e m => rw [TrapM.run_bind_of_error hrun, TrapM.run_bind_of_error hrun]
    | ok answer m =>
      rw [TrapM.run_bind_of_ok hrun, TrapM.run_bind_of_ok hrun]
      cases answer with
      | ok _ => rfl
      | error failure => rfl

/-- Launching a trap system is taking the steps of an attempt, one after the other, as long as the
installation leaves the publication alone. -/
theorem launch_run_alone {install : TrapM (Except TrapFailure Unit)}
    (hinstall : install.Within ProcessState.SamePublication ProcessState.SamePublication)
    {result : Except TrapFailure Unit} (h : (launch attempt install).run s = .ok result t) :
    ∃ installed,
      let r := Race.run (LaunchStage.step installed)
        { shared := s.publication, stage := fun _ => .claiming } (List.replicate 5 attempt)
      r.stage attempt = .returned result ∧ r.shared = t.publication := by
  cases hclaimed : s.publication.claimed with
  | true =>
    rw [launch_run_of_claimed install hclaimed, EStateM.Result.ok.injEq] at h
    obtain ⟨rfl, rfl⟩ := h
    exact ⟨fun _ => .ok (), Race.run_alone_of_claimed _ rfl hclaimed⟩
  | false =>
    rw [launch_run_of_free install hclaimed, TrapM.run_bind_ok_iff] at h
    obtain ⟨answer, m, hrun, hsettled⟩ := h
    obtain ⟨u, hsettle, hpublication⟩ := settle_run (s := m) answer
    rw [hsettle, EStateM.Result.ok.injEq] at hsettled
    obtain ⟨rfl, rfl⟩ := hsettled
    have hkept := hinstall (s.announced attempt)
    rw [hrun] at hkept
    have hkept : m.publication = { claimed := true, published := some attempt } := hkept
    refine ⟨fun _ => answer, ?_⟩
    have halone := Race.run_alone_of_free (fun _ => answer)
      (r := { shared := s.publication, stage := fun _ => .claiming }) (i := attempt) rfl hclaimed
    rw [hpublication, hkept]
    cases answer with
    | ok _ => exact halone
    | error failure => exact halone

end Launch

/-! ## Installing the signal entry -/

/-- Nothing that handling a signal does concerns the publication. -/
lemma allowsHandling_samePublication :
    Frame.AllowsHandling ProcessState.SamePublication ProcessState.SamePublication where
  refl _ := rfl
  trans hsm hmt := Eq.trans hmt hsm
  ends hst := hst
  trans_ends hsm hmt := Eq.trans hmt hsm
  mark _ _ := rfl
  offer _ _ := rfl
  say _ _ _ := rfl
  log _ _ := rfl
  spend _ _ _ := rfl
  rewrite _ _ := rfl
  locked hst := hst
  locked_ends hst := hst
  masked _ hst := hst
  masked_ends _ hst := hst
  unblock _ _ := rfl
  askUnblock _ _ := rfl
  claim _ _ := rfl
  report _ _ := rfl
  ask _ _ _ := rfl
  guard _ _ _ := rfl
  reset _ _ := rfl
  fail _ _ := rfl
  enter _ _ _ := rfl
  count _ _ := rfl
  save _ _ := rfl

section Install

variable (sys : Dispatcher) (room : Nat)

/-- Nor does anything that installing does. -/
lemma allowsInstall_samePublication :
    Frame.AllowsInstall ProcessState.SamePublication ProcessState.SamePublication
      (services sys room) where
  toAllowsEntry := allowsHandling_samePublication.toAllowsEntry
  say _ _ _ := rfl
  keep _ _ _ _ := rfl
  count _ _ := rfl
  lock _ _ := rfl
  register _ _ := rfl
  drop handler := handler.drop_has allowsHandling_samePublication.within.toAllowsForeign
    (services_have allowsHandling_samePublication.within sys room)

/-- Computations that leave the publication alone. -/
abbrev TrapM.KeepsPublication {α : Type} (x : TrapM α) : Prop :=
  x.Within ProcessState.SamePublication ProcessState.SamePublication

private lemma keeps_bind {α β : Type} {x : TrapM α} {f : α → TrapM β} (hx : x.KeepsPublication)
    (hf : ∀ a, (f a).KeepsPublication) : (x >>= f).KeepsPublication :=
  hx.bind allowsHandling_samePublication.toChains hf

private lemma keeps_pure {α : Type} (a : α) : (pure a : TrapM α).KeepsPublication :=
  TrapM.within_pure allowsHandling_samePublication.toChains a

/-- Installing the signal entry leaves the publication alone. -/
lemma install_keepsPublication (answer : Except TrapFailure Unit) :
    (sys.install (services sys room) answer).KeepsPublication := by
  unfold Dispatcher.install
  split
  · exact (allowsInstall_samePublication sys room).installEntry_within Signal.handled
  · exact keeps_bind (fun _ => rfl) fun _ => keeps_pure _

lemma installFresh_keepsPublication : (installFresh sys room).KeepsPublication :=
  keeps_bind (fun _ => rfl) fun _ => install_keepsPublication _ room (.ok ())

end Install

/-- Starting a trap system is taking the steps of an attempt to publish it. -/
theorem startTraps_run_alone (sys : Dispatcher) (room : Nat) {attempt : Nat} {s t : ProcessState}
    {result : Except TrapFailure Unit}
    (h : (startTraps sys room attempt).run s = .ok result t) :
    ∃ installed,
      let r := Race.run (LaunchStage.step installed)
        { shared := s.publication, stage := fun _ => .claiming } (List.replicate 5 attempt)
      r.stage attempt = .returned result ∧ r.shared = t.publication :=
  launch_run_alone (installFresh_keepsPublication sys room) h

/-! ## Any interleaving -/

/-- However the steps of the attempts are interleaved, and whatever their installations answer: at
most one attempt is under way, what is published belongs to that one or to the one that has
succeeded, and what an attempt withdraws is its own system.  Once an attempt has succeeded its
system stays published, and whoever starts later is told so.  While all attempts that have started
have failed, it is as if there had been none, so that the next one can succeed.  Starting a trap
system is taking these steps, of which the installation leaves the publication alone. -/
theorem publishing_exclusive (installed : Nat → Except TrapFailure Unit) (order : List Nat) :
    let r := raceToPublish installed order
    (∀ i j, (r.stage i).UnderWay → (r.stage j).UnderWay → i = j) ∧
    (∀ i, r.shared.published = some i →
      (r.stage i).UnderWay ∨ r.stage i = .returned (.ok ())) ∧
    (∀ i j, r.stage i = .returned (.ok ()) → r.stage j = .returned (.ok ()) → i = j) ∧
    (∀ i failure, r.stage i = .withdrawing failure → r.shared.published = some i) ∧
    (∀ i, r.stage i = .returned (.ok ()) → ∀ more,
      (raceToPublish installed (order ++ more)).shared.published = some i ∧
      ∀ j, r.stage j = .claiming → (raceToPublish installed (order ++ more)).stage j =
        if j ∈ more then .returned (.error .alreadyPublished) else .claiming) ∧
    ((∀ i, r.stage i = .claiming ∨ ∃ failure, r.stage i = .returned (.error failure)) →
      r.shared = {} ∧
      ∀ i, r.stage i = .claiming → installed i = .ok () →
        (raceToPublish installed (order ++ List.replicate 5 i)).stage i = .returned (.ok ()) ∧
        (raceToPublish installed (order ++ List.replicate 5 i)).shared.published = some i) ∧
    (∀ (sys : Dispatcher) (room attempt : Nat),
      (installFresh sys room).KeepsPublication ∧
      LaunchStage.returned <$> startTraps sys room attempt = (do
        let stage ← LaunchStage.claiming.take attempt (installFresh sys room)
        let stage ← stage.take attempt (installFresh sys room)
        let stage ← stage.take attempt (installFresh sys room)
        let stage ← stage.take attempt (installFresh sys room)
        stage.take attempt (installFresh sys room))) ∧
    ∀ (sys : Dispatcher) (room attempt : Nat) (s t : ProcessState)
      (result : Except TrapFailure Unit), (startTraps sys room attempt).run s = .ok result t →
      ∃ installed,
        let alone := Race.run (LaunchStage.step installed)
          { shared := s.publication, stage := fun _ => .claiming } (List.replicate 5 attempt)
        alone.stage attempt = .returned result ∧ alone.shared = t.publication := by
  intro r
  have hr : r.Exclusive := Race.exclusive_start.run order
  have hlater : ∀ more, raceToPublish installed (order ++ more) =
      r.run (LaunchStage.step installed) more := fun more => Race.run_append order more
  refine ⟨fun i j hi hj => ?_, fun i hi => ?_, fun i j hi hj => ?_, fun i failure hi => ?_,
    fun i hi more => ⟨?_, fun j hj => ?_⟩, fun hfailed => ?_,
    fun sys room attempt =>
      ⟨installFresh_keepsPublication sys room, launch_eq_steps attempt (installFresh sys room)⟩,
    fun sys room attempt s t result h => startTraps_run_alone sys room h⟩
  · exact hr.unique i j (LaunchStage.holds_of_underWay hi) (LaunchStage.holds_of_underWay hj)
  · exact LaunchStage.holds_iff.mp (LaunchStage.holds_of_shows ((hr.published_iff i).mp hi))
  · exact hr.unique i j (by rw [hi]; trivial) (by rw [hj]; trivial)
  · exact (hr.published_iff i).mpr (by rw [hi]; trivial)
  · rw [hlater, (hr.run more).published_iff, Race.run_of_returned hi more]
    trivial
  · rw [hlater]
    exact Race.run_of_late hr hi hj more
  · have hnobody : ∀ i, ¬ (r.stage i).Holds := by
      intro i
      rcases hfailed i with hstart | ⟨failure, hreturned⟩
      · rw [hstart]
        exact id
      · rw [hreturned]
        exact id
    refine ⟨hr.shared_eq hnobody, fun i hi hinstalled => ?_⟩
    obtain ⟨hstage, hshared⟩ :=
      Race.run_alone_of_free installed hi (by rw [hr.shared_eq hnobody])
    rw [hlater, hstage, hshared, hinstalled]
    exact ⟨rfl, rfl⟩

end ManagedFaults
