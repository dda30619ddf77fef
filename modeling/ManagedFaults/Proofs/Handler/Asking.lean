import ManagedFaults.Proofs.Trap.Running

/-!
# Asking chained handlers

A signal is offered to the handlers that accept it one after the other, until one handles it.
Which were asked, and what they answered, is a list of questions: it leads from the state in which
the signal is offered to the one in which somebody has agreed or everybody declined
(`dispatch_run_ok_iff`).
-/

namespace ManagedFaults

variable {α : Type}

/-! ## Questions -/

/-- Asking some, one after the other, with the answers they gave. -/
inductive TrapM.Asked (ask : α → TrapM Bool) :
    ProcessState → List (α × Bool) → ProcessState → Prop
  | nobody (s : ProcessState) : Asked ask s [] s
  | next {a : α} {answer : Bool} {s m t : ProcessState} {rest : List (α × Bool)}
      (first : (ask a).run s = .ok answer m) (more : Asked ask m rest t) :
      Asked ask s ((a, answer) :: rest) t

/-- Those of a list were asked in its order, each once, up to and including the first that
agreed. -/
structure UntilAgreed (l : List α) (asked : List (α × Bool)) : Prop where
  inOrder : asked.map Prod.fst <+: l
  declined : ∀ x ∈ asked.dropLast, x.2 = false
  complete : (∃ x ∈ asked, x.2 = true) ∨ asked.map Prod.fst = l

/-- Whether somebody agreed. -/
def anyAgreed (asked : List (α × Bool)) : Bool :=
  asked.any (·.2)

namespace UntilAgreed

variable {a : α} {l : List α} {asked : List (α × Bool)}

lemma nil : UntilAgreed ([] : List α) [] where
  inOrder := List.prefix_rfl
  declined := by simp
  complete := .inr rfl

/-- The first one agreed. -/
lemma agreed : UntilAgreed (a :: l) [(a, true)] where
  inOrder := ⟨l, rfl⟩
  declined := by simp
  complete := .inl ⟨(a, true), List.mem_singleton_self _, rfl⟩

/-- The first one declined. -/
lemma cons (h : UntilAgreed l asked) : UntilAgreed (a :: l) ((a, false) :: asked) where
  inOrder := List.cons_prefix_cons.mpr ⟨rfl, h.inOrder⟩
  declined := by
    intro x hx
    cases asked with
    | nil => simp at hx
    | cons y asked =>
      rw [List.dropLast_cons_cons, List.mem_cons] at hx
      rcases hx with rfl | hx
      · rfl
      · exact h.declined x hx
  complete := by
    rcases h.complete with ⟨x, hx, hagreed⟩ | hall
    · exact .inl ⟨x, List.mem_cons_of_mem _ hx, hagreed⟩
    · exact .inr (congrArg (a :: ·) hall)

/-- Somebody is asked unless there is nobody. -/
lemma eq_nil (h : UntilAgreed l []) : l = [] := by
  rcases h.complete with ⟨x, hx, -⟩ | hall
  · exact absurd hx List.not_mem_nil
  · exact hall.symm

/-- Nobody is asked after one that agreed, and after one that declined the others are. -/
lemma of_cons {answer : Bool} {b : α} (h : UntilAgreed l ((b, answer) :: asked)) :
    ∃ rest, l = b :: rest ∧ (answer = true → asked = []) ∧
      (answer = false → UntilAgreed rest asked) := by
  cases l with
  | nil => exact absurd h.inOrder (by simp)
  | cons a rest =>
    have horder : b :: asked.map Prod.fst <+: a :: rest := h.inOrder
    obtain ⟨rfl, hstarts⟩ := List.cons_prefix_cons.mp horder
    refine ⟨rest, rfl, ?_, ?_⟩
    · rintro rfl
      -- if others were asked after it, it was one of those that declined
      cases asked with
      | nil => rfl
      | cons y asked => exact absurd (h.declined (b, true) (by simp)) (by simp)
    · rintro rfl
      refine ⟨hstarts, ?_, ?_⟩
      · intro x hx
        refine h.declined x ?_
        cases asked with
        | nil => simp at hx
        | cons y asked => exact List.mem_cons_of_mem _ hx
      · rcases h.complete with ⟨x, hx, hagreed⟩ | hall
        · rcases List.mem_cons.mp hx with rfl | hx
          · exact absurd hagreed (by simp)
          · exact .inl ⟨x, hx, hagreed⟩
        · exact .inr (List.cons.inj hall).2

end UntilAgreed

/-! ## Asking until one agrees -/

lemma TrapM.anyM_cons (ask : α → TrapM Bool) (a : α) (l : List α) :
    (a :: l).anyM ask = ask a >>= fun
      | true => pure true
      | false => l.anyM ask :=
  rfl

/-- A search for one that agrees asks in order until there is one. -/
theorem TrapM.anyM_run_ok_iff {ask : α → TrapM Bool} {l : List α} {s t : ProcessState}
    {answer : Bool} :
    (l.anyM ask).run s = .ok answer t ↔
      ∃ asked, TrapM.Asked ask s asked t ∧ UntilAgreed l asked ∧ answer = anyAgreed asked := by
  -- each is asked in the state in which the one before has left the process
  induction l generalizing s with
  | nil =>
    constructor
    · intro h
      have h' : EStateM.Result.ok false s = .ok answer t := h
      rw [EStateM.Result.ok.injEq] at h'
      obtain ⟨rfl, rfl⟩ := h'
      exact ⟨[], .nobody s, .nil, rfl⟩
    · rintro ⟨asked, hasked, huntil, rfl⟩
      obtain rfl : asked = [] := by
        simpa using List.prefix_nil.mp huntil.inOrder
      cases hasked
      rfl
  | cons a l ih =>
    rw [TrapM.anyM_cons]
    constructor
    · intro h
      cases hfirst : (ask a).run s with
      | error e m =>
        rw [TrapM.run_bind_of_error hfirst] at h
        simp at h
      | ok first m =>
        rw [TrapM.run_bind_of_ok hfirst] at h
        cases first with
        | true =>
          rw [EStateM.run_pure, EStateM.Result.ok.injEq] at h
          obtain ⟨rfl, rfl⟩ := h
          exact ⟨[(a, true)], .next hfirst (.nobody m), .agreed, rfl⟩
        | false =>
          obtain ⟨asked, hasked, huntil, rfl⟩ := ih.mp h
          exact ⟨(a, false) :: asked, .next hfirst hasked, huntil.cons, rfl⟩
    · rintro ⟨asked, hasked, huntil, rfl⟩
      cases hasked with
      | nobody => exact absurd huntil.eq_nil (by simp)
      | @next b first _ m _ rest hfirst hmore =>
        obtain ⟨others, hl, hagreed, hdeclined⟩ := huntil.of_cons
        obtain ⟨rfl, rfl⟩ := List.cons.inj hl
        rw [TrapM.run_bind_of_ok hfirst]
        cases first with
        | true =>
          obtain rfl := hagreed rfl
          cases hmore
          rfl
        | false => exact ih.mpr ⟨rest, hmore, hdeclined rfl, rfl⟩

/-- A search that does not return was ended by one of the list, and all before it declined. -/
theorem TrapM.anyM_run_error {ask : α → TrapM Bool} {l : List α} {s t : ProcessState}
    {e : Ending} (h : (l.anyM ask).run s = .error e t) :
    ∃ asked a m, TrapM.Asked ask s asked m ∧ (∀ x ∈ asked, x.2 = false) ∧
      asked.map Prod.fst ++ [a] <+: l ∧ (ask a).run m = .error e t := by
  induction l generalizing s with
  | nil =>
    have h' : EStateM.Result.ok false s = .error e t := h
    simp at h'
  | cons a l ih =>
    rw [TrapM.anyM_cons] at h
    cases hfirst : (ask a).run s with
    | error e' m =>
      rw [TrapM.run_bind_of_error hfirst, EStateM.Result.error.injEq] at h
      obtain ⟨rfl, rfl⟩ := h
      exact ⟨[], a, s, .nobody s, by simp, ⟨l, rfl⟩, hfirst⟩
    | ok first m =>
      rw [TrapM.run_bind_of_ok hfirst] at h
      cases first with
      | true =>
        rw [EStateM.run_pure] at h
        simp at h
      | false =>
        obtain ⟨asked, b, n, hasked, hdeclined, horder, hend⟩ := ih h
        refine ⟨(a, false) :: asked, b, n, .next hfirst hasked, ?_, ?_, hend⟩
        · intro x hx
          rcases List.mem_cons.mp hx with rfl | hx
          · rfl
          · exact hdeclined x hx
        · exact List.cons_prefix_cons.mpr ⟨rfl, horder⟩

/-! ## Offering a signal -/

/-- Offers a signal to the handler of an entry. -/
def offerTo (sys : Dispatcher) (sv : Services) (info : SignalCause) (raw : Delivery)
    (e : RegisteredHandler ChainedHandler) : TrapM Bool :=
  e.handler.tryHandle sys sv info raw

/-- The process while it offers a signal to the chained handlers. -/
def ProcessState.offering (s : ProcessState) (signal : Signal) : ProcessState :=
  { s with
    scene := s.scene.record (.dispatch signal)
    lock := { s.lock with readers := s.lock.readers + 1 } }

/-- The process once the chained handlers have been asked. -/
def ProcessState.doneOffering (s : ProcessState) : ProcessState :=
  { s with lock := { s.lock with readers := s.lock.readers - 1 } }

section Dispatch

variable {sys : Dispatcher} {sv : Services} {info : SignalCause} {raw : Delivery}
  {s t : ProcessState}

/-- While the registry is not being changed, offering a signal is a search for a handler. -/
private lemma dispatch_run (hfree : s.lock.writing = false) :
    (dispatch sys sv info raw).run s =
      ((s.registry.accepting info.signal).anyM (offerTo sys sv info raw) >>= fun handled => do
        modify ProcessState.doneOffering
        return handled).run (s.offering info.signal) := by
  unfold dispatch
  rw [TrapM.run_bind_of_ok (TrapM.run_record _), TrapM.run_get_bind]
  dsimp only
  rw [hfree]
  rfl

/-- While the registry is being changed, nobody is asked. -/
lemma dispatch_run_busy (hwriting : s.lock.writing = true) :
    ∃ t, (dispatch sys sv info raw).run s = .ok false t := by
  unfold dispatch
  rw [TrapM.run_bind_of_ok (TrapM.run_record _), TrapM.run_get_bind]
  dsimp only
  rw [hwriting]
  exact ⟨_, rfl⟩

/-- While the registry is not being changed, the handlers that accept a signal are asked in the
order of the registry until one handles it. -/
theorem dispatch_run_ok_iff {handled : Bool} (hfree : s.lock.writing = false) :
    (dispatch sys sv info raw).run s = .ok handled t ↔
      ∃ asked m,
        TrapM.Asked (offerTo sys sv info raw) (s.offering info.signal) asked m ∧
        UntilAgreed (s.registry.accepting info.signal) asked ∧
        handled = anyAgreed asked ∧ t = m.doneOffering := by
  rw [dispatch_run hfree]
  constructor
  · intro h
    cases hsearch : ((s.registry.accepting info.signal).anyM (offerTo sys sv info raw)).run
        (s.offering info.signal) with
    | error e m =>
      rw [TrapM.run_bind_of_error hsearch] at h
      simp at h
    | ok answer m =>
      rw [TrapM.run_bind_of_ok hsearch] at h
      have h' : EStateM.Result.ok answer m.doneOffering = .ok handled t := h
      rw [EStateM.Result.ok.injEq] at h'
      obtain ⟨rfl, rfl⟩ := h'
      obtain ⟨asked, hasked, huntil, rfl⟩ := TrapM.anyM_run_ok_iff.mp hsearch
      exact ⟨asked, m, hasked, huntil, rfl, rfl⟩
  · rintro ⟨asked, m, hasked, huntil, rfl, rfl⟩
    rw [TrapM.run_bind_of_ok (TrapM.anyM_run_ok_iff.mpr ⟨asked, hasked, huntil, rfl⟩)]
    rfl

/-- Offering a signal does not return only where one of the handlers that are asked does not. -/
theorem dispatch_run_error {e : Ending} (hfree : s.lock.writing = false)
    (h : (dispatch sys sv info raw).run s = .error e t) :
    ∃ asked entry m,
      TrapM.Asked (offerTo sys sv info raw) (s.offering info.signal) asked m ∧
      (∀ x ∈ asked, x.2 = false) ∧
      asked.map Prod.fst ++ [entry] <+: s.registry.accepting info.signal ∧
      (offerTo sys sv info raw entry).run m = .error e t := by
  rw [dispatch_run hfree] at h
  cases hsearch : ((s.registry.accepting info.signal).anyM (offerTo sys sv info raw)).run
      (s.offering info.signal) with
  | error e' m =>
    rw [TrapM.run_bind_of_error hsearch] at h
    exact TrapM.anyM_run_error (hsearch.trans h)
  | ok answer m =>
    rw [TrapM.run_bind_of_ok hsearch] at h
    have h' : EStateM.Result.ok answer m.doneOffering = .error e t := h
    simp at h'

end Dispatch

/-! ## Handlers that only answer -/

/-- A handler that does nothing but give an answer. -/
def ChainedHandler.answering (handled : Bool) : ChainedHandler :=
  .script (fun _ _ => .answer handled) none

/-- The entries, the first of which just give these answers. -/
def answerEach : List Bool → List (RegisteredHandler ChainedHandler) →
    List (RegisteredHandler ChainedHandler)
  | [], entries => entries
  | _ :: _, [] => []
  | answer :: answers, e :: entries =>
    { e with handler := .answering answer } :: answerEach answers entries

/-- The entries, of which the first that accept a signal just give these answers. -/
def replayEntries (signal : Signal) : List Bool → List (RegisteredHandler ChainedHandler) →
    List (RegisteredHandler ChainedHandler)
  | _, [] => []
  | answers, e :: entries =>
    if e.accepts signal then
      match answers with
      | [] => e :: entries
      | answer :: answers =>
        { e with handler := .answering answer } :: replayEntries signal answers entries
    else
      e :: replayEntries signal answers entries

/-- The registry, the first handlers of which that accept a signal just give these answers. -/
def Registry.replaying (r : Registry ChainedHandler) (signal : Signal) (answers : List Bool) :
    Registry ChainedHandler :=
  { entries := replayEntries signal answers r.entries }

lemma accepting_replaying (r : Registry ChainedHandler) (signal : Signal) (answers : List Bool) :
    (r.replaying signal answers).accepting signal = answerEach answers (r.accepting signal) := by
  obtain ⟨entries⟩ := r
  show (replayEntries signal answers entries).filter _ = answerEach answers (entries.filter _)
  induction entries generalizing answers with
  | nil => cases answers <;> rfl
  | cons e entries ih =>
    unfold replayEntries
    cases haccepts : e.accepts signal with
    | false =>
      -- an entry that is not asked uses up no answer
      rw [if_neg (by simp), List.filter_cons_of_neg (by simp [haccepts]),
        List.filter_cons_of_neg (by simp [haccepts])]
      exact ih answers
    | true =>
      rw [if_pos rfl, List.filter_cons_of_pos (by simpa using haccepts)]
      cases answers with
      | nil => exact List.filter_cons_of_pos (by simpa using haccepts)
      | cons answer answers =>
        have hsame : ({ e with handler := .answering answer } :
            RegisteredHandler ChainedHandler).accepts signal = true := haccepts
        dsimp only
        rw [List.filter_cons_of_pos (by simpa using hsame), ih]
        rfl

/-- Handlers that only answer lead to the same end. -/
lemma anyM_answerEach {sys : Dispatcher} {sv : Services} {info : SignalCause} {raw : Delivery}
    {entries : List (RegisteredHandler ChainedHandler)}
    {asked : List (RegisteredHandler ChainedHandler × Bool)} (h : UntilAgreed entries asked)
    (s : ProcessState) :
    ((answerEach (asked.map (·.2)) entries).anyM (offerTo sys sv info raw)).run s =
      .ok (anyAgreed asked) s := by
  induction asked generalizing entries with
  | nil =>
    rw [h.eq_nil]
    rfl
  | cons x asked ih =>
    obtain ⟨e, answer⟩ := x
    obtain ⟨others, rfl, hagreed, hdeclined⟩ := h.of_cons
    have hfirst : (offerTo sys sv info raw { e with handler := .answering answer }).run s =
        .ok answer s := rfl
    rw [List.map_cons, answerEach, TrapM.anyM_cons, TrapM.run_bind_of_ok hfirst]
    cases answer with
    | true => rfl
    | false => exact ih (hdeclined rfl)

/-- Offering a signal to handlers that only answer tells whether one of them agreed. -/
lemma dispatch_run_replaying {sys : Dispatcher} {sv : Services} {info : SignalCause}
    {raw : Delivery} {s : ProcessState} {r : Registry ChainedHandler}
    {asked : List (RegisteredHandler ChainedHandler × Bool)} (hfree : s.lock.writing = false)
    (hregistry : s.registry = r.replaying info.signal (asked.map (·.2)))
    (huntil : UntilAgreed (r.accepting info.signal) asked) :
    ∃ t, (dispatch sys sv info raw).run s = .ok (anyAgreed asked) t := by
  rw [dispatch_run hfree, hregistry, accepting_replaying,
    TrapM.run_bind_of_ok (anyM_answerEach huntil _)]
  exact ⟨_, rfl⟩

end ManagedFaults
