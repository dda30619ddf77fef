import ManagedFaults.Proofs.Registers.Copy
import ManagedFaults.Trap.Dispatch

/-!
# Classifying with copied registers

No rule looks at a context but for its program counter, stack pointer, frame pointer and link
register.  So contexts with a link register that agree on those are classified alike, with the same
questions to the runtime and the same changes of the guard (`Classifier.classify_on`), and registers
that were copied from such a context can take its place (`copy_stands_in`).
-/

namespace ManagedFaults

variable {c c' : Context}

/-- The frame of a context shows its frame registers only. -/
lemma Frame.ofContext_congr (h : c.SameFrame c') :
    Frame.ofContext (some c') = Frame.ofContext (some c) := by
  unfold ofContext
  dsimp only
  rw [h.pc, h.sp, h.fp]

/-- The same trap with another context. -/
def Trap.on (i : Trap) (context : Context) : Trap := { i with context }

namespace Classifier

variable {cl : Classifier} {i : Trap}

lemma pc_on (h : c.SameFrame c') : (i.on c').pc = (i.on c).pc := h.pc

/-! ## Rules that look at frames -/

lemma bangingFrame_congr (cl : Classifier) (h : c.SameFrame c') :
    cl.bangingFrame c' = cl.bangingFrame c := by
  unfold bangingFrame
  rw [h.pc, h.sp, h.fp, h.lr, Frame.ofContext_congr h]

lemma reserveHolder_congr (cl : Classifier) (thread : ManagedThread) (h : c.SameFrame c') :
    cl.reserveHolder thread c' = cl.reserveHolder thread c := by
  unfold reserveHolder
  rw [cl.bangingFrame_congr h]

lemma managedOverflow_on (cl : Classifier) (i : Trap) (h : c.SameFrame c')
    (thread : ManagedThread) (guard : StackGuard) (address : Word) :
    cl.managedOverflow (i.on c') thread guard address =
      cl.managedOverflow (i.on c) thread guard address := by
  have hholder : cl.reserveHolder thread (i.on c').context =
      cl.reserveHolder thread (i.on c).context := cl.reserveHolder_congr thread h
  unfold managedOverflow
  rw [hholder, pc_on h]

lemma stackGuard_on (cl : Classifier) (i : Trap) (h : c.SameFrame c') :
    cl.stackGuard (i.on c') = cl.stackGuard (i.on c) := by
  have hsignal : (i.on c').signal = (i.on c).signal := rfl
  have hfault : (i.on c').fault? = (i.on c).fault? := rfl
  unfold stackGuard
  simp only [hsignal, hfault, cl.managedOverflow_on i h]

/-! ## Rules that look at the program counter -/

lemma safeFetch_on (cl : Classifier) (i : Trap) (h : c.SameFrame c') :
    cl.safeFetch (i.on c') = cl.safeFetch (i.on c) := by
  unfold safeFetch
  rw [pc_on h]

lemma implicit_on (cl : Classifier) (i : Trap) (h : c.SameFrame c') (thread : ManagedThread)
    (rule : TrapRule) (kind : ImplicitException) :
    cl.implicit (i.on c') thread rule kind = cl.implicit (i.on c) thread rule kind := by
  unfold implicit
  rw [pc_on h]

lemma uncheckedAccess_on (cl : Classifier) (i : Trap) (h : c.SameFrame c')
    (thread : ManagedThread) :
    cl.uncheckedAccess (i.on c') thread = cl.uncheckedAccess (i.on c) thread := by
  unfold uncheckedAccess
  rw [pc_on h]

lemma managedSegv_on (cl : Classifier) (i : Trap) (h : c.SameFrame c') (thread : ManagedThread)
    (address : Word) :
    cl.managedSegv (i.on c') thread address = cl.managedSegv (i.on c) thread address := by
  unfold managedSegv
  rw [pc_on h, cl.implicit_on i h]

lemma zombieEntry_on (cl : Classifier) (i : Trap) (h : c.SameFrame c') :
    cl.zombieEntry (i.on c') = cl.zombieEntry (i.on c) := by
  unfold zombieEntry
  rw [pc_on h]

lemma managedCode_on (cl : Classifier) (i : Trap) (h : c.SameFrame c') :
    cl.managedCode (i.on c') = cl.managedCode (i.on c) := by
  have hactivity : (i.on c').activity = (i.on c).activity := rfl
  have hfault : (i.on c').fault? = (i.on c).fault? := rfl
  have hsignal : (i.on c').signal = (i.on c).signal := rfl
  have hinfo : (i.on c').info = (i.on c).info := rfl
  unfold managedCode
  simp only [hactivity, hfault, hsignal, hinfo, cl.zombieEntry_on i h, cl.managedSegv_on i h,
    cl.uncheckedAccess_on i h, cl.implicit_on i h]

lemma runtimeUnsafeAccess_on (cl : Classifier) (i : Trap) (h : c.SameFrame c') :
    cl.runtimeUnsafeAccess (i.on c') = cl.runtimeUnsafeAccess (i.on c) := by
  have hfault : (i.on c').fault? = (i.on c).fault? := rfl
  have hsignal : (i.on c').signal = (i.on c).signal := rfl
  unfold runtimeUnsafeAccess
  rw [hfault, hsignal, pc_on h]

lemma fastAccessorSlowCase_on (cl : Classifier) (i : Trap) (h : c.SameFrame c') :
    cl.fastAccessorSlowCase (i.on c') = cl.fastAccessorSlowCase (i.on c) := by
  have hfault : (i.on c').fault? = (i.on c).fault? := rfl
  have hsignal : (i.on c').signal = (i.on c).signal := rfl
  unfold fastAccessorSlowCase
  rw [hfault, hsignal, pc_on h]

/-! ## Classification -/

/-- Every stage does the same on contexts that agree on the frame registers. -/
lemma attempt_on (cl : Classifier) (offer : TrapM Bool) (i : Trap) (h : c.SameFrame c')
    (stage : Stage) : cl.attempt offer (i.on c') stage = cl.attempt offer (i.on c) stage := by
  cases stage with
  | brokenPipe => rfl
  | safeFetch => exact congrArg TrapM.onScene (cl.safeFetch_on i h)
  | stackGuard => exact congrArg TrapM.onScene (cl.stackGuard_on i h)
  | managedCode => exact congrArg TrapM.onScene (cl.managedCode_on i h)
  | runtimeUnsafeAccess => exact congrArg TrapM.onScene (cl.runtimeUnsafeAccess_on i h)
  | fastAccessorSlowCase => exact congrArg TrapM.onScene (cl.fastAccessorSlowCase_on i h)
  | serializePage => rfl
  | chained => rfl
  | unrecognized => rfl

/-- The delivered registers have no link register, and nobody can write to any others. -/
lemma now_on (hlink : c.lr.isSome = true) (i : Trap) (s : ProcessState) :
    (i.on c).now s = i.on c := by
  have hcurrent : s.current i.raw c = c := by
    unfold ProcessState.current
    cases c with
    | portable r => split <;> rfl
    | delivered registers => simp [Context.lr] at hlink
    | exposed e => split <;> rfl
  unfold Trap.now
  exact congrArg i.on hcurrent

/-- Contexts with a link register that agree on the frame registers are classified alike. -/
theorem classify_on (cl : Classifier) (offer : TrapM Bool) (i : Trap) (h : c.SameFrame c')
    (hlink : c.lr.isSome = true) :
    cl.classify offer (i.on c') = cl.classify offer (i.on c) := by
  have hline : ∀ s, traceLine ((i.on c').now s) = traceLine ((i.on c).now s) := by
    intro s
    funext classification
    rw [now_on (h.lr ▸ hlink), now_on hlink]
    unfold traceLine
    rw [pc_on h]
    rfl
  unfold classify
  simp only [hline, funext (cl.attempt_on offer i h)]

end Classifier

/-! ## A copy in place of its source -/

/-- Registers copied from a context with a link register can take its place.  They show the same
program counter, stack pointer, frame pointer and link register; each other general register is the
one the context has, or zero if it has none, and the processor state is zero.  So they are
interrupted in the same frame and test the stack in the same frame, and whatever the classifier, the
handlers it offers the signal to and the trap, they are classified by the same computation: with the
same result, the same changes of the guard and the same questions.  Copying them again changes
nothing. -/
theorem copy_stands_in {c : Context} (hlink : c.lr.isSome = true) :
    c.SameFrame (.portable c.copy) ∧
      (∀ i < generalRegisters, i ≠ framePointerIndex → i ≠ linkRegisterIndex →
        (Context.portable c.copy).gpr i =
          some (if i < c.gprCount then (c.gpr i).getD 0 else 0)) ∧
      c.copy.pstate = 0 ∧
      Frame.ofContext (some (.portable c.copy)) = Frame.ofContext (some c) ∧
      (∀ cl : Classifier, cl.bangingFrame (.portable c.copy) = cl.bangingFrame c) ∧
      (∀ (cl : Classifier) (offer : TrapM Bool) (i : Trap),
        cl.classify offer (i.on (.portable c.copy)) = cl.classify offer (i.on c)) ∧
      (Context.portable c.copy).copy = c.copy := by
  have hsame : c.SameFrame (.portable c.copy) := Context.sameFrame_copy hlink
  refine ⟨hsame, fun i hi hfp hlr => ?_, Context.pstate_copy c, Frame.ofContext_congr hsame,
    fun cl => cl.bangingFrame_congr hsame, fun cl offer i => cl.classify_on offer i hsame hlink,
    Context.copy_copy c⟩
  have hvalue : (Context.portable c.copy).gpr i = some (c.copy.general i) :=
    SavedRegisters.getElem?_eq_general c.copy hi
  rw [hvalue, Context.general_copy hi, Context.copied, if_neg hfp, if_neg hlr]

/-- A context with more registers than are saved, the fourth of which it does not have. -/
def Context.crowded : Context :=
  .exposed
    { pc := 0x20000010, sp := 0x1000008000, fp := 0x1000008040, lr := some 0x20000204, count := 40
      gpr := fun i => if i = 3 then none else some (UInt64.ofNat (100 + i)) }

/-- The last general register before the frame pointer is copied, a missing one is zero, and the
link register is that of the accessor. -/
theorem crowded_context_copied :
    Context.crowded.lr.isSome = true ∧
      (Context.portable Context.crowded.copy).gpr 28 = some 128 ∧
      (Context.portable Context.crowded.copy).gpr 3 = some 0 ∧
      (Context.portable Context.crowded.copy).lr = some 0x20000204 := by
  obtain ⟨hsame, hgeneral, -⟩ := copy_stands_in (c := .crowded) rfl
  exact ⟨rfl, hgeneral 28 (by decide) (by decide) (by decide),
    hgeneral 3 (by decide) (by decide) (by decide), hsame.lr⟩

end ManagedFaults
