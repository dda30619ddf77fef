import ManagedFaults.Handler.Registration

/-!
# Installing the trap entry

The trap entry takes the place of the actions of a list of signals.  An action that is replaced,
and that would have done something else than the default, is kept as a chained handler after all
others.  If one signal fails, everything done so far is undone, the last step first.
-/

namespace ManagedFaults

/-- The priority of kept actions: after every handler that was registered by name. -/
def keptPriority : UInt8 := 255

/-- The description of kept actions. -/
def keptDescription : String := "previous sigaction"

/-- The action of the trap entry: every signal is blocked while it runs, but for the errors of the
running instruction. -/
def entryAction : SignalAction :=
  { handler := .trapEntry
    flags := { siginfo := true, restart := true, onstack := true }
    mask := ((Signal.handled.filter (·.isError)).map (·.number)).foldl SignalSet.erase
      SignalSet.full }

/-- A step of an installation: the signal, its action before, and the handle under which that is
kept. -/
structure Replaced where
  signo : Int32
  before : SignalAction
  handle : Option HandlerHandle := none

/-- Sets the action of a signal and gives the one before. -/
def setAction (signo : Int32) (a : SignalAction) : TrapM (Except Int32 SignalAction) := do
  let s ← get
  match s.actions.replace signo a with
  | .ok (before, actions) =>
    set { s with actions }
    return .ok before
  | .error errno =>
    set { s with os := { s.os with errno } }
    return .error errno

/-- Keeps an action as a chained handler. -/
def keepAction (services : Services) (signal : Signal) (a : SignalAction) :
    TrapM (Except TrapFailure HandlerHandle) := do
  let slot ← modifyGet fun s =>
    (s.previous.length, { s with previous := s.previous ++ [{ signal, action := a }] })
  let handle ← TrapM.nextHandle
  Registration.add services
    { handler := .previous slot
      priority := keptPriority
      description := keptDescription
      signal := some signal
      protection := .runtime
      owner := runtimeRegistrar
      handle }

/-- Installs the trap entry for one signal.  Gives the step that was taken, which there may be
even if keeping the replaced action failed. -/
def takeOver (services : Services) (signal : Signal) :
    TrapM (Option Replaced × Except TrapFailure Unit) := do
  let signo := signal.number
  match ← setAction signo entryAction with
  | .error errno =>
    TrapM.say .error
      ("sigaction(" ++ signal.text ++ ") failed: errno " ++ toString errno.toInt)
    return (none, .error (.installRefused errno))
  | .ok before =>
    if before.handler = .trapEntry ∨ before.handler = .default then
      return (some { signo, before }, .ok ())
    else
      TrapM.say .info (signal.text ++ ": chaining to previously installed handler "
        ++ before.handler.word.hex)
      match ← keepAction services signal before with
      | .ok handle => return (some { signo, before, handle := some handle }, .ok ())
      | .error failure => return (some { signo, before }, .error failure)

/-- Undoes one step. -/
def undo (services : Services) (step : Replaced) : TrapM Unit := do
  let _ ← setAction step.signo step.before
  match step.handle with
  | some h =>
    let _ ← Registration.remove services h runtimeRegistrar
  | none => return ()

/-- Undoes all steps, the last one first. -/
def undoAll (services : Services) (steps : List Replaced) : TrapM Unit := do
  steps.reverse.forM (undo services)
  TrapM.say .warn
    ("signal handler installation rolled back for " ++ toString steps.length ++ " signals")

/-- Installs the trap entry for the signals that are left, after the steps already taken. -/
def installAfter (services : Services) :
    List Replaced → List Signal → TrapM (Except TrapFailure Unit)
  | _, [] => return .ok ()
  | steps, signal :: rest => do
    let (step, result) ← takeOver services signal
    let steps := steps ++ step.toList
    match result with
    | .ok () => installAfter services steps rest
    | .error failure =>
      undoAll services steps
      return .error failure

/-- Installs the trap entry for each signal of a list; if that fails, nothing has changed. -/
def installEntry (services : Services) (signals : List Signal) :
    TrapM (Except TrapFailure Unit) :=
  installAfter services [] signals

end ManagedFaults
