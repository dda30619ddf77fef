import ManagedFaults.Handler.Script

/-!
# Replaced signal actions

The action that a signal had before the trap entry was installed is kept and offered the signals
that the trap system does not recognise.  It runs as its own flags say: under its own mask, with
the arguments it takes, and only once if it asked for that.
-/

namespace ManagedFaults

/-- An action kept for a signal. -/
structure KeptAction where
  signal : Signal
  action : SignalAction

namespace KeptAction

/-- Whether nothing is left to run. -/
def isDefault (p : KeptAction) : Bool :=
  p.action.handler == .default

/-- The signals blocked while the action runs: those of its mask, and its own unless it asked
for more of them. -/
def runMask (p : KeptAction) : SignalSet :=
  if p.action.flags.nodefer then p.action.mask else p.action.mask.insert p.signal.number

/-- What is left of the action once it has been called. -/
def called (p : KeptAction) : KeptAction :=
  if p.action.flags.resethand then
    { p with action := { p.action with handler := .default } }
  else
    p

/-- The arguments the action is called with. -/
def arguments (p : KeptAction) (raw : Delivery) : ForeignCall :=
  { signo := p.signal.number
    delivered := if p.action.flags.siginfo then some raw else none }

end KeptAction

end ManagedFaults
