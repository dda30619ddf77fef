import ManagedFaults.Cpu.Features
import ManagedFaults.Signal.Install

/-!
# Launching the trap system

A trap system is published before its signal entry is installed, so that a signal that arrives in
between finds it, and is withdrawn if the installation fails.  At most one system is published.
-/

namespace ManagedFaults

/-- Claims the right to publish and publishes the system of an attempt. -/
def announce (attempt : Nat) : TrapM (Except TrapFailure Unit) := do
  let s ← get
  let (won, publication) := s.publication.claim
  set { s with publication }
  if won then
    modify fun s => { s with publication := s.publication.publish attempt }
    return .ok ()
  else
    return .error .alreadyPublished

/-- Says what has come of an installation. -/
def tellInstalled : Except TrapFailure Unit → TrapM Unit
  | .ok () =>
    TrapM.say .info
      ("trap system installed for " ++ toString Signal.handled.length ++ " signals")
  | .error failure => TrapM.say .error ("trap system installation failed: " ++ failure.message)

/-- Ends an attempt by the outcome of the installation: a failed one withdraws its system and lets
others try again. -/
def settle (installed : Except TrapFailure Unit) : TrapM (Except TrapFailure Unit) := do
  match installed with
  | .ok () => pure ()
  | .error _ =>
    modify fun s => { s with publication := s.publication.withdraw }
    modify fun s => { s with publication := s.publication.release }
  tellInstalled installed
  return installed

/-- Publishes a system and has it installed. -/
def launch (attempt : Nat) (install : TrapM (Except TrapFailure Unit)) :
    TrapM (Except TrapFailure Unit) := do
  match ← announce attempt with
  | .error failure => return .error failure
  | .ok () => settle (← install)

/-- Has the signal entry installed by whoever controls signals; another party that was asked
answers `delegated`. -/
def Dispatcher.install (sys : Dispatcher) (services : Services)
    (delegated : Except TrapFailure Unit) : TrapM (Except TrapFailure Unit) :=
  match sys.control with
  | .system => installEntry services Signal.handled
  | .delegated => do
    TrapM.record (.install Signal.handled)
    return delegated

/-- The process as a trap system with managers of its own finds it: no handler is registered, no
trap logged, no fatal error reported. -/
def ProcessState.freshManagers (s : ProcessState) : ProcessState :=
  { s with registry := {}, lock := {}, log := RingBuffer.empty, sequence := 0, latch := {} }

/-- Puts the managers of `t` in place of those of `s`. -/
def ProcessState.withManagersOf (s t : ProcessState) : ProcessState :=
  { s with
    registry := t.registry, lock := t.lock, log := t.log, sequence := t.sequence,
    latch := t.latch }

/-- Has the signal entry installed by a system with managers of its own, which controls signals by
itself. -/
def installFresh (sys : Dispatcher) (room : Nat) : TrapM (Except TrapFailure Unit) := do
  let sys := { sys with control := SignalAuthority.system }
  modify (·.freshManagers)
  sys.install (services sys room) (.ok ())

/-- Launches a trap system with managers of its own. -/
def startTraps (sys : Dispatcher) (room attempt : Nat) : TrapM (Except TrapFailure Unit) :=
  launch attempt (installFresh sys room)

/-- Probes the processor, which says what it found the first time it is done. -/
def probe (processor : Cpu.Processor) : TrapM Unit := do
  if !(← get).processorProbed then
    TrapM.say .debug ("cpu probe: " ++ processor.text)
    modify fun s => { s with processorProbed := true }

/-- Starts everything: the console at its level, the processor probe, and the trap system. -/
def startAll (sys : Dispatcher) (processor : Cpu.Processor) (room attempt : Nat) :
    TrapM (Except TrapFailure Unit) := do
  TrapM.setLevel sys.settings.logLevel
  probe processor
  TrapM.say .info ("CPU: " ++ processor.text)
  let zeroFill := match processor.zeroFill? with
    | some n => "Some(" ++ toString n ++ ")"
    | none => "None"
  TrapM.say .debug ("icache line " ++ toString processor.registers.instructionLineBytes
    ++ " bytes, dcache line " ++ toString processor.registers.dataLineBytes ++ " bytes, zva "
    ++ zeroFill)
  match ← startTraps sys room attempt with
  | .error failure => return .error failure
  | .ok () =>
    TrapM.say .info ("trap subsystem initialized (page size "
      ++ toString sys.settings.pageSize.toNat ++ ", guard zone "
      ++ toString sys.settings.guardSize.toNat ++ " bytes)")
    return .ok ()

end ManagedFaults
