import ManagedFaults.Trap.Dispatch

/-!
# Registration of chained handlers

Adding, removing and handing over chained handlers.  A change takes the registry's lock for
itself.  A removed handler is dropped while the lock is still held, a refused one after it has been
given back.
-/

namespace ManagedFaults

/-- Takes the registry's lock for a change. -/
def lockRegistry : TrapM Unit := do
  let s ← get
  if s.lock.writing || s.lock.readers != 0 then
    throw .deadlocked
  else
    set { s with lock := { s.lock with writing := true } }

/-- Gives the registry's lock back. -/
def unlockRegistry : TrapM Unit :=
  modify fun s => { s with lock := { s.lock with writing := false } }

namespace Registration

/-- Registers an entry; one that is refused is dropped. -/
def add (services : Services) (e : RegisteredHandler ChainedHandler) :
    TrapM (Except TrapFailure HandlerHandle) := do
  lockRegistry
  match (← get).registry.register e with
  | .ok registry =>
    modify fun s => { s with registry }
    unlockRegistry
    return .ok e.handle
  | .error failure =>
    unlockRegistry
    e.handler.drop services
    return .error failure

/-- Removes the entry with a handle and drops it. -/
def remove (services : Services) (h : HandlerHandle) (requester : Registrar) :
    TrapM (Except TrapFailure Unit) := do
  lockRegistry
  match (← get).registry.unregister h requester with
  | .ok (e, registry) =>
    modify fun s => { s with registry }
    e.handler.drop services
    unlockRegistry
    return .ok ()
  | .error failure =>
    unlockRegistry
    return .error failure

/-- Gives the entry with a handle to another owner. -/
def transfer (h : HandlerHandle) (requester owner : Registrar) :
    TrapM (Except TrapFailure Unit) := do
  lockRegistry
  let s ← get
  unlockRegistry
  match s.registry.transfer h requester owner with
  | .ok registry =>
    modify fun s => { s with registry }
    return .ok ()
  | .error failure => return .error failure

end Registration

/-- Registers a chained handler with the published trap system.  Every call takes a handle of its
own, also one that is refused. -/
def registerHandler (services : Services) (handler : ChainedHandler) (signal : Option Signal)
    (priority : UInt8) (description : String) (protection : Protection)
    (owner : Registrar) : TrapM (Except TrapFailure HandlerHandle) := do
  let handle ← TrapM.nextHandle
  if ← TrapM.isPublished then
    Registration.add services
      { handler, priority, description, signal, protection, owner, handle }
  else
    handler.drop services
    return .error .notPublished

/-- Unregisters a chained handler of the published trap system. -/
def unregisterHandler (services : Services) (h : HandlerHandle) (requester : Registrar) :
    TrapM (Except TrapFailure Unit) := do
  if ← TrapM.isPublished then
    Registration.remove services h requester
  else
    return .error .notPublished

/-- Hands a chained handler of the published trap system over to another registrar. -/
def transferHandler (h : HandlerHandle) (requester owner : Registrar) :
    TrapM (Except TrapFailure Unit) := do
  if ← TrapM.isPublished then
    Registration.transfer h requester owner
  else
    return .error .notPublished

end ManagedFaults
