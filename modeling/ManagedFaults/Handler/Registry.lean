import ManagedFaults.Signal.Basic
import ManagedFaults.Text.Characters

/-!
# The registry of chained handlers

Handlers that are offered the signals no rule recognises, in the order of their priorities; equal
priorities keep the order of registration.  Each entry has an owner and a protection level, which
say who may remove it.
-/

namespace ManagedFaults

/-! ## Refusals -/

/-- Why a request is refused. -/
inductive TrapFailure where
  | notPublished
  | alreadyPublished
  | duplicateHandler
  | handlerNotFound
  | permissionDenied
  /-- The system refused to install a signal action, with this error number. -/
  | installRefused (errno : Int32)
deriving DecidableEq, Repr

/-- The words for a failure. -/
def TrapFailure.message : TrapFailure → String
  | .notPublished => "Trap system has not been initialized."
  | .alreadyPublished => "Trap system has already been initialized."
  | .duplicateHandler =>
    "A handler with this description is already registered for the signal."
  | .handlerNotFound => "The specified handler could not be found."
  | .permissionDenied => "Operation denied due to ownership or protection level."
  | .installRefused errno =>
    "Installing the signal handler failed (errno " ++ toString errno.toInt ++ ")."

/-! ## Entries -/

/-- The number a module that registers handlers is known by. -/
abbrev Registrar := UInt64

/-- The registrar that the trap system itself is. -/
def runtimeRegistrar : Registrar := 0

/-- The registrar that the embedding program is. -/
def embedderRegistrar : Registrar := 1

/-- The first number given to any other registrar. -/
def firstRegistrar : Registrar := 2

/-- The number a registered handler is known by. -/
abbrev HandlerHandle := UInt64

/-- The first number given to a handler. -/
def firstHandle : HandlerHandle := 1

/-- Who may remove a handler. -/
inductive Protection where
  /-- Only the runtime. -/
  | runtime
  /-- The runtime or the embedder. -/
  | embedder
  /-- The owning registrar or the runtime. -/
  | user
deriving DecidableEq, Repr, Inhabited

/-- The name of a protection level. -/
def Protection.name : Protection → String
  | .runtime => "Runtime"
  | .embedder => "Embedder"
  | .user => "User"

/-- A registered handler. -/
structure RegisteredHandler (H : Type) where
  handler : H
  /-- Lower runs first. -/
  priority : UInt8
  description : String
  /-- The one signal the handler is offered; without one it is offered all. -/
  signal : Option Signal
  protection : Protection
  owner : Registrar
  handle : HandlerHandle

namespace RegisteredHandler

variable {H : Type}

/-- Whether the handler is offered a signal. -/
def accepts (e : RegisteredHandler H) (s : Signal) : Bool :=
  match e.signal with
  | none => true
  | some t => t == s

/-- Whether a registrar may remove the entry. -/
def removableBy (e : RegisteredHandler H) (id : Registrar) : Bool :=
  match e.protection with
  | .runtime => id == runtimeRegistrar
  | .embedder => id == runtimeRegistrar || id == embedderRegistrar
  | .user => e.owner == id || id == runtimeRegistrar

/-- Whether a registrar may give the entry to another one. -/
def transferableBy (e : RegisteredHandler H) (id : Registrar) : Bool :=
  e.owner == id || id == runtimeRegistrar

/-- Whether two entries cannot both be registered. -/
def clashes (e f : RegisteredHandler H) : Bool :=
  e.description == f.description && e.signal == f.signal

/-- How the signal of an entry is shown. -/
def signalText : Option Signal → String
  | none => "None"
  | some .segv => "Some(Segv)"
  | some .bus => "Some(Bus)"
  | some .ill => "Some(Ill)"
  | some .trap => "Some(Trap)"
  | some .fpe => "Some(Fpe)"
  | some .pipe => "Some(Pipe)"
  | some .xfsz => "Some(Xfsz)"
  | some (.other n) => "Some(Other(" ++ toString n.toInt ++ "))"

/-- The fields of an entry, the handler itself excepted. -/
def text (e : RegisteredHandler H) : String :=
  "HandlerEntry \x7b priority: " ++ toString e.priority.toNat
    ++ ", description: " ++ Text.quoted e.description
    ++ ", signal: " ++ signalText e.signal
    ++ ", protection_level: " ++ e.protection.name
    ++ ", registrar_id: " ++ toString e.owner.toNat
    ++ ", handle: HandlerHandle \x7b id: " ++ toString e.handle.toNat ++ " \x7d \x7d"

end RegisteredHandler

/-- The registered handlers in the order in which signals are offered to them. -/
structure Registry (H : Type) where
  entries : List (RegisteredHandler H) := []

namespace Registry

variable {H : Type}

instance : Inhabited (Registry H) := ⟨{}⟩

/-- Puts an entry after all entries that run before it or have the same priority. -/
def insert (r : Registry H) (e : RegisteredHandler H) : Registry H :=
  let runsFirst := fun f : RegisteredHandler H => decide (f.priority ≤ e.priority)
  { entries := r.entries.takeWhile runsFirst ++ e :: r.entries.dropWhile runsFirst }

/-- Registers an entry, unless one with its description and signal is there. -/
def register (r : Registry H) (e : RegisteredHandler H) : Except TrapFailure (Registry H) :=
  if r.entries.any (·.clashes e) then .error .duplicateHandler else .ok (r.insert e)

/-- The first entry with a handle. -/
def find? (r : Registry H) (h : HandlerHandle) : Option (RegisteredHandler H) :=
  r.entries.find? fun e => e.handle == h

/-- Removes the entry with a handle if `requester` may, and gives the entry that was removed. -/
def unregister (r : Registry H) (h : HandlerHandle) (requester : Registrar) :
    Except TrapFailure (RegisteredHandler H × Registry H) :=
  match r.find? h with
  | none => .error .handlerNotFound
  | some e =>
    if e.removableBy requester then
      .ok (e, { entries := r.entries.eraseP fun f => f.handle == h })
    else
      .error .permissionDenied

/-- Gives the first entry with a handle to another owner. -/
def setOwner (h : HandlerHandle) (owner : Registrar) :
    List (RegisteredHandler H) → List (RegisteredHandler H)
  | [] => []
  | e :: es => if e.handle == h then { e with owner } :: es else e :: setOwner h owner es

/-- Gives the entry with a handle to another owner, if `requester` is its owner or the runtime. -/
def transfer (r : Registry H) (h : HandlerHandle) (requester owner : Registrar) :
    Except TrapFailure (Registry H) :=
  match r.find? h with
  | none => .error .handlerNotFound
  | some e =>
    if e.transferableBy requester then
      .ok { entries := setOwner h owner r.entries }
    else
      .error .permissionDenied

/-- The entries that are offered a signal, in order. -/
def accepting (r : Registry H) (s : Signal) : List (RegisteredHandler H) :=
  r.entries.filter (·.accepts s)

/-- The descriptions of the entries, in order. -/
def descriptions (r : Registry H) : List String :=
  r.entries.map (·.description)

end Registry

end ManagedFaults
