import ManagedFaults.Stack.Pages
import ManagedFaults.Stack.Zones

/-!
# Guard state of a stack

Which guard zones of a stack are armed.  Handling an overflow opens zones so that the thread can
go on; once its stack has unwound they are armed again.  Where the settings ask for it, arming a
zone closes its pages and opening a zone opens them.
-/

namespace ManagedFaults

/-- How much of the yellow and reserved zones is armed. -/
inductive GuardPhase where
  /-- The zones were never armed. -/
  | unused
  /-- Yellow is armed; the reserved zone is in the hands of a method that needs it. -/
  | reservedDisabled
  /-- Neither zone is armed: an overflow is being handled. -/
  | yellowReservedDisabled
  /-- Both zones are armed. -/
  | enabled
deriving DecidableEq, Repr, Inhabited

/-- The guard zones of one stack and their state. -/
structure StackGuard where
  layout : GuardZones
  mode : GuardMode
  state : GuardPhase := .unused
  redArmed : Bool := false
  /-- The activation the reserved zone is lent to, or zero. -/
  lentTo : Word := 0
  /-- How often a zone was opened; the count starts again once it runs out of words. -/
  openings : Word := 0
deriving DecidableEq, Repr, Inhabited

namespace StackGuard

/-- A guard that was never armed, with the zones that the settings give the stack. -/
def ofSettings (bounds : StackRange) (c : TrapSettings) : StackGuard :=
  { layout := GuardZones.ofSettings bounds c, mode := c.guardMode }

/-- Whether the reserved zone is armed. -/
def reservedArmed (g : StackGuard) : Bool :=
  g.state == .enabled

/-- Whether the yellow zone is armed. -/
def yellowArmed (g : StackGuard) : Bool :=
  g.state == .enabled || g.state == .reservedDisabled

/-- The activation the reserved zone is lent to, if one is recorded. -/
def holder (g : StackGuard) : Option Word :=
  if g.lentTo = 0 then none else some g.lentTo

/-- Records the activation the reserved zone is lent to. -/
def lendTo (g : StackGuard) (a : Word) : StackGuard :=
  { g with lentTo := a }

/-- Forgets the recorded activation. -/
def forgetHolder (g : StackGuard) : StackGuard :=
  { g with lentTo := 0 }

/-- Counts one more opened zone. -/
def countOpening (g : StackGuard) : StackGuard :=
  { g with openings := g.openings + 1 }

end StackGuard

/-! ## Arming and opening zones -/

/-- A guard with the pages it protects, and the warnings that protecting them gave. -/
structure GuardedStack where
  guard : StackGuard
  pages : AddressSpace
  warnings : List String := []

instance : Inhabited GuardedStack := ⟨{ guard := default, pages := default }⟩

namespace GuardedStack

/-- Puts another guard state over the same pages. -/
def withGuard (s : GuardedStack) (g : StackGuard) : GuardedStack :=
  { s with guard := g }

/-- The warning about pages that could not be protected. -/
def protectWarning (a len : Word) (close : Bool) : String :=
  "mprotect(" ++ a.hex ++ ", " ++ toString len.toNat ++ ", "
    ++ (if close then "none" else "rw") ++ ") failed"

/-- Closes or opens the pages of a range, if the guard protects pages at all. -/
def protect (s : GuardedStack) (a len : Word) (close : Bool) : Bool × GuardedStack :=
  if s.guard.mode = .tracked ∨ len = 0 then
    (true, s)
  else
    let (ok, pages) := s.pages.protect a len close
    let warnings := if ok then s.warnings else s.warnings ++ [protectWarning a len close]
    (ok, { s with pages, warnings })

/-- Closes or opens a range, whether or not that succeeds. -/
def tryProtect (s : GuardedStack) (a len : Word) (close : Bool) : GuardedStack :=
  (s.protect a len close).2

/-- Arms every zone, and tells whether the pages could be closed. -/
def armAll (s : GuardedStack) : Bool × GuardedStack :=
  let l := s.guard.layout
  let (ok, s) := s.protect l.lowest l.guardSize true
  (ok, s.withGuard { s.guard with redArmed := true, state := .enabled })

/-- Opens the reserved zone for a method that needs it; yellow stays armed. -/
def lendReserved (s : GuardedStack) : GuardedStack :=
  let l := s.guard.layout
  let s := s.tryProtect l.yellowTop l.reservedSize false
  s.withGuard { s.guard with state := .reservedDisabled }.countOpening

/-- Arms the reserved zone once the method that needed it has returned. -/
def reclaimReserved (s : GuardedStack) : GuardedStack :=
  let l := s.guard.layout
  let s := s.tryProtect l.yellowTop l.reservedSize true
  s.withGuard { s.guard with state := .enabled }

/-- Opens the yellow and reserved zones so that an overflow can be handled. -/
def openYellow (s : GuardedStack) : GuardedStack :=
  let l := s.guard.layout
  let s := s.tryProtect l.redTop (l.yellowSize + l.reservedSize) false
  s.withGuard { s.guard with state := .yellowReservedDisabled }.countOpening

/-- Opens the red zone. -/
def openRed (s : GuardedStack) : GuardedStack :=
  let l := s.guard.layout
  let s := s.tryProtect l.lowest l.redSize false
  s.withGuard { s.guard with redArmed := false }.countOpening

/-- Arms the yellow and reserved zones after an overflow. -/
def closeYellow (s : GuardedStack) : GuardedStack :=
  let l := s.guard.layout
  let s := s.tryProtect l.redTop (l.yellowSize + l.reservedSize) true
  s.withGuard { s.guard with state := .enabled }

/-- The warning about a stack that has not unwound past its guard zones. -/
def rearmWarning (sp top : Word) : String :=
  "cannot reguard stack: sp " ++ sp.hex ++ " is inside the guard zones (top " ++ top.hex ++ ")"

/-- Arms again what an overflow disabled, once the stack has unwound to `sp`; refused while `sp`
is not above the zones. -/
def rearm (s : GuardedStack) (sp : Word) : Bool × GuardedStack :=
  let g := s.guard
  if g.state ≠ .yellowReservedDisabled ∧ g.state ≠ .reservedDisabled then
    (true, s)
  else if sp ≤ g.layout.reservedTop then
    (false, { s with warnings := s.warnings ++ [rearmWarning sp g.layout.reservedTop] })
  else
    let s := if g.state = .yellowReservedDisabled then s.closeYellow else s.reclaimReserved
    (true, s.withGuard s.guard.forgetHolder)

end GuardedStack

end ManagedFaults
