import ManagedFaults.Word

/-!
# Dispositions

What becomes of a trap: it is ignored, the thread is redirected, or it is escalated as fatal;
together with the rule that decided it, this is the classification of the trap.
-/

namespace ManagedFaults

/-- How bad a trap turned out to be. -/
inductive Severity where
  /-- The faulting instruction is executed again. -/
  | retry
  /-- The thread goes on in a recovery stub. -/
  | redirect
  /-- The process is going down. -/
  | fatal
deriving DecidableEq, Repr

namespace Severity

/-- Severities from harmless to fatal. -/
def rank : Severity → Nat
  | .retry => 0
  | .redirect => 1
  | .fatal => 2

/-- How a severity is printed. -/
def text : Severity → String
  | .retry => "recoverable (retry)"
  | .redirect => "recoverable (redirect)"
  | .fatal => "fatal"

end Severity

/-- What is done about a trap. -/
inductive Disposition where
  /-- Return, and execute the instruction again or simply go on. -/
  | ignore
  /-- Resume the thread at a stub. -/
  | redirect (stub : Word)
  /-- Hand the trap to the fatal error path. -/
  | escalate
deriving DecidableEq, Repr, Inhabited

namespace Disposition

/-- The severity of a trap that is treated so. -/
def severity : Disposition → Severity
  | .ignore => .retry
  | .redirect _ => .redirect
  | .escalate => .fatal

/-- The stub the thread resumes at. -/
def stub? : Disposition → Option Word
  | .redirect stub => some stub
  | _ => none

/-- How a disposition is printed. -/
def text : Disposition → String
  | .ignore => "ignore"
  | .redirect stub => "redirect to " ++ stub.hex
  | .escalate => "escalate"

end Disposition

/-- What decided about a trap. -/
inductive TrapRule where
  | brokenPipe
  | safeFetch
  | stackRedZone
  | reservedStack
  | stackOverflow
  | nativeStackOverflow
  | zombieEntry
  | safepointPoll
  | unsafeAccess
  | divideByZero
  | implicitNull
  | runtimeUnsafeAccess
  | fastAccessorSlowCase
  | serializePage
  | chained
  | unrecognized
  | nestedFault
deriving DecidableEq, Repr, Inhabited

namespace TrapRule

/-- All rules. -/
def all : List TrapRule :=
  [.brokenPipe, .safeFetch, .stackRedZone, .reservedStack, .stackOverflow, .nativeStackOverflow,
   .zombieEntry, .safepointPoll, .unsafeAccess, .divideByZero, .implicitNull,
   .runtimeUnsafeAccess, .fastAccessorSlowCase, .serializePage, .chained, .unrecognized,
   .nestedFault]

/-- The name of a rule. -/
def name : TrapRule → String
  | .brokenPipe => "broken-pipe"
  | .safeFetch => "safefetch"
  | .stackRedZone => "stack-red-zone"
  | .reservedStack => "reserved-stack"
  | .stackOverflow => "stack-overflow"
  | .nativeStackOverflow => "native-stack-overflow"
  | .zombieEntry => "zombie-entry"
  | .safepointPoll => "safepoint-poll"
  | .unsafeAccess => "unsafe-access"
  | .divideByZero => "divide-by-zero"
  | .implicitNull => "implicit-null"
  | .runtimeUnsafeAccess => "runtime-unsafe-access"
  | .fastAccessorSlowCase => "fast-accessor-slowcase"
  | .serializePage => "serialize-page"
  | .chained => "chained"
  | .unrecognized => "unrecognized"
  | .nestedFault => "nested-fault"

end TrapRule

/-- The outcome of classifying a trap. -/
structure Classification where
  rule : TrapRule
  disposition : Disposition
deriving DecidableEq, Repr, Inhabited

end ManagedFaults
