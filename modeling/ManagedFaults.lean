import ManagedFaults.Console.Writer
import ManagedFaults.Cpu.Features
import ManagedFaults.Frame.Chain
import ManagedFaults.Trap.Launch
import ManagedFaults.Proofs.Trap.Rules
import ManagedFaults.Proofs.Trap.Frame
import ManagedFaults.Proofs.Trap.Justification
import ManagedFaults.Proofs.Stack.Guard
import ManagedFaults.Proofs.Stack.Runs
import ManagedFaults.Proofs.Trap.Nested
import ManagedFaults.Proofs.Trap.Application
import ManagedFaults.Proofs.Trap.Visible
import ManagedFaults.Proofs.Stack.Episode
import ManagedFaults.Proofs.Handler.Live
import ManagedFaults.Proofs.Handler.Asking
import ManagedFaults.Proofs.Handler.Requests
import ManagedFaults.Proofs.Signal.Rollback
import ManagedFaults.Proofs.Trap.Offering
import ManagedFaults.Proofs.Trap.Reentry
import ManagedFaults.Proofs.Frame.Chain
import ManagedFaults.Proofs.Frame.Records
import ManagedFaults.Proofs.Fatal.TopOfStack
import ManagedFaults.Proofs.Memory
import ManagedFaults.Proofs.Race
import ManagedFaults.Proofs.Trap.Publishing
import ManagedFaults.Proofs.Fatal.OneReport
import ManagedFaults.Proofs.RingBuffer
import ManagedFaults.Proofs.Trap.History
import ManagedFaults.Proofs.Fatal.RecentTraps
import ManagedFaults.Proofs.Stack.Operations
import ManagedFaults.Proofs.Handler.Control
import ManagedFaults.Proofs.Handler.Reowning
import ManagedFaults.Proofs.Trap.Overflow
import ManagedFaults.Proofs.Trap.RedZone
import ManagedFaults.Proofs.Trap.RuleOrder
import ManagedFaults.Proofs.Trap.OfferedOnce
import ManagedFaults.Proofs.Trap.Implicit
import ManagedFaults.Proofs.Stack.Openings
import ManagedFaults.Proofs.Stack.Retries
import ManagedFaults.Proofs.Stack.Refusals
import ManagedFaults.Proofs.Trap.WithoutRegisters
import ManagedFaults.Proofs.Handler.Kept
import ManagedFaults.Proofs.Signal.Chaining
import ManagedFaults.Proofs.Console.Printing
import ManagedFaults.Proofs.Registers.Copy
import ManagedFaults.Proofs.Trap.Copied
import ManagedFaults.Proofs.Cpu.WorkArounds
import ManagedFaults.Proofs.Trap.LogCopies
