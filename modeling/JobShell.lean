import JobShell.Command.Printer
import JobShell.Main
import JobShell.Session.Step
import JobShell.Proofs.Interruption
import JobShell.Proofs.Reports
import JobShell.Proofs.Ends
import JobShell.Proofs.Failures
import JobShell.Proofs.RoundTrip
import JobShell.Proofs.Leaving
import JobShell.Proofs.Coupling
import JobShell.Proofs.ForegroundOnly
import JobShell.Proofs.Overlooking
import JobShell.Proofs.Paths
import JobShell.Proofs.Trees
import JobShell.Proofs.Directories
import JobShell.Proofs.Seeking
import JobShell.Proofs.Feeding
import JobShell.Proofs.Typing
import JobShell.Proofs.Deliveries
import JobShell.Proofs.Hearing
import JobShell.Proofs.Announcing
import JobShell.Proofs.Opening
import JobShell.Proofs.Redirecting
import JobShell.Proofs.Departing
import JobShell.Proofs.Rereading
import JobShell.Proofs.ExitCodes
import JobShell.Proofs.Guarding
import JobShell.Proofs.Postponing
import JobShell.Proofs.Substituting
import JobShell.Proofs.Bookkeeping
import JobShell.Proofs.Touching
import JobShell.Proofs.Stopping
import JobShell.Proofs.Disregarding
import JobShell.Proofs.Composing
