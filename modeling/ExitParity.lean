import ExitParity.Main
import ExitParity.Report.Decode
import ExitParity.Script
import ExitParity.Proofs.Pool.Run
import ExitParity.Proofs.Pool.Token
import ExitParity.Proofs.Pool.Balance
import ExitParity.Proofs.Pool.Delivery
import ExitParity.Proofs.Pool.Lockstep
import ExitParity.Proofs.Env.Restoration
import ExitParity.Proofs.Env.Overlay
import ExitParity.Proofs.Comparison.Tasks
import ExitParity.Proofs.Comparison.Decision
import ExitParity.Proofs.Comparison.Passing
import ExitParity.Proofs.Evaluation.Filing
import ExitParity.Proofs.Evaluation.Account
import ExitParity.Proofs.Evaluation.Discovery
import ExitParity.Proofs.Evaluation.Errand
import ExitParity.Proofs.Evaluation.Progress
import ExitParity.Proofs.Evaluation.Calm
import ExitParity.Proofs.Evaluation.Regeneration
import ExitParity.Proofs.Evaluation.Calls
import ExitParity.Proofs.Host.Invoking
import ExitParity.Proofs.Host.Watching
import ExitParity.Proofs.Session.Account
import ExitParity.Proofs.Session.Status
import ExitParity.Proofs.Naming.Siblings
import ExitParity.Proofs.Text.Utf8
import ExitParity.Proofs.Json.Lexical
import ExitParity.Proofs.Naming.Overlap
import ExitParity.Proofs.Json.RoundTrip
import ExitParity.Proofs.Report.Reading
import ExitParity.Proofs.Suite.Version
import ExitParity.Proofs.Pool.Termination
import ExitParity.Proofs.Host.Probing
import ExitParity.Proofs.Session.Rejection
import ExitParity.Proofs.Naming.Kinds
import ExitParity.Proofs.Files.Growth
import ExitParity.Proofs.Files.Writing
import ExitParity.Proofs.Discovery.Reach
import ExitParity.Proofs.Discovery.Undisturbed
import ExitParity.Proofs.Lookup.Preference
import ExitParity.Proofs.Lookup.Shadowing
import ExitParity.Proofs.Lookup.Locating
import ExitParity.Proofs.Report.Entries
import ExitParity.Proofs.Naming.Apart
import ExitParity.Proofs.Report.Legibility
import ExitParity.Proofs.Files.Storing
import ExitParity.Proofs.Report.Storing
import ExitParity.Proofs.Json.Members
import ExitParity.Proofs.Report.Leniency
import ExitParity.Proofs.Report.Edits
import ExitParity.Proofs.Report.Writing
