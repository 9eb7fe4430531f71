import Courier.Log.Bench
import Courier.Main
import Courier.Proofs.Job.Outcome
import Courier.Proofs.Json.Spelling
import Courier.Proofs.Json.Lexing
import Courier.Proofs.Json.RoundTrip
import Courier.Proofs.Http.Posting
import Courier.Proofs.Json.Members
import Courier.Proofs.Dispatch.Rehearsal
import Courier.Proofs.Dispatch.Batch
import Courier.Proofs.Http.Rekeying
import Courier.Proofs.Dispatch.Secrecy
import Courier.Proofs.Program.Secrecy
import Courier.Proofs.Http.Acceptance
import Courier.Proofs.Dispatch.Acceptance
import Courier.Proofs.Http.Stranding
import Courier.Proofs.Program.ExitCode
import Courier.Proofs.Http.Documents
import Courier.Proofs.Dispatch.Bodies
import Courier.Proofs.Dispatch.Checks
import Courier.Proofs.Dispatch.Clearance
import Courier.Proofs.Dispatch.Calls
import Courier.Proofs.Dispatch.WireFormat
import Courier.Proofs.Program.WireFormat
import Courier.Proofs.Config.Layers
import Courier.Proofs.Settings.Leaves
import Courier.Proofs.Config.Precedence
import Courier.Proofs.Config.Isolation
import Courier.Proofs.Dispatch.Classification
import Courier.Proofs.Dispatch.Verification
import Courier.Proofs.Program.Custody
import Courier.Proofs.CommandLine.Numbers
import Courier.Proofs.Config.Numbers
import Courier.Proofs.Log.Accounting
import Courier.Proofs.Dispatch.Endpoints
import Courier.Proofs.Phone.Notation
import Courier.Proofs.Dispatch.Recipients
import Courier.Proofs.Dispatch.Confirmations
import Courier.Proofs.Dispatch.Receipts
import Courier.Proofs.Settings.Rules
import Courier.Proofs.Dispatch.Credentials
import Courier.Proofs.Json.Indentation
import Courier.Proofs.Dispatch.Printouts
import Courier.Proofs.Settings.RoundTrip
import Courier.Proofs.Log.Contents
import Courier.Proofs.Dispatch.Policies
import Courier.Proofs.CommandLine.RoundTrip
import Courier.Proofs.Program.Texts
import Courier.Proofs.Program.Merging
import Courier.Proofs.Failure.Line
