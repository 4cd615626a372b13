import StatusWait.Config.Declaration
import StatusWait.Proofs.Driver
import StatusWait.Proofs.History
import StatusWait.Proofs.Look
import StatusWait.Proofs.Run
import StatusWait.Session
import StatusWait.Snapshot.Image
import StatusWait.Snapshot.Node
import StatusWait.Status.Reading
import StatusWait.Wait.Plan
import StatusWait.Proofs.Outlook
import StatusWait.Proofs.Independence
import StatusWait.Proofs.Layers
import StatusWait.Proofs.Survival
import StatusWait.Proofs.Tally
import StatusWait.Proofs.Json.Reread
import StatusWait.Proofs.Json.Written
import StatusWait.Proofs.Truth
import StatusWait.Proofs.RoundTrip
import StatusWait.Proofs.Likeness
import StatusWait.Proofs.Origin
import StatusWait.Proofs.CatchAll
import StatusWait.Proofs.Documents
import StatusWait.Proofs.Stability
import StatusWait.Proofs.Log
import StatusWait.Proofs.Reading
import StatusWait.Proofs.Variants
import StatusWait.Proofs.LastWrite
import StatusWait.Proofs.Planning
import StatusWait.Proofs.Refusal
