import PodAdmission.Text.Utf8
import PodAdmission.Text.Blank
import PodAdmission.Number.Shortest
import PodAdmission.Json.Value
import PodAdmission.Text.Quoted
import PodAdmission.Json.Writer
import PodAdmission.Json.Fault
import PodAdmission.Json.Reader.Token
import PodAdmission.Json.Reader.Skip
import PodAdmission.Json.Reader.Value
import PodAdmission.Patch.Diff
import PodAdmission.Failure
import PodAdmission.Instant
import PodAdmission.Schema.Reader
import PodAdmission.Pod.Shape.Whole
import PodAdmission.Pod.Basic
import PodAdmission.Text.Base64
import PodAdmission.Review.Codec
import PodAdmission.Policy.HostProcess
import PodAdmission.Policy.RuntimeClass
import PodAdmission.Decision
import PodAdmission.Http
import PodAdmission.Session
import PodAdmission.Startup.Program
import PodAdmission.Main
import PodAdmission.Proofs.Json.Text
import PodAdmission.Proofs.Number.Decimal
import PodAdmission.Proofs.Number.Shortest
import PodAdmission.Proofs.Json.Basic
import PodAdmission.Proofs.Json.Bracket
import PodAdmission.Proofs.Json.Leaf
import PodAdmission.Proofs.Json.Reading
import PodAdmission.Proofs.Json.Answers
import PodAdmission.Proofs.Json.Skipping
import PodAdmission.Proofs.Schema.Reading
import PodAdmission.Proofs.Schema.Fields
import PodAdmission.Proofs.Schema.Answers
import PodAdmission.Proofs.Patch.Diff
import PodAdmission.Proofs.Patch.Codec
import PodAdmission.Proofs.Json.Frame
import PodAdmission.Proofs.Json.Recovery
import PodAdmission.Proofs.Schema.Change
import PodAdmission.Proofs.Schema.FieldChange
import PodAdmission.Proofs.Schema.Parts
import PodAdmission.Proofs.Pod.Document
import PodAdmission.Proofs.Pod.Change
import PodAdmission.Proofs.Pod.Annotation
import PodAdmission.Proofs.Policy.RuntimeClass
import PodAdmission.Proofs.Policy.HostProcess
import PodAdmission.Proofs.Pod.Views
import PodAdmission.Proofs.Policy.Selection
import PodAdmission.Proofs.Policy.Builtin
import PodAdmission.Proofs.Admission.Response
import PodAdmission.Proofs.Admission.Soundness
import PodAdmission.Proofs.Admission.Fit
import PodAdmission.Proofs.Admission.Convergence
import PodAdmission.Proofs.Admission.Table
import PodAdmission.Proofs.Patch.Replay
import PodAdmission.Proofs.Patch.Creation
import PodAdmission.Proofs.Instant
import PodAdmission.Proofs.Schema.Data
import PodAdmission.Proofs.Schema.Reread
import PodAdmission.Proofs.Pod.RoundTrip
import PodAdmission.Proofs.Json.Document
import PodAdmission.Proofs.Json.Meaning
import PodAdmission.Proofs.Schema.Presentation
import PodAdmission.Proofs.Admission.Presentation
import PodAdmission.Proofs.Admission.Independence
import PodAdmission.Proofs.Admission.FrontDoor
import PodAdmission.Proofs.Admission.Rejection
import PodAdmission.Proofs.Json.Settling
import PodAdmission.Proofs.Review.Isolation
import PodAdmission.Proofs.Patch.Minimal
import PodAdmission.Proofs.Json.Taking
import PodAdmission.Proofs.Json.Consuming
import PodAdmission.Proofs.Json.Passing
import PodAdmission.Proofs.Schema.Consuming
import PodAdmission.Proofs.Json.Lookup
import PodAdmission.Proofs.Schema.Lookup
import PodAdmission.Proofs.Pod.Lookup
import PodAdmission.Proofs.Policy.Document
import PodAdmission.Proofs.Json.Restoring
import PodAdmission.Proofs.Review.Status
import PodAdmission.Proofs.Text.Base64
import PodAdmission.Proofs.Review.Building
import PodAdmission.Proofs.Review.RoundTrip
import PodAdmission.Proofs.Policy.Script
import PodAdmission.Proofs.Policy.Effect
import PodAdmission.Proofs.Admission.Effectiveness
import PodAdmission.Proofs.Pod.Annotating
import PodAdmission.Proofs.Patch.Values
import PodAdmission.Proofs.Admission.Log
import PodAdmission.Proofs.Startup.Configuration
