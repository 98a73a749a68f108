import BearerGate.Main
import BearerGate.Service.History
import BearerGate.Startup
import BearerGate.Summary
import BearerGate.Http.Intake
import BearerGate.Text.Utf8.Lemmas
import BearerGate.Proofs.Text.Words
import BearerGate.Proofs.Gate.Admission
import BearerGate.Proofs.Token.Soundness
import BearerGate.Proofs.Token.Window
import BearerGate.Proofs.Service.RoundTrip
import BearerGate.Proofs.Service.Revocation
import BearerGate.Proofs.Service.Rejections
import BearerGate.Proofs.Service.Refinement
import BearerGate.Proofs.Service.Bodies
import BearerGate.Proofs.Token.Course
import BearerGate.Proofs.Settings
import BearerGate.Proofs.Startup
import BearerGate.Proofs.Service.Operation
import BearerGate.Proofs.Settings.Faults
import BearerGate.Proofs.Settings.Padding
import BearerGate.Proofs.Service.Probes
import BearerGate.Proofs.CommandLine
import BearerGate.Proofs.Glob
import BearerGate.Proofs.RoutePattern
import BearerGate.Proofs.RoutePattern.Printed
import BearerGate.Proofs.Token.Checks
import BearerGate.Proofs.Gate.Discipline
import BearerGate.Proofs.Text.Quoted
import BearerGate.Proofs.Summary
import BearerGate.Proofs.Token.Alteration
import BearerGate.Proofs.RevokedNumbers
import BearerGate.Proofs.Grants
import BearerGate.Proofs.Service.Audit
import BearerGate.Proofs.Caller
import BearerGate.Proofs.Service.Spaces
import BearerGate.Proofs.Base64
import BearerGate.Proofs.Key.Armor
