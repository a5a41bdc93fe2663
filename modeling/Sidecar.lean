import Sidecar.Health
import Sidecar.Main
import Sidecar.Proofs.Authority
import Sidecar.Proofs.Breaker.Numerals
import Sidecar.Proofs.Breaker.Segments
import Sidecar.Proofs.Fingerprint.Decoding
import Sidecar.Proofs.Injection.Confluence
import Sidecar.Proofs.Injection.Delivery
import Sidecar.Proofs.Injection.Difference
import Sidecar.Proofs.Json.Places
import Sidecar.Proofs.Json.Substitution
import Sidecar.Proofs.Labels
import Sidecar.Proofs.Reconciliation
import Sidecar.Proofs.Registry.FirstFault
import Sidecar.Proofs.RoundTrip
import Sidecar.Proofs.Routing
import Sidecar.Proofs.Rule.Arity
import Sidecar.Proofs.Rule.Lossless
import Sidecar.Proofs.Rule.Quantities
import Sidecar.Proofs.Validated
