/-
**Health and readiness.**

Beside its webhooks the injector answers three questions: whether it runs, whether it is ready, and
what it has counted.

Main definitions:

* `Sidecar.HealthState` — readiness and counts;
* `Sidecar.HealthState.respond` — the answer to a request.
-/

import Sidecar.Http.Router
import Sidecar.Metrics

set_option autoImplicit false

namespace Sidecar

/-- Whether the injector is ready, and what it has counted. -/
structure HealthState where
  isReady : Bool
  metrics : Metrics
deriving DecidableEq

namespace HealthState

/-- The state at the start. -/
def initial : HealthState := ⟨false, .fresh⟩

/-- The questions. -/
inductive Probe where
  | liveness
  | readiness
  | metrics
deriving DecidableEq

/-- The path of a question. -/
def Probe.path : Probe → String
  | .liveness => "/healthz"
  | .readiness => "/readyz"
  | .metrics => "/metrics"

/-- The endpoints of the questions. -/
def router? : Option (Http.Router Probe) :=
  [Probe.liveness, .readiness, .metrics].foldlM
    (fun router probe => router.add? "GET" probe.path probe) .empty

theorem isSome_router? : router?.isSome = true := by
  decide +kernel

/-- The router of the questions. -/
def router : Http.Router Probe :=
  router?.get isSome_router?

/-- The type of the exposition. -/
def expositionType : String := "text/plain; version=0.0.4; charset=utf-8"

/-- The answer to a question. -/
def answer (s : HealthState) : Probe → Http.Response
  | .liveness => .text 200 "ok"
  | .readiness => if s.isReady then .text 200 "ready" else .text 503 "not ready"
  | .metrics => ⟨200, some expositionType, s.metrics.exposition⟩

/-- The answer to a request. -/
def respond (s : HealthState) (method target : String) : Http.Response :=
  match router.dispatch method (Http.pathOf target) with
  | .handler probe _ => (s.answer probe).forMethod method
  | .methodNotAllowed => .bare 405
  | .notFound => .bare 404

end HealthState

end Sidecar
