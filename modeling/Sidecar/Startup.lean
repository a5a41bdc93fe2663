/-
**Getting ready to serve.**

Before anything is served, the log gets its filter, the settings are checked, the authority issues
the certificate of the service, and the address of probes and metrics is read, in this order.  The
first thing that fails ends the program.  A filter in the environment takes the place of that of the
settings, but only if it is one.

Main definitions:

* `Sidecar.StartupError` — what may end the program;
* `Sidecar.Settings.prepare` — what there is once everything is ready;
* `Sidecar.ServerSettings.listenSocket`, `Sidecar.TaskEnd.result` — the address of the webhooks, and
  what becomes of their task.
-/

import Sidecar.Authority
import Sidecar.LogFilter
import Sidecar.Settings

set_option autoImplicit false

namespace Sidecar

/-- What may end the program. -/
inductive StartupError where
  | settings (cause : SettingsError)
  | logFilter (cause : LogFilterError)
  | certificate (cause : CertificateError)
  /-- No address for probes and metrics. -/
  | address (text : String)
  /-- No address for webhooks. -/
  | listenAddress (text : String)
  | cluster (cause : String)
  | io (cause : String)
  /-- A task in the background that came to no end of its own: it panicked, or was cancelled. -/
  | taskAborted (task : String) (isPanic : Bool)
deriving DecidableEq

/-- The wording of the error, for settings from a file of that name. -/
def StartupError.message (file : String) : StartupError → String
  | .settings cause => cause.message file
  | .logFilter cause => "invalid log filter: " ++ cause.message
  | .certificate cause => cause.message
  | .address text => "invalid address " ++ Text.quoted text ++ ": invalid socket address syntax"
  | .listenAddress text =>
    "invalid listen address " ++ Text.quoted text ++ ": invalid socket address syntax"
  | .cluster cause => "Kubernetes API error: " ++ cause
  | .io cause => "I/O error: " ++ cause
  | .taskAborted task isPanic =>
    task ++ " task aborted: task " ++ (if isPanic then "panicked" else "was cancelled")

/-! ### The filter of the log -/

namespace LogFilter

/-- The filter that the environment gives, if it is one, or else that of the settings. -/
def choose (given : Option String) (s : LogSettings) : Except LogFilterError String :=
  match given with
  | some filter =>
    match check filter with
    | .ok _ => .ok filter
    | .error _ => (check s.filter).map fun _ => s.filter
  | none => (check s.filter).map fun _ => s.filter

end LogFilter

/-! ### What is served -/

/-- What there is before anything is served; `κ` is the type of keys. -/
structure Prepared (κ : Type) where
  filter : String
  registry : Registry
  bundle : Bundle κ
  /-- Where probes and metrics are served. -/
  metricsAddress : SocketAddress

/-- Gets ready: the authority's serial numbers follow the given one. -/
def Settings.prepare {κ : Type} (s : Settings) (filter : Option String) (serial : BitVec 128)
    (t : Attempt κ) : Except StartupError (Prepared κ) := do
  let filter ← (LogFilter.choose filter s.log).mapError .logFilter
  let registry ← s.validate.mapError .settings
  let authority ← (Authority.create s.service.domain s.service.hosts serial).mapError .certificate
  let bundle ← (authority.issue t).1.mapError .certificate
  match SocketAddress.parse? s.server.metricsListenAddress with
  | some metricsAddress => pure { filter, registry, bundle, metricsAddress }
  | none => throw (.address s.server.metricsListenAddress)

/-- The address at which webhooks are served. -/
def ServerSettings.listenSocket (s : ServerSettings) : Except StartupError SocketAddress :=
  match SocketAddress.parse? s.listenAddress with
  | some address => .ok address
  | none => .error (.listenAddress s.listenAddress)

/-! ### Tasks in the background -/

/-- How a task ended. -/
inductive TaskEnd where
  | finished
  | failed (cause : StartupError)
  | panicked
  | cancelled
deriving DecidableEq

/-- What becomes of the program with a task that has ended. -/
def TaskEnd.result (task : String) : TaskEnd → Except StartupError Unit
  | finished => .ok ()
  | failed cause => .error cause
  | panicked => .error (.taskAborted task true)
  | cancelled => .error (.taskAborted task false)

end Sidecar
