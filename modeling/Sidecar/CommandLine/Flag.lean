/-
**Flags of the command line.**

Most settings, and the place of the file that holds them, can be given by a flag or by a variable of
the environment.  The name of the variable follows from that of the flag.  A port is a number with
or without a sign, a mode of the log one of its names, and the place of a file is not empty; any
other text will do.

Main definitions:

* `Sidecar.Flag`, `Sidecar.Flag.name`, `Sidecar.Flag.variableName` — the flags and their names;
* `Sidecar.Flag.change?` — the settings after a flag has been given.
-/

import Sidecar.Settings

set_option autoImplicit false

namespace Sidecar

/-- What can be given on the command line. -/
inductive Flag where
  | configFile
  | logLevel
  | logMode
  | namespaceName
  | serviceName
  | servicePort
  | configuration
  | domain
  | listenAddress
  | pathHealthcheck
  | pathWebhook
  | metricsListenAddress
deriving DecidableEq

namespace Flag

/-- The flags. -/
def all : List Flag :=
  [configFile, logLevel, logMode, namespaceName, serviceName, servicePort, configuration, domain,
    listenAddress, pathHealthcheck, pathWebhook, metricsListenAddress]

/-- The name of the flag, which two dashes precede. -/
def name : Flag → String
  | configFile => "config-file"
  | logLevel => "log-level"
  | logMode => "log-mode"
  | namespaceName => "namespace"
  | serviceName => "service-name"
  | servicePort => "service-port-number"
  | configuration => "mutating-webhook-configuration-name"
  | domain => "org-domain"
  | listenAddress => "listen-address"
  | pathHealthcheck => "path-healthcheck"
  | pathWebhook => "path-webhook"
  | metricsListenAddress => "metrics-listen-address"

/-- The flag of a name. -/
def ofName? (name : String) : Option Flag :=
  all.find? fun f => f.name = name

theorem ofName?_name (f : Flag) : ofName? f.name = some f := by
  cases f <;> decide

/-- The variable of the environment in which the value may be given. -/
def variableName (f : Flag) : String :=
  "KUBE_SIDECAR_INJECTOR_"
    ++ String.ofList (f.name.toList.map fun c => if c = '-' then '_' else c.toUpper)

/-- A number between 0 and 65535 in decimal digits, with or without a sign. -/
def port? (text : String) : Option UInt16 :=
  let (isNegative, digits) := match text.toList with
    | '-' :: digits => (true, digits)
    | '+' :: digits => (false, digits)
    | digits => (false, digits)
  let n := Nat.ofDigitChars 10 digits 0
  if digits.isEmpty || !digits.all Char.isDigit || 65535 < n || (isNegative && 0 < n) then none
  else some (UInt16.ofNat n)

/-- The mode of the log of a name. -/
def logMode? (text : String) : Option LogMode :=
  if text ∈ LogMode.names then some (LogMode.ofName text) else none

/-- The settings after the flag has been given the value, which may not do.  The place of the file
is no part of the settings. -/
def change? (f : Flag) (value : String) (s : Settings) : Option Settings :=
  match f with
  | configFile => if value.isEmpty then none else some s
  | logLevel => some { s with log.level := value }
  | logMode => (logMode? value).map fun mode => { s with log.mode := mode }
  | namespaceName => some { s with service.namespaceName := value }
  | serviceName => some { s with service.name := value }
  | servicePort => (port? value).map fun port => { s with service.port := port }
  | configuration => some { s with service.configuration := value }
  | domain => some { s with service.domain := value }
  | listenAddress => some { s with server.listenAddress := value }
  | pathHealthcheck => some { s with server.pathHealthcheck := value }
  | pathWebhook => some { s with server.pathWebhook := value }
  | metricsListenAddress => some { s with server.metricsListenAddress := value }

/-- Whether the value will do. -/
def accepts (f : Flag) (value : String) : Bool :=
  (f.change? value {}).isSome

end Flag

end Sidecar
