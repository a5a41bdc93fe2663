/-
**Settings of the injector.**

Everything that can be set has a default, for each field on its own, so a file may set as little as
it likes and no file is as good as an empty one.

Main definitions:

* `Sidecar.Settings` — the rules, and the settings of service, log and server;
* `Sidecar.Settings.decode`, `Sidecar.Settings.encode` — reading and writing them;
* `Sidecar.Settings.ofFile`, `Sidecar.Settings.toYaml` — the same for files;
* `Sidecar.ServiceSettings.hosts`, `Sidecar.ServiceSettings.keyPrefix`,
  `Sidecar.ServerSettings.webhookPath` — names derived from them;
* `Sidecar.Settings.validate` — the registry of the rules, or the first thing wrong.
-/

import Sidecar.Registry
import Sidecar.Yaml.Printer
import Sidecar.Yaml.Value

set_option autoImplicit false

namespace Sidecar

/-- The name of the program, its service and its webhook configuration. -/
def programName : String := "kube-sidecar-injector"

/-- The service behind which the injector runs. -/
structure ServiceSettings where
  namespaceName : String := "default"
  name : String := programName
  port : UInt16 := 8443
  /-- The name of the webhook configuration in the cluster. -/
  configuration : String := programName
  /-- The domain at the end of names of webhooks and of keys of annotations. -/
  domain : String := "flashbots.net"
deriving DecidableEq, Inhabited

/-- The form of the log: JSON lines, or lines for people. -/
inductive LogMode where
  | prod
  | dev
deriving DecidableEq, Inhabited

/-- The log. -/
structure LogSettings where
  level : String := "info"
  mode : LogMode := .prod
deriving DecidableEq, Inhabited

/-- The addresses and paths that are served. -/
structure ServerSettings where
  listenAddress : String := "0.0.0.0:8443"
  pathHealthcheck : String := "/"
  /-- The path under which each rule has its own. -/
  pathWebhook : String := "/mutate"
  metricsListenAddress : String := "0.0.0.0:8080"
deriving DecidableEq, Inhabited

/-- The settings of the injector. -/
structure Settings where
  rules : List Rule := []
  service : ServiceSettings := {}
  log : LogSettings := {}
  server : ServerSettings := {}
deriving DecidableEq, Inhabited

/-! ### Reading and writing -/

namespace ServiceSettings

/-- Reads the settings of the service. -/
def decode {δ : Type} [Source δ] : δ → Except DecodeError ServiceSettings :=
  Decode.record "K8sConfig"
    ["namespace", "serviceName", "servicePortNumber", "mutatingWebhookConfigurationName",
      "orgDomain"]
    fun r =>
      let given : ServiceSettings := {}
      Ranked.pure mk
      |>.ap (r.orElse "namespace" given.namespaceName Decode.text)
      |>.ap (r.orElse "serviceName" given.name Decode.text)
      |>.ap (r.orElse "servicePortNumber" given.port Decode.uint16)
      |>.ap (r.orElse "mutatingWebhookConfigurationName" given.configuration Decode.text)
      |>.ap (r.orElse "orgDomain" given.domain Decode.text)

/-- Writes the settings of the service back. -/
def encode (s : ServiceSettings) : Json :=
  .obj [("namespace", .str s.namespaceName), ("serviceName", .str s.name),
    ("servicePortNumber", .int s.port.toNat),
    ("mutatingWebhookConfigurationName", .str s.configuration), ("orgDomain", .str s.domain)]

/-- The hosts that the certificate of the service must name. -/
def hosts (s : ServiceSettings) : List String :=
  [s.name ++ "." ++ s.namespaceName ++ ".svc", s.name ++ "." ++ s.namespaceName ++ ".svc.cluster.local"]

/-- The part before the slash in the keys of the annotations that the injector keeps. -/
def keyPrefix (s : ServiceSettings) : String :=
  s.name ++ "." ++ s.domain

/-- The name of the webhook of a rule. -/
def webhookName (s : ServiceSettings) (fingerprint : String) : String :=
  fingerprint ++ "." ++ s.configuration ++ "." ++ s.domain

end ServiceSettings

namespace LogMode

/-- The names of the modes. -/
def names : List String := ["prod", "dev"]

/-- The name of a mode. -/
def name : LogMode → String
  | .prod => "prod"
  | .dev => "dev"

/-- The mode of a name; there are but two. -/
def ofName (name : String) : LogMode :=
  if name = "dev" then .dev else .prod

/-- Reads a mode. -/
def decode {δ : Type} [Source δ] (d : δ) : Except DecodeError LogMode :=
  (Source.variant names d).map ofName

@[simp] theorem ofName_name (mode : LogMode) : ofName mode.name = mode := by
  cases mode <;> rfl

theorem name_mem_names (mode : LogMode) : mode.name ∈ names := by
  cases mode <;> decide

end LogMode

namespace LogSettings

/-- Reads the settings of the log. -/
def decode {δ : Type} [Source δ] : δ → Except DecodeError LogSettings :=
  Decode.record "LogConfig" ["level", "mode"]
    fun r =>
      let given : LogSettings := {}
      Ranked.pure mk
      |>.ap (r.orElse "level" given.level Decode.text)
      |>.ap (r.orElse "mode" given.mode LogMode.decode)

/-- Writes the settings of the log back. -/
def encode (s : LogSettings) : Json :=
  .obj [("level", .str s.level), ("mode", .str s.mode.name)]

end LogSettings

namespace ServerSettings

/-- Reads the settings of the server. -/
def decode {δ : Type} [Source δ] : δ → Except DecodeError ServerSettings :=
  Decode.record "ServerConfig"
    ["listenAddress", "pathHealthcheck", "pathWebhook", "metricsListenAddress"]
    fun r =>
      let given : ServerSettings := {}
      Ranked.pure mk
      |>.ap (r.orElse "listenAddress" given.listenAddress Decode.text)
      |>.ap (r.orElse "pathHealthcheck" given.pathHealthcheck Decode.text)
      |>.ap (r.orElse "pathWebhook" given.pathWebhook Decode.text)
      |>.ap (r.orElse "metricsListenAddress" given.metricsListenAddress Decode.text)

/-- Writes the settings of the server back. -/
def encode (s : ServerSettings) : Json :=
  .obj [("listenAddress", .str s.listenAddress), ("pathHealthcheck", .str s.pathHealthcheck),
    ("pathWebhook", .str s.pathWebhook), ("metricsListenAddress", .str s.metricsListenAddress)]

/-- The path of webhooks without the slashes at its end. -/
def basePath (s : ServerSettings) : String :=
  String.ofList (s.pathWebhook.toList.reverse.dropWhile (· = '/')).reverse

/-- Whether the text is a path from the root. -/
def isPath (text : String) : Bool :=
  text.toList.head? == some '/'

/-- The path of the webhook of a rule. -/
def webhookPath (s : ServerSettings) (fingerprint : String) : String :=
  s.basePath ++ "/" ++ fingerprint

end ServerSettings

namespace Settings

/-- Reads settings. -/
def decode {δ : Type} [Source δ] : δ → Except DecodeError Settings :=
  Decode.record "Config" ["inject", "k8s", "log", "server"]
    fun r => Ranked.pure mk
      |>.ap (r.orElse "inject" [] (Decode.list Rule.decode))
      |>.ap (r.orElse "k8s" {} ServiceSettings.decode)
      |>.ap (r.orElse "log" {} LogSettings.decode)
      |>.ap (r.orElse "server" {} ServerSettings.decode)

/-- Writes settings back. -/
def encode (s : Settings) : Json :=
  .obj [("inject", .arr (s.rules.map Rule.encode)), ("k8s", s.service.encode),
    ("log", s.log.encode), ("server", s.server.encode)]

/-- Settings as the text of a file. -/
def toYaml (s : Settings) : String :=
  Yaml.render s.encode

end Settings

/-! ### Files -/

/-- What is found under the name of a file. -/
inductive File where
  | missing
  /-- Something that is no file, or a file that may not be read. -/
  | unreadable
  | bytes (content : ByteArray)

/-- What can be wrong with settings. -/
inductive SettingsError where
  | unreadable
  | undecodable
  | relativeWebhookPath (path : String)
  | relativeHealthcheckPath (path : String)
  | unnamedService
  | rule (cause : RuleError)
deriving DecidableEq

namespace SettingsError

/-- The wording of the error for a file of that name; what follows it is left out where it describes
the content of the file. -/
def message (file : String) : SettingsError → String
  | .unreadable => "failed to read config file " ++ file
  | .undecodable => "failed to decode config file " ++ file
  | .relativeWebhookPath path =>
    "invalid config: webhook path " ++ Text.quoted path ++ " must start with '/'"
  | .relativeHealthcheckPath path =>
    "invalid config: healthcheck path " ++ Text.quoted path ++ " must start with '/'"
  | .unnamedService => "invalid config: service name and namespace must be set"
  | .rule cause => cause.message

end SettingsError

namespace Settings

/-- The settings that a text writes. -/
def ofYaml? (text : String) : Except SettingsError Settings :=
  match Yaml.Value.parse? text with
  | some value => (decode value).mapError fun _ => .undecodable
  | none => .error .undecodable

/-- The settings in a file. -/
def ofFile : File → Except SettingsError Settings
  | .missing | .unreadable => .error .unreadable
  | .bytes content =>
    match String.fromUTF8? content with
    | some text => ofYaml? text
    | none => .error .unreadable

/-- The settings in a file that may be missing. -/
def ofOptionalFile : File → Except SettingsError Settings
  | .missing => .ok {}
  | file => ofFile file

/-- The registry of the rules, or the first thing wrong with the settings. -/
def validate (s : Settings) : Except SettingsError Registry := do
  if !ServerSettings.isPath s.server.pathWebhook then
    throw (.relativeWebhookPath s.server.pathWebhook)
  if !ServerSettings.isPath s.server.pathHealthcheck then
    throw (.relativeHealthcheckPath s.server.pathHealthcheck)
  if s.service.name.isEmpty || s.service.namespaceName.isEmpty then throw .unnamedService
  (Registry.build s.rules).mapError .rule

end Settings

end Sidecar
