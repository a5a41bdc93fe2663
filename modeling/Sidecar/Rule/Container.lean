/-
**Containers.**

The containers that a rule adds to a pod.

Main definitions:

* `Sidecar.Rule.EnvVar`, `Sidecar.Rule.ContainerPort`, `Sidecar.Rule.Resources`,
  `Sidecar.Rule.Container` — a container and its parts;
* the `decode`, `encode`, `feed` and `toCluster` of each.
-/

import Sidecar.Rule.Volume

set_option autoImplicit false

namespace Sidecar.Rule

/-- A variable of a container's environment. -/
structure EnvVar where
  name : String
  value : String
deriving DecidableEq, Inhabited

namespace EnvVar

/-- Reads a variable. -/
def decode {δ : Type} [Source δ] : δ → Except DecodeError EnvVar :=
  Decode.record "InjectEnvVar" ["name", "value"] fun r =>
    Ranked.pure mk
      |>.ap (r.required "name" Decode.text)
      |>.ap (r.orElse "value" "" Decode.text)

/-- Writes a variable back, its value even if that is empty. -/
def encode (v : EnvVar) : Json :=
  .record [("name", some (.str v.name)), ("value", some (.str v.value))]

/-- The bytes that a variable feeds. -/
def feed (v : EnvVar) : Feed :=
  Feed.text "name" v.name ++ Feed.text "value" v.value

/-- The cluster's form of a variable: an empty value is present. -/
def toCluster (v : EnvVar) : Cluster.EnvVar :=
  { name := v.name, value := some v.value }

end EnvVar

/-- A port that a container opens. -/
structure ContainerPort where
  name : String
  containerPort : Int32
  hostPort : Option Int32
  hostIP : String
  protocol : String
deriving DecidableEq, Inhabited

namespace ContainerPort

/-- Reads a port. -/
def decode {δ : Type} [Source δ] : δ → Except DecodeError ContainerPort :=
  Decode.record "InjectContainerPort" ["name", "containerPort", "hostPort", "hostIP", "protocol"]
    fun r => Ranked.pure mk
      |>.ap (r.orElse "name" "" Decode.text)
      |>.ap (r.required "containerPort" Decode.int32)
      |>.ap (r.orElse "hostPort" none (Decode.option Decode.int32))
      |>.ap (r.orElse "hostIP" "" Decode.text)
      |>.ap (r.orElse "protocol" "" Decode.text)

/-- Writes a port back. -/
def encode (p : ContainerPort) : Json :=
  .record [("name", Json.nonEmptyText p.name),
    ("containerPort", some (.int p.containerPort.toInt)),
    ("hostPort", p.hostPort.map fun n => .int n.toInt), ("hostIP", Json.nonEmptyText p.hostIP),
    ("protocol", Json.nonEmptyText p.protocol)]

/-- The bytes that a port feeds. -/
def feed (p : ContainerPort) : Feed :=
  Feed.text "name" p.name ++ Feed.optInt32 "containerPort" (some p.containerPort)
    ++ Feed.optInt32 "hostPort" p.hostPort ++ Feed.text "hostIP" p.hostIP
    ++ Feed.text "protocol" p.protocol

/-- Whether the number is that of a port. -/
def isPort (n : Int32) : Bool :=
  1 ≤ n.toInt && n.toInt ≤ 65535

/-- The protocols of ports. -/
def protocols : List String := ["TCP", "UDP", "SCTP"]

/-- The cluster's form of a port. -/
def toCluster (p : ContainerPort) : Except RuleError Cluster.ContainerPort :=
  match (p.containerPort :: p.hostPort.toList).find? fun n => !isPort n with
  | some n => .error (.invalidPort n)
  | none =>
    if p.protocol ≠ "" ∧ p.protocol ∉ protocols then .error (.invalidProtocol p.protocol)
    else .ok
      { name := unlessEmpty p.name
        containerPort := p.containerPort
        hostPort := p.hostPort
        hostIP := unlessEmpty p.hostIP
        protocol := unlessEmpty p.protocol }

end ContainerPort

/-- What a container asks for and how much it may use at most, by the names of the resources. -/
structure Resources where
  requests : StringMap
  limits : StringMap
deriving DecidableEq, Inhabited

namespace Resources

/-- Reads resources. -/
def decode {δ : Type} [Source δ] : δ → Except DecodeError Resources :=
  Decode.record "InjectResources" ["requests", "limits"] fun r =>
    Ranked.pure mk
      |>.ap (r.orElse "requests" .empty Decode.stringMap)
      |>.ap (r.orElse "limits" .empty Decode.stringMap)

/-- Writes resources back. -/
def encode (r : Resources) : Json :=
  .record [("requests", Json.nonEmptyMap r.requests), ("limits", Json.nonEmptyMap r.limits)]

/-- The bytes that resources feed. -/
def feed (r : Resources) : Feed :=
  Feed.map "requests" r.requests ++ Feed.map "limits" r.limits

/-- The map with each text read as a quantity; the empty map is absent. -/
def quantities (m : StringMap) : Except RuleError (Option StringMap) :=
  if m.isEmpty then pure none
  else do
    let pairs ← m.entries.mapM fun (k, v) => do pure (k, ← Quantity.parse v)
    pure (some (StringMap.ofList pairs))

/-- The cluster's form of resources. -/
def toCluster (r : Resources) : Except RuleError Cluster.ResourceRequirements := do
  let requests ← quantities r.requests
  let limits ← quantities r.limits
  pure { requests, limits }

end Resources

/-- A container that a rule adds to a pod. -/
structure Container where
  name : String
  image : String
  imagePullPolicy : String
  command : List String
  args : List String
  env : List EnvVar
  ports : List ContainerPort
  resources : Option Resources
  volumeMounts : List VolumeMount
deriving DecidableEq, Inhabited

namespace Container

/-- Reads a container. -/
def decode {δ : Type} [Source δ] : δ → Except DecodeError Container :=
  Decode.record "InjectContainer"
    ["name", "image", "imagePullPolicy", "command", "args", "env", "ports", "resources",
      "volumeMounts"]
    fun r => Ranked.pure mk
      |>.ap (r.required "name" Decode.text)
      |>.ap (r.required "image" Decode.text)
      |>.ap (r.orElse "imagePullPolicy" "" Decode.text)
      |>.ap (r.orElse "command" [] Decode.texts)
      |>.ap (r.orElse "args" [] Decode.texts)
      |>.ap (r.orElse "env" [] (Decode.list EnvVar.decode))
      |>.ap (r.orElse "ports" [] (Decode.list ContainerPort.decode))
      |>.ap (r.orElse "resources" none (Decode.option Resources.decode))
      |>.ap (r.orElse "volumeMounts" [] (Decode.list VolumeMount.decode))

/-- Writes a container back. -/
def encode (c : Container) : Json :=
  .record [("name", some (.str c.name)), ("image", some (.str c.image)),
    ("imagePullPolicy", Json.nonEmptyText c.imagePullPolicy),
    ("command", Json.nonEmptyList .str c.command), ("args", Json.nonEmptyList .str c.args),
    ("env", Json.nonEmptyList EnvVar.encode c.env),
    ("ports", Json.nonEmptyList ContainerPort.encode c.ports),
    ("resources", c.resources.map Resources.encode),
    ("volumeMounts", Json.nonEmptyList VolumeMount.encode c.volumeMounts)]

/-- The bytes that a container feeds. -/
def feed (c : Container) : Feed :=
  Feed.text "name" c.name ++ Feed.text "image" c.image
    ++ Feed.text "imagePullPolicy" c.imagePullPolicy ++ Feed.texts "command" c.command
    ++ Feed.texts "args" c.args ++ Feed.list "env" c.env EnvVar.feed
    ++ Feed.list "ports" c.ports ContainerPort.feed
    ++ Feed.optNested "resources" c.resources Resources.feed
    ++ Feed.list "volumeMounts" c.volumeMounts VolumeMount.feed

/-- When a container's image is fetched. -/
def pullPolicies : List String := ["Always", "IfNotPresent", "Never"]

/-- The cluster's form of a container's parts; what is wrong with one is not yet tied to the
container. -/
def convert (c : Container) : Except RuleError Cluster.Container :=
  if c.imagePullPolicy ≠ "" ∧ c.imagePullPolicy ∉ pullPolicies then
    .error (.invalidPullPolicy c.imagePullPolicy)
  else do
    let ports ← c.ports.mapM ContainerPort.toCluster
    let resources ← c.resources.mapM Resources.toCluster
    let mounts ← c.volumeMounts.mapM VolumeMount.toCluster
    pure
      { name := c.name
        image := some c.image
        imagePullPolicy := unlessEmpty c.imagePullPolicy
        command := if c.command.isEmpty then none else some c.command
        args := if c.args.isEmpty then none else some c.args
        env := if c.env.isEmpty then none else some (c.env.map EnvVar.toCluster)
        ports := if ports.isEmpty then none else some ports
        resources
        volumeMounts := if mounts.isEmpty then none else some mounts }

/-- The cluster's form of a container; what is wrong with it names the container. -/
def toCluster (c : Container) : Except RuleError Cluster.Container :=
  c.convert.mapError (.invalidContainer c.name)

end Container

end Sidecar.Rule
