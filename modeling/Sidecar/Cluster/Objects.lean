/-
**The cluster's objects that rules contribute.**

Each type lists the fields of a Kubernetes object that a rule can set; its JSON form writes those
that are present and nothing else.

Main definitions: `Sidecar.Cluster.Container`, `Sidecar.Cluster.Volume`,
`Sidecar.Cluster.VolumeMount`, `Sidecar.Cluster.LabelSelector`, `Sidecar.Cluster.Affinity`,
`Sidecar.Cluster.Toleration`, the types they are made of, and the `toJson` of each.
-/

import Sidecar.Json.Basic

set_option autoImplicit false

namespace Sidecar.Cluster

/-- A list of objects, each in its JSON form. -/
def objects {α : Type} (toJson : α → Json) (items : List α) : Json :=
  .arr (items.map toJson)

/-! ### Volumes and mounts -/

/-- A key of a config map or secret and the file that it becomes. -/
structure KeyToPath where
  key : String
  path : String
  mode : Option Int32
deriving DecidableEq

/-- The JSON form. -/
def KeyToPath.toJson (x : KeyToPath) : Json :=
  .object [("key", some (.str x.key)), ("mode", x.mode.map fun n => .int n.toInt),
    ("path", some (.str x.path))]

/-- A config map as the source of a volume. -/
structure ConfigMapSource where
  name : String
  items : Option (List KeyToPath)
  defaultMode : Option Int32
  optional : Option Bool
deriving DecidableEq

/-- The JSON form. -/
def ConfigMapSource.toJson (x : ConfigMapSource) : Json :=
  .object [("defaultMode", x.defaultMode.map fun n => .int n.toInt),
    ("items", x.items.map (objects KeyToPath.toJson)), ("name", some (.str x.name)),
    ("optional", x.optional.map .bool)]

/-- A secret as the source of a volume. -/
structure SecretSource where
  secretName : Option String
  items : Option (List KeyToPath)
  defaultMode : Option Int32
  optional : Option Bool
deriving DecidableEq

/-- The JSON form. -/
def SecretSource.toJson (x : SecretSource) : Json :=
  .object [("defaultMode", x.defaultMode.map fun n => .int n.toInt),
    ("items", x.items.map (objects KeyToPath.toJson)), ("optional", x.optional.map .bool),
    ("secretName", x.secretName.map .str)]

/-- An empty directory as the source of a volume. -/
structure EmptyDirSource where
  medium : Option String
  sizeLimit : Option String
deriving DecidableEq

/-- The JSON form. -/
def EmptyDirSource.toJson (x : EmptyDirSource) : Json :=
  .object [("medium", x.medium.map .str), ("sizeLimit", x.sizeLimit.map .str)]

/-- A volume of a pod. -/
structure Volume where
  name : String
  configMap : Option ConfigMapSource
  secret : Option SecretSource
  emptyDir : Option EmptyDirSource
deriving DecidableEq

/-- The JSON form. -/
def Volume.toJson (x : Volume) : Json :=
  .object [("configMap", x.configMap.map (·.toJson)), ("emptyDir", x.emptyDir.map (·.toJson)),
    ("name", some (.str x.name)), ("secret", x.secret.map (·.toJson))]

/-- A volume mounted into a container. -/
structure VolumeMount where
  name : String
  mountPath : String
  readOnly : Option Bool
  recursiveReadOnly : Option String
  mountPropagation : Option String
  subPath : Option String
  subPathExpr : Option String
deriving DecidableEq

/-- The JSON form. -/
def VolumeMount.toJson (x : VolumeMount) : Json :=
  .object [("mountPath", some (.str x.mountPath)),
    ("mountPropagation", x.mountPropagation.map .str), ("name", some (.str x.name)),
    ("readOnly", x.readOnly.map .bool), ("recursiveReadOnly", x.recursiveReadOnly.map .str),
    ("subPath", x.subPath.map .str), ("subPathExpr", x.subPathExpr.map .str)]

/-! ### Containers -/

/-- A variable of a container's environment. -/
structure EnvVar where
  name : String
  value : Option String
deriving DecidableEq

/-- The JSON form. -/
def EnvVar.toJson (x : EnvVar) : Json :=
  .object [("name", some (.str x.name)), ("value", x.value.map .str)]

/-- A port that a container opens. -/
structure ContainerPort where
  name : Option String
  containerPort : Int32
  hostPort : Option Int32
  hostIP : Option String
  protocol : Option String
deriving DecidableEq

/-- The JSON form. -/
def ContainerPort.toJson (x : ContainerPort) : Json :=
  .object [("containerPort", some (.int x.containerPort.toInt)), ("hostIP", x.hostIP.map .str),
    ("hostPort", x.hostPort.map fun n => .int n.toInt), ("name", x.name.map .str),
    ("protocol", x.protocol.map .str)]

/-- What a container asks for and how much it may use at most. -/
structure ResourceRequirements where
  requests : Option StringMap
  limits : Option StringMap
deriving DecidableEq

/-- The JSON form. -/
def ResourceRequirements.toJson (x : ResourceRequirements) : Json :=
  .object [("limits", x.limits.map .stringMap), ("requests", x.requests.map .stringMap)]

/-- A container of a pod. -/
structure Container where
  name : String
  image : Option String
  imagePullPolicy : Option String
  command : Option (List String)
  args : Option (List String)
  env : Option (List EnvVar)
  ports : Option (List ContainerPort)
  resources : Option ResourceRequirements
  volumeMounts : Option (List VolumeMount)
deriving DecidableEq

/-- The JSON form. -/
def Container.toJson (x : Container) : Json :=
  .object [("args", x.args.map .strings), ("command", x.command.map .strings),
    ("env", x.env.map (objects EnvVar.toJson)), ("image", x.image.map .str),
    ("imagePullPolicy", x.imagePullPolicy.map .str), ("name", some (.str x.name)),
    ("ports", x.ports.map (objects ContainerPort.toJson)),
    ("resources", x.resources.map (·.toJson)),
    ("volumeMounts", x.volumeMounts.map (objects VolumeMount.toJson))]

/-! ### Selectors -/

/-- A requirement on the labels of an object or on the labels or fields of a node. -/
structure Requirement where
  key : String
  operator : String
  values : Option (List String)
deriving DecidableEq

/-- The JSON form. -/
def Requirement.toJson (x : Requirement) : Json :=
  .object [("key", some (.str x.key)), ("operator", some (.str x.operator)),
    ("values", x.values.map .strings)]

/-- A selector of objects by their labels. -/
structure LabelSelector where
  matchLabels : Option StringMap
  matchExpressions : Option (List Requirement)
deriving DecidableEq

/-- The JSON form. -/
def LabelSelector.toJson (x : LabelSelector) : Json :=
  .object [("matchExpressions", x.matchExpressions.map (objects Requirement.toJson)),
    ("matchLabels", x.matchLabels.map .stringMap)]

/-! ### Scheduling -/

/-- One alternative of a node selector: all its requirements together. -/
structure NodeSelectorTerm where
  matchExpressions : Option (List Requirement)
  matchFields : Option (List Requirement)
deriving DecidableEq

/-- The JSON form. -/
def NodeSelectorTerm.toJson (x : NodeSelectorTerm) : Json :=
  .object [("matchExpressions", x.matchExpressions.map (objects Requirement.toJson)),
    ("matchFields", x.matchFields.map (objects Requirement.toJson))]

/-- A selector of nodes: any of its terms. -/
structure NodeSelector where
  nodeSelectorTerms : List NodeSelectorTerm
deriving DecidableEq

/-- The JSON form. -/
def NodeSelector.toJson (x : NodeSelector) : Json :=
  .object [("nodeSelectorTerms", some (objects NodeSelectorTerm.toJson x.nodeSelectorTerms))]

/-- The member of a node affinity that holds the nodes a pod must run on. -/
def requiredNodes : String := "requiredDuringSchedulingIgnoredDuringExecution"

/-- A pod's wishes about its node. -/
structure NodeAffinity where
  required : Option NodeSelector
deriving DecidableEq

/-- The JSON form. -/
def NodeAffinity.toJson (x : NodeAffinity) : Json :=
  .object [(requiredNodes, x.required.map (·.toJson))]

/-- A pod's wishes about where it runs. -/
structure Affinity where
  nodeAffinity : Option NodeAffinity
deriving DecidableEq

/-- The JSON form. -/
def Affinity.toJson (x : Affinity) : Json :=
  .object [("nodeAffinity", x.nodeAffinity.map (·.toJson))]

/-- A taint that a pod tolerates. -/
structure Toleration where
  key : Option String
  operator : Option String
  value : Option String
  effect : Option String
  tolerationSeconds : Option Int64
deriving DecidableEq

/-- The JSON form. -/
def Toleration.toJson (x : Toleration) : Json :=
  .object [("effect", x.effect.map .str), ("key", x.key.map .str),
    ("operator", x.operator.map .str),
    ("tolerationSeconds", x.tolerationSeconds.map fun n => .int n.toInt),
    ("value", x.value.map .str)]

end Sidecar.Cluster
