/-
**Volumes and mounts.**

A rule can add volumes to a pod and mount volumes into its containers.  A volume has at most one
source; one without a source is left for the cluster to fill in.

Main definitions:

* `Sidecar.Rule.KeyToPath`, `Sidecar.Rule.ConfigMapSource`, `Sidecar.Rule.SecretSource`,
  `Sidecar.Rule.EmptyDirSource`, `Sidecar.Rule.Volume` — volumes and their sources;
* `Sidecar.Rule.VolumeMount` — a mount;
* the `decode`, `encode`, `feed` and `toCluster` of each.
-/

import Sidecar.Rule.Quantity
import Sidecar.Rule.Scheduling

set_option autoImplicit false

namespace Sidecar.Rule

/-! ### Volumes -/

/-- A key of a config map or secret and the file that it becomes. -/
structure KeyToPath where
  key : String
  path : String
  mode : Option Int32
deriving DecidableEq, Inhabited

namespace KeyToPath

/-- Reads a key and its file. -/
def decode {δ : Type} [Source δ] : δ → Except DecodeError KeyToPath :=
  Decode.record "InjectKeyToPath" ["key", "path", "mode"] fun r =>
    Ranked.pure mk
      |>.ap (r.required "key" Decode.text)
      |>.ap (r.required "path" Decode.text)
      |>.ap (r.orElse "mode" none (Decode.option Decode.int32))

/-- Writes a key and its file back. -/
def encode (k : KeyToPath) : Json :=
  .record [("key", some (.str k.key)), ("path", some (.str k.path)),
    ("mode", k.mode.map fun n => .int n.toInt)]

/-- The bytes that a key and its file feed. -/
def feed (k : KeyToPath) : Feed :=
  Feed.text "key" k.key ++ Feed.text "path" k.path ++ Feed.optInt32 "mode" k.mode

/-- The cluster's form of a key and its file. -/
def toCluster (k : KeyToPath) : Cluster.KeyToPath :=
  { key := k.key, path := k.path, mode := k.mode }

end KeyToPath

/-- A config map as the source of a volume. -/
structure ConfigMapSource where
  name : String
  items : List KeyToPath
  defaultMode : Option Int32
  optional : Option Bool
deriving DecidableEq, Inhabited

namespace ConfigMapSource

/-- Reads a config map source. -/
def decode {δ : Type} [Source δ] : δ → Except DecodeError ConfigMapSource :=
  Decode.record "InjectConfigMapVolume" ["name", "items", "defaultMode", "optional"] fun r =>
    Ranked.pure mk
      |>.ap (r.required "name" Decode.text)
      |>.ap (r.orElse "items" [] (Decode.list KeyToPath.decode))
      |>.ap (r.orElse "defaultMode" none (Decode.option Decode.int32))
      |>.ap (r.orElse "optional" none (Decode.option Decode.bool))

/-- Writes a config map source back. -/
def encode (s : ConfigMapSource) : Json :=
  .record [("name", some (.str s.name)), ("items", Json.nonEmptyList KeyToPath.encode s.items),
    ("defaultMode", s.defaultMode.map fun n => .int n.toInt), ("optional", s.optional.map .bool)]

/-- The bytes that a config map source feeds. -/
def feed (s : ConfigMapSource) : Feed :=
  Feed.text "name" s.name ++ Feed.list "items" s.items KeyToPath.feed
    ++ Feed.optInt32 "defaultMode" s.defaultMode ++ Feed.optBool "optional" s.optional

/-- The cluster's form of a config map source. -/
def toCluster (s : ConfigMapSource) : Cluster.ConfigMapSource :=
  { name := s.name
    items := if s.items.isEmpty then none else some (s.items.map KeyToPath.toCluster)
    defaultMode := s.defaultMode
    optional := s.optional }

end ConfigMapSource

/-- A secret as the source of a volume. -/
structure SecretSource where
  secretName : String
  items : List KeyToPath
  defaultMode : Option Int32
  optional : Option Bool
deriving DecidableEq, Inhabited

namespace SecretSource

/-- Reads a secret source. -/
def decode {δ : Type} [Source δ] : δ → Except DecodeError SecretSource :=
  Decode.record "InjectSecretVolume" ["secretName", "items", "defaultMode", "optional"] fun r =>
    Ranked.pure mk
      |>.ap (r.required "secretName" Decode.text)
      |>.ap (r.orElse "items" [] (Decode.list KeyToPath.decode))
      |>.ap (r.orElse "defaultMode" none (Decode.option Decode.int32))
      |>.ap (r.orElse "optional" none (Decode.option Decode.bool))

/-- Writes a secret source back. -/
def encode (s : SecretSource) : Json :=
  .record [("secretName", some (.str s.secretName)),
    ("items", Json.nonEmptyList KeyToPath.encode s.items),
    ("defaultMode", s.defaultMode.map fun n => .int n.toInt), ("optional", s.optional.map .bool)]

/-- The bytes that a secret source feeds. -/
def feed (s : SecretSource) : Feed :=
  Feed.text "secretName" s.secretName ++ Feed.list "items" s.items KeyToPath.feed
    ++ Feed.optInt32 "defaultMode" s.defaultMode ++ Feed.optBool "optional" s.optional

/-- The cluster's form of a secret source. -/
def toCluster (s : SecretSource) : Cluster.SecretSource :=
  { secretName := some s.secretName
    items := if s.items.isEmpty then none else some (s.items.map KeyToPath.toCluster)
    defaultMode := s.defaultMode
    optional := s.optional }

end SecretSource

/-- An empty directory as the source of a volume. -/
structure EmptyDirSource where
  medium : String
  sizeLimit : String
deriving DecidableEq, Inhabited

namespace EmptyDirSource

/-- Reads an empty directory source. -/
def decode {δ : Type} [Source δ] : δ → Except DecodeError EmptyDirSource :=
  Decode.record "InjectEmptyDirVolume" ["medium", "sizeLimit"] fun r =>
    Ranked.pure mk
      |>.ap (r.orElse "medium" "" Decode.text)
      |>.ap (r.orElse "sizeLimit" "" Decode.text)

/-- Writes an empty directory source back. -/
def encode (s : EmptyDirSource) : Json :=
  .record [("medium", Json.nonEmptyText s.medium), ("sizeLimit", Json.nonEmptyText s.sizeLimit)]

/-- The bytes that an empty directory source feeds. -/
def feed (s : EmptyDirSource) : Feed :=
  Feed.text "medium" s.medium ++ Feed.text "sizeLimit" s.sizeLimit

/-- The cluster's form of an empty directory source. -/
def toCluster (s : EmptyDirSource) : Except RuleError Cluster.EmptyDirSource := do
  let sizeLimit ← if s.sizeLimit.isEmpty then pure none else some <$> Quantity.parse s.sizeLimit
  pure { medium := unlessEmpty s.medium, sizeLimit }

end EmptyDirSource

/-- A volume that a rule adds to a pod. -/
structure Volume where
  name : String
  configMap : Option ConfigMapSource
  secret : Option SecretSource
  emptyDir : Option EmptyDirSource
deriving DecidableEq, Inhabited

namespace Volume

/-- Reads a volume. -/
def decode {δ : Type} [Source δ] : δ → Except DecodeError Volume :=
  Decode.record "InjectVolume" ["name", "configMap", "secret", "emptyDir"] fun r =>
    Ranked.pure mk
      |>.ap (r.required "name" Decode.text)
      |>.ap (r.orElse "configMap" none (Decode.option ConfigMapSource.decode))
      |>.ap (r.orElse "secret" none (Decode.option SecretSource.decode))
      |>.ap (r.orElse "emptyDir" none (Decode.option EmptyDirSource.decode))

/-- Writes a volume back. -/
def encode (v : Volume) : Json :=
  .record [("name", some (.str v.name)), ("configMap", v.configMap.map ConfigMapSource.encode),
    ("secret", v.secret.map SecretSource.encode),
    ("emptyDir", v.emptyDir.map EmptyDirSource.encode)]

/-- The bytes that a volume feeds. -/
def feed (v : Volume) : Feed :=
  Feed.text "name" v.name ++ Feed.optNested "configMap" v.configMap ConfigMapSource.feed
    ++ Feed.optNested "secret" v.secret SecretSource.feed
    ++ Feed.optNested "emptyDir" v.emptyDir EmptyDirSource.feed

/-- The number of sources that are set. -/
def sourceCount (v : Volume) : Nat :=
  v.configMap.toList.length + v.secret.toList.length + v.emptyDir.toList.length

/-- What is wrong with a volume whose empty directory cannot be converted. -/
def sizeLimitFault (name : String) : RuleError → RuleError
  | .invalidQuantity value => .invalidVolume name (.invalidSizeLimit value)
  | e => e

/-- The cluster's form of a volume. -/
def toCluster (v : Volume) : Except RuleError Cluster.Volume :=
  if 1 < v.sourceCount then .error (.invalidVolume v.name .severalSources)
  else do
    let emptyDir ← (v.emptyDir.mapM EmptyDirSource.toCluster).mapError (sizeLimitFault v.name)
    pure
      { name := v.name
        configMap := v.configMap.map ConfigMapSource.toCluster
        secret := v.secret.map SecretSource.toCluster
        emptyDir }

end Volume

/-! ### Mounts -/

/-- A volume that a rule mounts into containers. -/
structure VolumeMount where
  name : String
  mountPath : String
  readOnly : Bool
  recursiveReadOnly : String
  mountPropagation : String
  subPath : String
  subPathExpr : String
deriving DecidableEq, Inhabited

namespace VolumeMount

/-- Reads a mount. -/
def decode {δ : Type} [Source δ] : δ → Except DecodeError VolumeMount :=
  Decode.record "InjectVolumeMount"
    ["name", "mountPath", "readOnly", "recursiveReadOnly", "mountPropagation", "subPath",
      "subPathExpr"]
    fun r => Ranked.pure mk
      |>.ap (r.required "name" Decode.text)
      |>.ap (r.required "mountPath" Decode.text)
      |>.ap (r.orElse "readOnly" false Decode.bool)
      |>.ap (r.orElse "recursiveReadOnly" "" Decode.text)
      |>.ap (r.orElse "mountPropagation" "" Decode.text)
      |>.ap (r.orElse "subPath" "" Decode.text)
      |>.ap (r.orElse "subPathExpr" "" Decode.text)

/-- Writes a mount back. -/
def encode (m : VolumeMount) : Json :=
  .record [("name", some (.str m.name)), ("mountPath", some (.str m.mountPath)),
    ("readOnly", if m.readOnly then some (.bool true) else none),
    ("recursiveReadOnly", Json.nonEmptyText m.recursiveReadOnly),
    ("mountPropagation", Json.nonEmptyText m.mountPropagation),
    ("subPath", Json.nonEmptyText m.subPath), ("subPathExpr", Json.nonEmptyText m.subPathExpr)]

/-- The bytes that a mount feeds. -/
def feed (m : VolumeMount) : Feed :=
  Feed.text "name" m.name ++ Feed.text "mountPath" m.mountPath
    ++ Feed.optBool "readOnly" (if m.readOnly then some true else none)
    ++ Feed.text "recursiveReadOnly" m.recursiveReadOnly
    ++ Feed.text "mountPropagation" m.mountPropagation ++ Feed.text "subPath" m.subPath
    ++ Feed.text "subPathExpr" m.subPathExpr

/-- The ways in which a mount shares what is mounted below it. -/
def propagations : List String := ["None", "HostToContainer", "Bidirectional"]

/-- The ways in which a mount is read-only all the way down. -/
def recursiveModes : List String := ["Disabled", "IfPossible", "Enabled"]

/-- The cluster's form of a mount. -/
def toCluster (m : VolumeMount) : Except RuleError Cluster.VolumeMount :=
  if m.mountPropagation ≠ "" ∧ m.mountPropagation ∉ propagations then
    .error (.invalidVolumeMount m.name (.unknownPropagation m.mountPropagation))
  else if m.recursiveReadOnly ≠ "" ∧ m.recursiveReadOnly ∉ recursiveModes then
    .error (.invalidVolumeMount m.name (.unknownRecursiveMode m.recursiveReadOnly))
  else .ok
    { name := m.name
      mountPath := m.mountPath
      readOnly := if m.readOnly then some true else none
      recursiveReadOnly := unlessEmpty m.recursiveReadOnly
      mountPropagation := unlessEmpty m.mountPropagation
      subPath := unlessEmpty m.subPath
      subPathExpr := unlessEmpty m.subPathExpr }

end VolumeMount

end Sidecar.Rule
