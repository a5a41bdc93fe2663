/-
**Injection rules.**

A rule says what is injected into which pods, and how often at most into the same pod.

Main definitions:

* `Sidecar.Rule` — a rule, and its `decode`, `encode` and `feed`;
* `Sidecar.Rule.displayName` — the name under which it is reported;
* `Sidecar.Rule.isName` — which texts can be names of rules;
* `Sidecar.Rule.validate` — the first thing wrong with it.
-/

import Sidecar.Rule.Container

set_option autoImplicit false

namespace Sidecar

/-- A rule of injection. -/
structure Rule where
  /-- A name for people; it is not part of the fingerprint. -/
  name : String
  /-- How often the rule may change the same pod. -/
  maxIterations : UInt32
  labelSelector : Option Rule.LabelSelector
  namespaceSelector : Option Rule.LabelSelector
  labels : StringMap
  annotations : StringMap
  affinity : Option Rule.Affinity
  tolerations : List Rule.Toleration
  containers : List Rule.Container
  volumes : List Rule.Volume
  /-- Mounts for the containers that the pod has already. -/
  volumeMounts : List Rule.VolumeMount
deriving DecidableEq

namespace Rule

instance : Inhabited Rule :=
  ⟨⟨"", 1, none, none, .empty, .empty, none, [], [], [], []⟩⟩

/-- Reads a rule. -/
def decode {δ : Type} [Source δ] : δ → Except DecodeError Rule :=
  Decode.record "InjectRule"
    ["name", "maxIterations", "labelSelector", "namespaceSelector", "labels", "annotations",
      "affinity", "tolerations", "containers", "volumes", "volumeMounts"]
    fun r => Ranked.pure mk
      |>.ap (r.orElse "name" "" Decode.text)
      |>.ap (r.orElse "maxIterations" 1 Decode.uint32)
      |>.ap (r.orElse "labelSelector" none (Decode.option LabelSelector.decode))
      |>.ap (r.orElse "namespaceSelector" none (Decode.option LabelSelector.decode))
      |>.ap (r.orElse "labels" .empty Decode.stringMap)
      |>.ap (r.orElse "annotations" .empty Decode.stringMap)
      |>.ap (r.orElse "affinity" none (Decode.option Affinity.decode))
      |>.ap (r.orElse "tolerations" [] (Decode.list Toleration.decode))
      |>.ap (r.orElse "containers" [] (Decode.list Container.decode))
      |>.ap (r.orElse "volumes" [] (Decode.list Volume.decode))
      |>.ap (r.orElse "volumeMounts" [] (Decode.list VolumeMount.decode))

/-- Writes a rule back. -/
def encode (r : Rule) : Json :=
  .record [("name", Json.nonEmptyText r.name),
    ("maxIterations", some (.int r.maxIterations.toNat)),
    ("labelSelector", r.labelSelector.map LabelSelector.encode),
    ("namespaceSelector", r.namespaceSelector.map LabelSelector.encode),
    ("labels", Json.nonEmptyMap r.labels), ("annotations", Json.nonEmptyMap r.annotations),
    ("affinity", r.affinity.map Affinity.encode),
    ("tolerations", Json.nonEmptyList Toleration.encode r.tolerations),
    ("containers", Json.nonEmptyList Container.encode r.containers),
    ("volumes", Json.nonEmptyList Volume.encode r.volumes),
    ("volumeMounts", Json.nonEmptyList VolumeMount.encode r.volumeMounts)]

/-- The bytes that a rule feeds; its name feeds none. -/
def feed (r : Rule) : Feed :=
  Feed.uint32 "maxIterations" r.maxIterations
    ++ Feed.optNested "labelSelector" r.labelSelector LabelSelector.feed
    ++ Feed.optNested "namespaceSelector" r.namespaceSelector LabelSelector.feed
    ++ Feed.map "labels" r.labels ++ Feed.map "annotations" r.annotations
    ++ Feed.optNested "affinity" r.affinity Affinity.feed
    ++ Feed.list "tolerations" r.tolerations Toleration.feed
    ++ Feed.list "containers" r.containers Container.feed
    ++ Feed.list "volumes" r.volumes Volume.feed
    ++ Feed.list "volumeMounts" r.volumeMounts VolumeMount.feed

/-- The fingerprint of a rule. -/
def fingerprint (r : Rule) : String :=
  Sidecar.fingerprint r.feed

/-- The name under which a rule is reported: its own, or its fingerprint if it has none. -/
def displayName (r : Rule) : String :=
  if r.name.isEmpty then r.fingerprint else r.name

/-- Whether the text can be a name: letters, digits, hyphens, underscores and points of ASCII, at
most 63 of them, the first and the last a letter or digit. -/
def isName (text : String) : Bool :=
  let cs := text.toList
  cs.length ≤ 63 && cs.all (fun c => c.isAlphanum || c = '-' || c = '_' || c = '.')
    && cs.head?.any Char.isAlphanum && cs.getLast?.any Char.isAlphanum

/-- The first thing wrong with a rule: its name, or a part that has no form in the cluster. -/
def validate (r : Rule) : Except RuleError Unit := do
  if r.name ≠ "" ∧ !isName r.name then throw (.invalidName r.name)
  let _ ← r.labelSelector.mapM LabelSelector.toCluster
  let _ ← r.namespaceSelector.mapM LabelSelector.toCluster
  let _ ← r.affinity.mapM Affinity.toCluster
  let _ ← r.tolerations.mapM Toleration.toCluster
  let _ ← r.containers.mapM Container.toCluster
  let _ ← r.volumes.mapM Volume.toCluster
  let _ ← r.volumeMounts.mapM VolumeMount.toCluster

end Rule

end Sidecar
