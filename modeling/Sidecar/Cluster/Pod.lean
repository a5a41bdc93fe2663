/-
**Pods as the injection sees them.**

Of a pod that is to be changed only a few things matter: its labels and annotations, the names of
its volumes and containers, where its containers mount volumes, its affinity and its tolerations.

Main definitions:

* `Sidecar.Cluster.Pod`, `Sidecar.Cluster.PodSpec`, `Sidecar.Cluster.PodContainer` — the view;
* `Sidecar.Cluster.Pod.ofJson?` — the view of a document that has the shape of a pod.

Main result: `Sidecar.Cluster.Toleration.view_toJson` — a toleration is read back as it is written.
-/

import Sidecar.Cluster.Objects
import Sidecar.Cluster.PodShape

set_option autoImplicit false

namespace Sidecar.Cluster

/-! ### Members of an object -/

namespace View

/-- The text under the name, if it is there. -/
def text? (name : String) (json : Json) : Option String :=
  match json.member? name with
  | some (.str s) => some s
  | _ => none

/-- The text under the name, or the empty one. -/
def text (name : String) (json : Json) : String :=
  (text? name json).getD ""

/-- The whole number under the name, if it is there. -/
def int? (name : String) (json : Json) : Option Int :=
  match json.member? name with
  | some (.int n) => some n
  | _ => none

/-- The items of the list under the name, or none. -/
def items (name : String) (json : Json) : List Json :=
  match json.member? name with
  | some (.arr items) => items
  | _ => []

/-- The object under the name, if it is there. -/
def object? (name : String) (json : Json) : Option Json :=
  match json.member? name with
  | some (.obj members) => some (.obj members)
  | _ => none

/-- The map of texts under the name, if it is there. -/
def map? (name : String) (json : Json) : Option StringMap :=
  match json.member? name with
  | some (.obj members) => some <| .ofList <| members.filterMap fun (k, v) =>
    match v with
    | .str s => some (k, s)
    | _ => none
  | _ => none

end View

/-! ### The parts of a pod -/

/-- A container of a pod: its name and the paths of its mounts. -/
structure PodContainer where
  name : String
  mountPaths : List String
deriving DecidableEq, Inhabited

/-- What a pod's affinity says about nodes that are required. -/
inductive PodAffinity where
  /-- There is no affinity. -/
  | absent
  /-- There is an affinity without one to nodes. -/
  | withoutNodes
  /-- There is an affinity to nodes, with that many terms that are required. -/
  | nodes (requiredTerms : Nat)
deriving DecidableEq, Inhabited

/-- The specification of a pod. -/
structure PodSpec where
  volumes : List String
  initContainers : List PodContainer
  containers : List PodContainer
  affinity : PodAffinity
  tolerations : List Toleration
deriving DecidableEq, Inhabited

/-- A pod. -/
structure Pod where
  labels : Option StringMap
  annotations : Option StringMap
  spec : Option PodSpec
deriving DecidableEq, Inhabited

/-- The view of a container. -/
def PodContainer.view (json : Json) : PodContainer :=
  { name := View.text "name" json
    mountPaths := (View.items "volumeMounts" json).map (View.text "mountPath") }

/-- The view of the affinity in a specification. -/
def PodAffinity.view (spec : Json) : PodAffinity :=
  match View.object? "affinity" spec with
  | none => .absent
  | some affinity =>
    match View.object? "nodeAffinity" affinity with
    | none => .withoutNodes
    | some preference =>
      match View.object? requiredNodes preference with
      | none => .nodes 0
      | some selector => .nodes (View.items "nodeSelectorTerms" selector).length

/-- The view of a toleration. -/
def Toleration.view (json : Json) : Toleration :=
  { key := View.text? "key" json
    operator := View.text? "operator" json
    value := View.text? "value" json
    effect := View.text? "effect" json
    tolerationSeconds := (View.int? "tolerationSeconds" json).map Int64.ofInt }

/-- A toleration is read back as it is written. -/
theorem Toleration.view_toJson (t : Toleration) : Toleration.view t.toJson = t := by
  obtain ⟨key, operator, value, effect, seconds⟩ := t
  cases key <;> cases operator <;> cases value <;> cases effect <;> cases seconds <;>
    simp [view, toJson, Json.object, Json.member?, View.text?, View.int?, Entries.find?_ofList,
      Entries.find?_cons]

/-- The view of a specification. -/
def PodSpec.view (json : Json) : PodSpec :=
  { volumes := (View.items "volumes" json).map (View.text "name")
    initContainers := (View.items "initContainers" json).map PodContainer.view
    containers := (View.items "containers" json).map PodContainer.view
    affinity := PodAffinity.view json
    tolerations := (View.items "tolerations" json).map Toleration.view }

/-- The view of a pod. -/
def Pod.view (json : Json) : Pod :=
  let metadata := (View.object? "metadata" json).getD (.obj [])
  { labels := View.map? "labels" metadata
    annotations := View.map? "annotations" metadata
    spec := (View.object? "spec" json).map PodSpec.view }

/-- The pod that a document describes, if it has the shape of one. -/
def Pod.ofJson? (json : Json) : Option Pod :=
  if Shape.pod.accepts json then some (Pod.view json) else none

end Sidecar.Cluster
