/-
**Node affinities and tolerations.**

A rule can demand nodes by a node selector, which a node meets by meeting all requirements of one
of its terms, and can tolerate taints.

Main definitions:

* `Sidecar.Rule.NodeSelectorTerm`, `Sidecar.Rule.NodeSelector`, `Sidecar.Rule.NodeAffinity`,
  `Sidecar.Rule.Affinity` — the parts of an affinity;
* `Sidecar.Rule.Affinity.isEmpty` — whether an affinity demands nothing;
* `Sidecar.Rule.Toleration` — a toleration;
* the `decode`, `encode`, `feed` and `toCluster` of each.
-/

import Sidecar.Rule.Requirement

set_option autoImplicit false

namespace Sidecar.Rule

/-- The text unless it is empty. -/
def unlessEmpty (text : String) : Option String :=
  if text.isEmpty then none else some text

/-! ### Affinities -/

/-- One alternative of a node selector. -/
structure NodeSelectorTerm where
  matchExpressions : List Requirement
  matchFields : List Requirement
deriving DecidableEq, Inhabited

namespace NodeSelectorTerm

/-- Reads a term. -/
def decode {δ : Type} [Source δ] : δ → Except DecodeError NodeSelectorTerm :=
  Decode.record "InjectNodeSelectorTerm" ["matchExpressions", "matchFields"] fun r =>
    Ranked.pure mk
      |>.ap (r.orElse "matchExpressions" [] (Decode.list (Requirement.decode .node)))
      |>.ap (r.orElse "matchFields" [] (Decode.list (Requirement.decode .node)))

/-- Writes a term back. -/
def encode (t : NodeSelectorTerm) : Json :=
  .record [("matchExpressions", Json.nonEmptyList Requirement.encode t.matchExpressions),
    ("matchFields", Json.nonEmptyList Requirement.encode t.matchFields)]

/-- The bytes that a term feeds. -/
def feed (t : NodeSelectorTerm) : Feed :=
  Feed.list "matchExpressions" t.matchExpressions Requirement.feed
    ++ Feed.list "matchFields" t.matchFields Requirement.feed

/-- The cluster's form of a term. -/
def toCluster (t : NodeSelectorTerm) : Except RuleError Cluster.NodeSelectorTerm := do
  let expressions ← t.matchExpressions.mapM (Requirement.toCluster .node)
  let fields ← t.matchFields.mapM (Requirement.toCluster .node)
  pure
    { matchExpressions := if expressions.isEmpty then none else some expressions
      matchFields := if fields.isEmpty then none else some fields }

end NodeSelectorTerm

/-- A selector of nodes. -/
structure NodeSelector where
  nodeSelectorTerms : List NodeSelectorTerm
deriving DecidableEq, Inhabited

namespace NodeSelector

/-- Reads a node selector. -/
def decode {δ : Type} [Source δ] : δ → Except DecodeError NodeSelector :=
  Decode.record "InjectNodeSelector" ["nodeSelectorTerms"] fun r =>
    Ranked.pure mk
      |>.ap (r.orElse "nodeSelectorTerms" [] (Decode.list NodeSelectorTerm.decode))

/-- Writes a node selector back, its list of terms even if that is empty. -/
def encode (s : NodeSelector) : Json :=
  .record [("nodeSelectorTerms", some (.arr (s.nodeSelectorTerms.map NodeSelectorTerm.encode)))]

/-- The bytes that a node selector feeds. -/
def feed (s : NodeSelector) : Feed :=
  Feed.list "nodeSelectorTerms" s.nodeSelectorTerms NodeSelectorTerm.feed

/-- The cluster's form of a node selector. -/
def toCluster (s : NodeSelector) : Except RuleError Cluster.NodeSelector := do
  pure { nodeSelectorTerms := ← s.nodeSelectorTerms.mapM NodeSelectorTerm.toCluster }

end NodeSelector

/-- The nodes that a rule demands. -/
structure NodeAffinity where
  required : Option NodeSelector
deriving DecidableEq, Inhabited

namespace NodeAffinity

/-- Reads a node affinity. -/
def decode {δ : Type} [Source δ] : δ → Except DecodeError NodeAffinity :=
  Decode.record "InjectNodeAffinity" [Cluster.requiredNodes] fun r =>
    Ranked.pure mk |>.ap (r.orElse Cluster.requiredNodes none (Decode.option NodeSelector.decode))

/-- Writes a node affinity back. -/
def encode (a : NodeAffinity) : Json :=
  .record [(Cluster.requiredNodes, a.required.map NodeSelector.encode)]

/-- The bytes that a node affinity feeds. -/
def feed (a : NodeAffinity) : Feed :=
  Feed.optNested Cluster.requiredNodes a.required NodeSelector.feed

/-- The cluster's form of a node affinity. -/
def toCluster (a : NodeAffinity) : Except RuleError Cluster.NodeAffinity := do
  pure { required := ← a.required.mapM NodeSelector.toCluster }

end NodeAffinity

/-- The affinity that a rule gives to pods without one. -/
structure Affinity where
  nodeAffinity : Option NodeAffinity
deriving DecidableEq, Inhabited

namespace Affinity

/-- Reads an affinity. -/
def decode {δ : Type} [Source δ] : δ → Except DecodeError Affinity :=
  Decode.record "InjectAffinity" ["nodeAffinity"] fun r =>
    Ranked.pure mk |>.ap (r.orElse "nodeAffinity" none (Decode.option NodeAffinity.decode))

/-- Writes an affinity back. -/
def encode (a : Affinity) : Json :=
  .record [("nodeAffinity", a.nodeAffinity.map NodeAffinity.encode)]

/-- The bytes that an affinity feeds. -/
def feed (a : Affinity) : Feed :=
  Feed.optNested "nodeAffinity" a.nodeAffinity NodeAffinity.feed

/-- The cluster's form of an affinity. -/
def toCluster (a : Affinity) : Except RuleError Cluster.Affinity := do
  pure { nodeAffinity := ← a.nodeAffinity.mapM NodeAffinity.toCluster }

/-- The terms of which a node has to meet one. -/
def terms (a : Affinity) : List NodeSelectorTerm :=
  match a.nodeAffinity.bind (·.required) with
  | some selector => selector.nodeSelectorTerms
  | none => []

/-- Whether the affinity has no terms. -/
def isEmpty (a : Affinity) : Bool :=
  a.terms.isEmpty

end Affinity

/-! ### Tolerations -/

/-- A taint that the pods of a rule tolerate. -/
structure Toleration where
  key : String
  operator : String
  value : String
  effect : String
  tolerationSeconds : Option Int64
deriving DecidableEq, Inhabited

namespace Toleration

/-- Reads a toleration. -/
def decode {δ : Type} [Source δ] : δ → Except DecodeError Toleration :=
  Decode.record "InjectToleration" ["key", "operator", "value", "effect", "tolerationSeconds"]
    fun r => Ranked.pure mk
      |>.ap (r.orElse "key" "" Decode.text)
      |>.ap (r.orElse "operator" "" Decode.text)
      |>.ap (r.orElse "value" "" Decode.text)
      |>.ap (r.orElse "effect" "" Decode.text)
      |>.ap (r.orElse "tolerationSeconds" none (Decode.option Decode.int64))

/-- Writes a toleration back. -/
def encode (t : Toleration) : Json :=
  .record [("key", Json.nonEmptyText t.key), ("operator", Json.nonEmptyText t.operator),
    ("value", Json.nonEmptyText t.value), ("effect", Json.nonEmptyText t.effect),
    ("tolerationSeconds", t.tolerationSeconds.map fun n => .int n.toInt)]

/-- The bytes that a toleration feeds. -/
def feed (t : Toleration) : Feed :=
  Feed.text "key" t.key ++ Feed.text "operator" t.operator ++ Feed.text "value" t.value
    ++ Feed.text "effect" t.effect ++ Feed.optInt64 "tolerationSeconds" t.tolerationSeconds

/-- The operators of tolerations. -/
def operators : List String := ["Exists", "Equal"]

/-- The effects of taints. -/
def effects : List String := ["NoSchedule", "PreferNoSchedule", "NoExecute"]

/-- The cluster's form of a toleration. -/
def toCluster (t : Toleration) : Except RuleError Cluster.Toleration :=
  if t.operator ≠ "" ∧ t.operator ∉ operators then
    .error (.invalidOperator .toleration t.operator)
  else if t.effect ≠ "" ∧ t.effect ∉ effects then .error (.invalidEffect t.effect)
  else .ok
    { key := unlessEmpty t.key
      operator := unlessEmpty t.operator
      value := unlessEmpty t.value
      effect := unlessEmpty t.effect
      tolerationSeconds := t.tolerationSeconds }

end Toleration

end Sidecar.Rule
