/-
**Requirements and label selectors.**

A requirement names a key, an operator and the values that the operator takes.  Label selectors
and node selectors are made of them; the two allow different operators.

Main definitions:

* `Sidecar.Rule.SelectorKind`, `Sidecar.Rule.SelectorKind.operators` — the kinds;
* `Sidecar.Rule.Requirement` — a requirement, and its `decode`, `encode`, `feed`, `toCluster`;
* `Sidecar.Rule.LabelSelector` — a label selector, likewise.

Main result: `Sidecar.Rule.Requirement.toCluster_eq_ok_iff` — which requirements are accepted.
-/

import Sidecar.Cluster.Objects
import Sidecar.Decode.Source
import Sidecar.Fingerprint.Feed
import Sidecar.Rule.Error

set_option autoImplicit false

namespace Sidecar.Rule

/-- The selectors that are made of requirements. -/
inductive SelectorKind where
  | label
  | node
deriving DecidableEq

namespace SelectorKind

/-- The operators that a selector allows. -/
def operators : SelectorKind → List String
  | label => ["In", "NotIn", "Exists", "DoesNotExist"]
  | node => ["In", "NotIn", "Exists", "DoesNotExist", "Gt", "Lt"]

/-- The place that messages name. -/
def context : SelectorKind → OperatorContext
  | label => .labelSelector
  | node => .nodeSelector

/-- The name of the type of its requirements in messages. -/
def requirementType : SelectorKind → String
  | label => "InjectMatchExpression"
  | node => "InjectNodeSelectorRequirement"

end SelectorKind

/-- A requirement of a selector. -/
structure Requirement where
  key : String
  operator : String
  values : List String
deriving DecidableEq, Inhabited

namespace Requirement

/-- Reads a requirement of a selector of that kind. -/
def decode {δ : Type} [Source δ] (kind : SelectorKind) : δ → Except DecodeError Requirement :=
  Decode.record kind.requirementType ["key", "operator", "values"] fun r =>
    Ranked.pure mk
      |>.ap (r.required "key" Decode.text)
      |>.ap (r.required "operator" Decode.text)
      |>.ap (r.orElse "values" [] Decode.texts)

/-- Writes a requirement back. -/
def encode (r : Requirement) : Json :=
  .record [("key", some (.str r.key)), ("operator", some (.str r.operator)),
    ("values", Json.nonEmptyList .str r.values)]

/-- The bytes that a requirement feeds. -/
def feed (r : Requirement) : Feed :=
  Feed.text "key" r.key ++ Feed.text "operator" r.operator ++ Feed.texts "values" r.values

/-- Whether the number of values fits the operator: set operators need some, tests of existence
take none. -/
def fitsArity (r : Requirement) : Bool :=
  if r.operator ∈ ["In", "NotIn"] then !r.values.isEmpty
  else if r.operator ∈ ["Exists", "DoesNotExist"] then r.values.isEmpty
  else true

/-- The cluster's form of a requirement of a selector of that kind. -/
def toCluster (kind : SelectorKind) (r : Requirement) : Except RuleError Cluster.Requirement :=
  if r.operator ∉ kind.operators then .error (.invalidOperator kind.context r.operator)
  else if !r.fitsArity then .error (.invalidRequirementValues kind.context r.operator)
  else .ok
    { key := r.key
      operator := r.operator
      values := if r.values.isEmpty then none else some r.values }

/-- A requirement is accepted if its selector allows its operator and the values fit it. -/
theorem toCluster_eq_ok_iff (kind : SelectorKind) (r : Requirement) (c : Cluster.Requirement) :
    toCluster kind r = .ok c ↔ r.operator ∈ kind.operators ∧ r.fitsArity = true
      ∧ c = ⟨r.key, r.operator, if r.values.isEmpty then none else some r.values⟩ := by
  unfold toCluster
  by_cases hop : r.operator ∈ kind.operators
  · cases hfit : r.fitsArity with
    | false => simp [hop]
    | true =>
      simp only [hop, not_true_eq_false, if_false, Bool.not_true, Bool.false_eq_true, true_and,
        Except.ok.injEq]
      exact eq_comm
  · simp [hop]

end Requirement

/-- A selector of objects by their labels. -/
structure LabelSelector where
  matchLabels : StringMap
  matchExpressions : List Requirement
deriving DecidableEq, Inhabited

namespace LabelSelector

/-- Reads a label selector. -/
def decode {δ : Type} [Source δ] : δ → Except DecodeError LabelSelector :=
  Decode.record "InjectLabelSelector" ["matchLabels", "matchExpressions"] fun r =>
    Ranked.pure mk
      |>.ap (r.orElse "matchLabels" .empty Decode.stringMap)
      |>.ap (r.orElse "matchExpressions" [] (Decode.list (Requirement.decode .label)))

/-- Writes a label selector back. -/
def encode (s : LabelSelector) : Json :=
  .record [("matchLabels", Json.nonEmptyMap s.matchLabels),
    ("matchExpressions", Json.nonEmptyList Requirement.encode s.matchExpressions)]

/-- The bytes that a label selector feeds. -/
def feed (s : LabelSelector) : Feed :=
  Feed.map "matchLabels" s.matchLabels
    ++ Feed.list "matchExpressions" s.matchExpressions Requirement.feed

/-- The cluster's form of a label selector. -/
def toCluster (s : LabelSelector) : Except RuleError Cluster.LabelSelector := do
  let expressions ← s.matchExpressions.mapM (Requirement.toCluster .label)
  pure
    { matchLabels := if s.matchLabels.isEmpty then none else some s.matchLabels
      matchExpressions := if expressions.isEmpty then none else some expressions }

end LabelSelector

end Sidecar.Rule
