/-
**Injecting a rule into a pod.**

The engine answers, for a pod and the fingerprint of a rule, with the patch that brings the rule's
content into the pod.  It works in stages: volumes, mounts in the containers that the pod has
already, containers, affinity, tolerations, labels, and annotations together with those of the
breaker.  What the pod has already is left alone: a volume or container of the same name, a mount
at the same path, an equal toleration, required nodes of its own.

Main definitions:

* `Sidecar.Injection.fresh` — the items whose keys are not taken;
* `Sidecar.Injection.content` — the operations of all stages but the annotations;
* `Sidecar.Engine`, `Sidecar.Engine.mutate` — the engine and its answers;
* `Sidecar.Outcome` — an answer.

Main results:

* `Sidecar.Injection.map_fresh_nodup`, `Sidecar.Injection.key_fresh_notMem` — what is injected has
  keys that differ from each other and from those taken.
-/

import Sidecar.Breaker
import Sidecar.Cluster.Pod
import Sidecar.Json.Patch

set_option autoImplicit false

namespace Sidecar

namespace Injection

variable {α β : Type} [DecidableEq β]

/-- The items whose keys are neither taken nor those of an earlier item. -/
def fresh (key : α → β) (taken : List β) : List α → List α
  | [] => []
  | x :: xs => if key x ∈ taken then fresh key taken xs else x :: fresh key (key x :: taken) xs

@[simp] theorem fresh_nil (key : α → β) (taken : List β) : fresh key taken [] = [] := rfl

theorem key_fresh_notMem (key : α → β) (taken : List β) (xs : List α) (x : α)
    (h : x ∈ fresh key taken xs) : key x ∉ taken := by
  induction xs generalizing taken with
  | nil => cases h
  | cons y ys ih =>
    rw [fresh] at h
    split at h
    · exact ih taken h
    · next hy =>
      rcases List.mem_cons.1 h with rfl | h
      · exact hy
      · exact fun hx => ih _ h (List.mem_cons_of_mem _ hx)

theorem map_fresh_nodup (key : α → β) (taken : List β) (xs : List α) :
    ((fresh key taken xs).map key).Nodup := by
  induction xs generalizing taken with
  | nil => exact List.nodup_nil
  | cons y ys ih =>
    rw [fresh]
    split
    · exact ih taken
    · refine List.nodup_cons.2 ⟨fun hmem => ?_, ih _⟩
      obtain ⟨x, hx, hkey⟩ := List.mem_map.1 hmem
      exact key_fresh_notMem key _ ys x hx (hkey ▸ List.mem_cons_self ..)

/-! ### The stages -/

/-- The rule's volumes that the pod has not. -/
def volumes (rule : Rule) (spec : Cluster.PodSpec) : Except RuleError Json.Patch := do
  let pending ← (fresh (·.name) spec.volumes rule.volumes).mapM Rule.Volume.toCluster
  pure (.append ["spec", "volumes"] spec.volumes.length (pending.map (·.toJson)))

/-- The mounts that one container, number `index` of the list `field`, has not. -/
def containerMounts (mounts : List Cluster.VolumeMount) (field : String) (index : Nat)
    (container : Cluster.PodContainer) : Json.Patch :=
  let pending := fresh (·.mountPath) container.mountPaths mounts
  .append ["spec", field, toString index, "volumeMounts"] container.mountPaths.length
    (pending.map (·.toJson))

/-- The mounts that the containers of the list `field` have not. -/
def listMounts (mounts : List Cluster.VolumeMount) (field : String)
    (containers : List Cluster.PodContainer) : Json.Patch :=
  (containers.zipIdx.map fun (container, index) =>
    containerMounts mounts field index container).flatten

/-- The rule's mounts, for every container that the pod has. -/
def volumeMounts (rule : Rule) (spec : Cluster.PodSpec) : Except RuleError Json.Patch := do
  let mounts ← rule.volumeMounts.mapM Rule.VolumeMount.toCluster
  pure (listMounts mounts "initContainers" spec.initContainers
    ++ listMounts mounts "containers" spec.containers)

/-- The rule's containers that the pod has not. -/
def containers (rule : Rule) (spec : Cluster.PodSpec) : Except RuleError Json.Patch := do
  let taken := spec.containers.map (·.name)
  let pending ← (fresh (·.name) taken rule.containers).mapM Rule.Container.toCluster
  pure (.append ["spec", "containers"] spec.containers.length (pending.map (·.toJson)))

/-- The required nodes of a converted affinity. -/
def requiredNodes? (affinity : Cluster.Affinity) : Option Cluster.NodeSelector :=
  affinity.nodeAffinity.bind (·.required)

/-- The rule's required nodes, if the pod requires none; they are added at the first level that the
pod lacks, so that everything beside them stays. -/
def affinity (rule : Rule) (spec : Cluster.PodSpec) : Except RuleError Json.Patch :=
  match rule.affinity with
  | none => pure []
  | some wanted =>
    if wanted.isEmpty then pure []
    else
      let place (path : Json.Pointer) (value : Cluster.NodeSelector → Json) :
          Except RuleError Json.Patch := do
        match requiredNodes? (← wanted.toCluster) with
        | some required => pure [.add path (value required)]
        | none => pure []
      match spec.affinity with
      | .absent =>
        place ["spec", "affinity"] fun required => Cluster.Affinity.toJson ⟨some ⟨some required⟩⟩
      | .withoutNodes =>
        place ["spec", "affinity", "nodeAffinity"] fun required =>
          Cluster.NodeAffinity.toJson ⟨some required⟩
      | .nodes 0 =>
        place ["spec", "affinity", "nodeAffinity", Cluster.requiredNodes] (·.toJson)
      | .nodes (_ + 1) => pure []

/-- The rule's tolerations that the pod has not. -/
def tolerations (rule : Rule) (spec : Cluster.PodSpec) : Except RuleError Json.Patch := do
  let wanted ← rule.tolerations.mapM Rule.Toleration.toCluster
  let pending := fresh id spec.tolerations wanted
  pure (.append ["spec", "tolerations"] spec.tolerations.length (pending.map (·.toJson)))

/-- The rule's labels that the pod has not, or with another value. -/
def labels (rule : Rule) (pod : Cluster.Pod) : Json.Patch :=
  .mergeMap ["metadata", "labels"] pod.labels rule.labels

/-- The operations of all stages but the annotations. -/
def content (rule : Rule) (pod : Cluster.Pod) (spec : Cluster.PodSpec) :
    Except RuleError Json.Patch := do
  let volumes ← volumes rule spec
  let volumeMounts ← volumeMounts rule spec
  let containers ← containers rule spec
  let affinity ← affinity rule spec
  let tolerations ← tolerations rule spec
  pure (volumes ++ volumeMounts ++ containers ++ affinity ++ tolerations ++ labels rule pod)

/-- Whether the pod lacks one of the rule's annotations, or has it with another value. -/
def annotationsPending (rule : Rule) (pod : Cluster.Pod) : Bool :=
  rule.annotations.entries.any fun (key, value) =>
    pod.annotations.bind (·.find? key) ≠ some value

end Injection

/-- What the engine answers. -/
inductive Outcome where
  | patched (rule : String) (patch : Json.Patch)
  /-- No rule has the fingerprint. -/
  | unknownRule
  /-- The pod has all of the rule's content. -/
  | nothingToInject (rule : String)
  | iterationLimitReached (rule : String) (iterations : UInt32)
deriving DecidableEq

/-- Why the engine cannot answer. -/
inductive InjectionError where
  | missingSpec
  | rule (cause : RuleError)
deriving DecidableEq

/-- The wording of the error. -/
def InjectionError.message : InjectionError → String
  | .missingSpec => "pod has no spec"
  | .rule cause => cause.message

/-- Registered rules, and the part of the breaker's annotations before the slash. -/
structure Engine where
  registry : Registry
  keyPrefix : String

namespace Engine

/-- The answer for a pod whose specification is given and a rule that is registered. -/
def inject (engine : Engine) (registered : RegisteredRule) (pod : Cluster.Pod)
    (spec : Cluster.PodSpec) (now : Timestamp) : Except RuleError Outcome := do
  let rule := registered.rule
  let ops ← Injection.content rule pod spec
  if ops.isEmpty && !Injection.annotationsPending rule pod then
    pure (.nothingToInject registered.displayName)
  else
    match Breaker.evaluate ⟨engine.keyPrefix, registered⟩ pod.annotations now with
    | .tripped iterations => pure (.iterationLimitReached registered.displayName iterations)
    | .proceed bookkeeping =>
      let desired := rule.annotations.override bookkeeping
      let merge := Json.Patch.mergeMap ["metadata", "annotations"] pod.annotations desired
      pure (.patched registered.displayName (ops ++ merge))

/-- The answer for a pod and a fingerprint at the given time. -/
def mutate (engine : Engine) (fingerprint : String) (pod : Cluster.Pod) (now : Timestamp) :
    Except InjectionError Outcome :=
  match engine.registry.resolve? fingerprint with
  | none => .ok .unknownRule
  | some registered =>
    match pod.spec with
    | none => .error .missingSpec
    | some spec => (engine.inject registered pod spec now).mapError .rule

end Engine

end Sidecar
