/-
**The operations of an injection.**

The engine writes its operations stage by stage, converting the parts of the rule as it goes.  With
the contribution of the rule at hand the stages need no conversion any more, and their operations
fall into two patches: one of the pod's specification and one of its metadata.

Main definitions:

* `Sidecar.Contribution.specPatch`, `Sidecar.Contribution.metadataPatch` — the two patches.

Main results:

* `Sidecar.Injection.content_eq` — the stages write the first patch and the labels;
* `Sidecar.Engine.mutate_eq_patched_iff` — **when the engine answers with a patch, and with which**;
* `Sidecar.Engine.exists_contribution_of_mutate` — the patch is made of the two.
-/

import Sidecar.Proofs.Json.Effect
import Sidecar.Proofs.Registered
import Sidecar.Proofs.Rule.Conversion

set_option autoImplicit false

namespace Sidecar

open Json Injection

/-! ### Conversions keep keys -/

namespace Rule

theorem mapM_some_eq_ok_iff {ε α β : Type} {f : α → Except ε β} {a : α} {b : Option β} :
    (some a).mapM f = .ok b ↔ ∃ c, f a = .ok c ∧ b = some c := by
  have hmap : (some a).mapM f = some <$> f a := rfl
  rw [hmap]
  cases f a with
  | error e => simp [Functor.map, Except.map]
  | ok c => simp [Functor.map, Except.map, eq_comm]

theorem Volume.name_of_toCluster {v : Volume} {w : Cluster.Volume} (h : v.toCluster = .ok w) :
    w.name = v.name := by
  unfold toCluster at h
  split at h
  · cases h
  · obtain ⟨emptyDir, _, h⟩ := bind_eq_ok_iff.1 h
    cases h
    rfl

theorem Container.name_of_toCluster {c : Container} {w : Cluster.Container}
    (h : c.toCluster = .ok w) : w.name = c.name := by
  rw [toCluster, mapError_eq_ok_iff, convert] at h
  split at h
  · cases h
  · obtain ⟨ports, _, h⟩ := bind_eq_ok_iff.1 h
    obtain ⟨resources, _, h⟩ := bind_eq_ok_iff.1 h
    obtain ⟨mounts, _, h⟩ := bind_eq_ok_iff.1 h
    cases h
    rfl

end Rule

/-! ### The two patches -/

namespace Json.Patch

/-- Appending below a segment. -/
theorem under_append (segment : String) (base : Pointer) (length : Nat) (items : List Json) :
    under segment (append base length items) = append (segment :: base) length items := by
  unfold append
  split
  · rfl
  · split
    · rfl
    · rw [under, List.map_map]
      rfl

/-- Merging below a segment. -/
theorem under_mergeMap (segment : String) (base : Pointer) (existing : Option StringMap)
    (desired : StringMap) :
    under segment (mergeMap base existing desired)
      = mergeMap (segment :: base) existing desired := by
  unfold mergeMap
  split
  · rfl
  · cases existing with
    | none => rfl
    | some existing =>
        simp only
        split
        · rfl
        · rw [under, List.map_flatMap]
          congr 1
          funext entry
          cases existing.find? entry.1 with
          | none => rfl
          | some current =>
              simp only
              split <;> rfl

theorem under_append_patch (segment : String) (p q : Patch) :
    under segment (p ++ q) = under segment p ++ under segment q :=
  List.map_append

end Json.Patch

namespace Contribution

/-- The operations that give one container the mounts whose paths it has not. -/
def mountPatch (mounts : List Cluster.VolumeMount) (container : Cluster.PodContainer) : Patch :=
  .append ["volumeMounts"] container.mountPaths.length
    ((fresh (·.mountPath) container.mountPaths mounts).map (·.toJson))

/-- The operations that do so for each container of a list. -/
def mountsPatch (mounts : List Cluster.VolumeMount) (containers : List Cluster.PodContainer) :
    Patch :=
  (containers.zipIdx.map fun (container, i) =>
    (mountPatch mounts container).under (toString i)).flatten

/-- The operation that demands nodes of a specification whose affinity is given. -/
def requirePatch (required : Cluster.NodeSelector) : Cluster.PodAffinity → Patch
  | .absent => [.add ["affinity"] (Cluster.Affinity.toJson ⟨some ⟨some required⟩⟩)]
  | .withoutNodes =>
    [.add ["affinity", "nodeAffinity"] (Cluster.NodeAffinity.toJson ⟨some required⟩)]
  | .nodes 0 => [.add ["affinity", "nodeAffinity", Cluster.requiredNodes] required.toJson]
  | .nodes (_ + 1) => []

/-- The operation that demands the nodes of the contribution, if it has any. -/
def affinityPatch (c : Contribution) (affinity : Cluster.PodAffinity) : Patch :=
  match c.required with
  | none => []
  | some required => requirePatch required affinity

/-- The operations on the specification of a pod. -/
def specPatch (c : Contribution) (spec : Cluster.PodSpec) : Patch :=
  .append ["volumes"] spec.volumes.length
      ((fresh (·.name) spec.volumes c.volumes).map (·.toJson))
    ++ ((mountsPatch c.volumeMounts spec.initContainers).under "initContainers"
      ++ (mountsPatch c.volumeMounts spec.containers).under "containers")
    ++ .append ["containers"] spec.containers.length
      ((fresh (·.name) (spec.containers.map (·.name)) c.containers).map (·.toJson))
    ++ c.affinityPatch spec.affinity
    ++ .append ["tolerations"] spec.tolerations.length
      ((fresh id spec.tolerations c.tolerations).map (·.toJson))

/-- The operations on the metadata of a pod. -/
def metadataPatch (c : Contribution) (bookkeeping : StringMap) (pod : Cluster.Pod) : Patch :=
  .mergeMap ["labels"] pod.labels c.labels
    ++ .mergeMap ["annotations"] pod.annotations (c.annotations.override bookkeeping)

end Contribution

/-! ### The stages -/

namespace Injection

open Contribution Rule

variable {rule : Rule} {c : Contribution}

theorem volumes_eq (h : rule.contribution = .ok c) (spec : Cluster.PodSpec) :
    volumes rule spec = .ok (.append ["spec", "volumes"] spec.volumes.length
      ((fresh (·.name) spec.volumes c.volumes).map (·.toJson))) := by
  have hv := (contribution_eq_ok_iff.1 h).1
  exact bind_eq_ok_iff.2
    ⟨_, mapM_fresh (fun _ _ => Volume.name_of_toCluster) hv spec.volumes, rfl⟩

theorem containers_eq (h : rule.contribution = .ok c) (spec : Cluster.PodSpec) :
    containers rule spec = .ok (.append ["spec", "containers"] spec.containers.length
      ((fresh (·.name) (spec.containers.map (·.name)) c.containers).map (·.toJson))) := by
  have hc := (contribution_eq_ok_iff.1 h).2.2.1
  exact bind_eq_ok_iff.2 ⟨_, mapM_fresh (fun _ _ => Container.name_of_toCluster) hc _, rfl⟩

theorem tolerations_eq (h : rule.contribution = .ok c) (spec : Cluster.PodSpec) :
    tolerations rule spec = .ok (.append ["spec", "tolerations"] spec.tolerations.length
      ((fresh id spec.tolerations c.tolerations).map (·.toJson))) :=
  bind_eq_ok_iff.2 ⟨_, (contribution_eq_ok_iff.1 h).2.2.2.1, rfl⟩

/-- The mounts of a list of containers stand below the name of the list. -/
theorem listMounts_eq (mounts : List Cluster.VolumeMount) (field : String)
    (containers : List Cluster.PodContainer) :
    listMounts mounts field containers
      = ((mountsPatch mounts containers).under field).under "spec" := by
  simp only [listMounts, mountsPatch, Patch.under, List.map_flatten, List.map_map]
  congr 2
  funext positioned
  obtain ⟨container, i⟩ := positioned
  change containerMounts mounts field i container
    = (((mountPatch mounts container).under (toString i)).under field).under "spec"
  rw [mountPatch, Patch.under_append, Patch.under_append, Patch.under_append]
  rfl

theorem volumeMounts_eq (h : rule.contribution = .ok c) (spec : Cluster.PodSpec) :
    volumeMounts rule spec
      = .ok (((mountsPatch c.volumeMounts spec.initContainers).under "initContainers"
        ++ (mountsPatch c.volumeMounts spec.containers).under "containers").under "spec") := by
  have hm := (contribution_eq_ok_iff.1 h).2.1
  refine bind_eq_ok_iff.2 ⟨_, hm, ?_⟩
  rw [pure_eq_ok_iff, listMounts_eq, listMounts_eq, ← Patch.under_append_patch]

theorem affinity_eq (h : rule.contribution = .ok c) (spec : Cluster.PodSpec) :
    affinity rule spec = .ok ((c.affinityPatch spec.affinity).under "spec") := by
  obtain ⟨forms, hforms, hrequired⟩ := (contribution_eq_ok_iff.1 h).2.2.2.2.1
  rw [affinityPatch, hrequired]
  unfold affinity
  cases hwanted : rule.affinity with
  | none => rfl
  | some wanted =>
      rw [hwanted] at hforms
      cases hempty : wanted.isEmpty with
      | true =>
          simp only [hempty, if_true, Option.all_some]
          rfl
      | false =>
          -- the rule demands nodes; whether the pod lacks them is asked of its own affinity
          obtain ⟨form, hform, hsome⟩ := mapM_some_eq_ok_iff.1 hforms
          subst hsome
          simp only [hempty, hform, Option.all_some, Bool.false_eq_true, if_false, Option.bind_some]
          cases hnodes : requiredNodes? form <;> rcases spec.affinity with _ | _ | _ | n <;>
            simp only [bind, Except.bind, hnodes] <;> rfl

/-- **What the stages write**, the annotations apart. -/
theorem content_eq (h : rule.contribution = .ok c) (pod : Cluster.Pod) (spec : Cluster.PodSpec) :
    content rule pod spec = .ok ((c.specPatch spec).under "spec"
      ++ .mergeMap ["metadata", "labels"] pod.labels c.labels) := by
  have hlabels := (contribution_eq_ok_iff.1 h).2.2.2.2.2.1
  rw [content, volumes_eq h, volumeMounts_eq h, containers_eq h, affinity_eq h, tolerations_eq h,
    labels, ← hlabels]
  simp only [specPatch, Patch.under_append_patch, Patch.under_append]
  rfl

end Injection

namespace Engine

/-- For a registered rule the engine answers with a patch if its content is not all there and the
breaker lets it go on. -/
theorem inject_eq_patched_iff (engine : Engine) (registered : RegisteredRule) (pod : Cluster.Pod)
    (spec : Cluster.PodSpec) (now : Timestamp) (name : String) (patch : Patch) :
    engine.inject registered pod spec now = .ok (.patched name patch)
      ↔ ∃ ops bookkeeping, content registered.rule pod spec = .ok ops
        ∧ (ops.isEmpty && !annotationsPending registered.rule pod) = false
        ∧ Breaker.evaluate ⟨engine.keyPrefix, registered⟩ pod.annotations now
          = .proceed bookkeeping
        ∧ name = registered.displayName
        ∧ patch = ops ++ .mergeMap ["metadata", "annotations"] pod.annotations
          (registered.rule.annotations.override bookkeeping) := by
  rw [inject, bind_eq_ok_iff]
  constructor
  · rintro ⟨ops, hops, h⟩
    split at h
    · cases h
    · next hpending =>
      rw [Bool.not_eq_true] at hpending
      split at h
      · cases h
      · next bookkeeping hproceed =>
        cases h
        exact ⟨ops, bookkeeping, hops, hpending, hproceed, rfl, rfl⟩
  · rintro ⟨ops, bookkeeping, hops, hpending, hproceed, rfl, rfl⟩
    refine ⟨ops, hops, ?_⟩
    rw [if_neg (Bool.eq_false_iff.1 hpending), hproceed]
    rfl

/-- **When the engine answers with a patch, and with which**: a rule stands under the fingerprint,
the pod has a specification, and the rule is injected. -/
theorem mutate_eq_patched_iff (engine : Engine) (fingerprint : String) (pod : Cluster.Pod)
    (now : Timestamp) (name : String) (patch : Patch) :
    engine.mutate fingerprint pod now = .ok (.patched name patch)
      ↔ ∃ registered spec, engine.registry.resolve? fingerprint = some registered
        ∧ pod.spec = some spec
        ∧ engine.inject registered pod spec now = .ok (.patched name patch) := by
  unfold mutate
  cases engine.registry.resolve? fingerprint with
  | none => simp
  | some registered =>
      cases pod.spec with
      | none => simp
      | some spec => simp [mapError_eq_ok_iff]

/-- **The patch of an answer** consists of the two patches of the rule's contribution. -/
theorem exists_contribution_of_mutate {registry : Registry} (hs : registry.Sound)
    {keyPrefix fingerprint name : String} {pod : Cluster.Pod} {now : Timestamp} {patch : Patch}
    (h : mutate ⟨registry, keyPrefix⟩ fingerprint pod now = .ok (.patched name patch)) :
    ∃ registered ∈ registry.rules, registered.fingerprint = fingerprint
      ∧ ∃ c, registered.rule.contribution = .ok c
      ∧ ∃ bookkeeping,
        Breaker.evaluate ⟨keyPrefix, registered⟩ pod.annotations now = .proceed bookkeeping
      ∧ ∃ spec, pod.spec = some spec
      ∧ patch = (c.specPatch spec).under "spec"
        ++ (c.metadataPatch bookkeeping pod).under "metadata" := by
  obtain ⟨registered, spec, hfound, hspec, hinject⟩ := (mutate_eq_patched_iff ..).1 h
  -- the rule is valid since it is registered, so it has a contribution
  obtain ⟨ops, bookkeeping, hops, _, hproceed, _, rfl⟩ := (inject_eq_patched_iff ..).1 hinject
  obtain ⟨hmem, hfingerprint⟩ := Registry.mem_of_resolve? hfound
  obtain ⟨_, _, _, c, hc⟩ := Rule.validate_eq_ok_iff.1 (hs.valid registered hmem)
  refine ⟨registered, hmem, hfingerprint, c, hc, bookkeeping, hproceed, spec, hspec, ?_⟩
  rw [content_eq hc] at hops
  obtain rfl := Except.ok.inj hops
  have hannotations := (Rule.contribution_eq_ok_iff.1 hc).2.2.2.2.2.2
  rw [Contribution.metadataPatch, Patch.under_append_patch, Patch.under_mergeMap,
    Patch.under_mergeMap, ← List.append_assoc, hannotations]

end Engine

end Sidecar
