/-
**What a valid rule contributes.**

Validation converts every part of a rule to its form in the cluster and throws the forms away; the
injection converts the parts again, one stage at a time, and only those that the pod lacks.  Here
the forms are kept: a rule has a *contribution* exactly if its parts convert, so every valid rule
has one, and which parts a pod lacks can be asked of the forms as well as of the rule.

Main definitions:

* `Sidecar.Contribution` — what a rule brings to pods, in the cluster's form;
* `Sidecar.Rule.contribution` — the contribution of a rule.

Main results:

* `Sidecar.Rule.validate_eq_ok_iff` — **a rule is valid exactly if its name is one, its selectors
  convert and it has a contribution**;
* `Sidecar.Injection.mapM_fresh` — picking what is new goes through a conversion that keeps keys.
-/

import Sidecar.Injection
import Sidecar.Proofs.Computation

set_option autoImplicit false

namespace Sidecar

/-- What a rule brings to pods, in the cluster's form. -/
structure Contribution where
  volumes : List Cluster.Volume
  /-- Mounts for the containers that the pod has already. -/
  volumeMounts : List Cluster.VolumeMount
  containers : List Cluster.Container
  /-- The nodes that pods must run on, if the rule's affinity says anything about them. -/
  required : Option Cluster.NodeSelector
  tolerations : List Cluster.Toleration
  labels : StringMap
  annotations : StringMap

namespace Rule

/-- The contribution of a rule, or the first of its parts that has no form in the cluster. -/
def contribution (r : Rule) : Except RuleError Contribution := do
  let affinity ← r.affinity.mapM Affinity.toCluster
  let tolerations ← r.tolerations.mapM Toleration.toCluster
  let containers ← r.containers.mapM Container.toCluster
  let volumes ← r.volumes.mapM Volume.toCluster
  let volumeMounts ← r.volumeMounts.mapM VolumeMount.toCluster
  pure
    { volumes, volumeMounts, containers, tolerations
      required :=
        if r.affinity.all (·.isEmpty) then none else affinity.bind Injection.requiredNodes?
      labels := r.labels
      annotations := r.annotations }

/-- A container can be converted exactly if its image is fetched in a known way and its ports,
resources and mounts can be converted. -/
theorem Container.exists_toCluster_iff {c : Container} :
    (∃ k, c.toCluster = .ok k)
      ↔ (c.imagePullPolicy ≠ "" → c.imagePullPolicy ∈ Container.pullPolicies)
        ∧ (∃ ports, c.ports.mapM ContainerPort.toCluster = .ok ports)
        ∧ (∃ resources, c.resources.mapM Resources.toCluster = .ok resources)
        ∧ ∃ mounts, c.volumeMounts.mapM VolumeMount.toCluster = .ok mounts := by
  have hconvert : (∃ k, c.toCluster = .ok k) ↔ ∃ k, c.convert = .ok k := by
    unfold toCluster
    cases c.convert with
    | error e => simp [Except.mapError]
    | ok k => simp [Except.mapError]
  rw [hconvert]
  unfold convert
  by_cases hpolicy : c.imagePullPolicy ≠ "" ∧ c.imagePullPolicy ∉ Container.pullPolicies
  · rw [if_pos hpolicy]
    constructor
    · rintro ⟨k, h⟩
      cases h
    · rintro ⟨h, _⟩
      exact absurd (h hpolicy.1) hpolicy.2
  · rw [if_neg hpolicy]
    have hknown : c.imagePullPolicy ≠ "" → c.imagePullPolicy ∈ Container.pullPolicies :=
      fun hne => Classical.byContradiction fun h => hpolicy ⟨hne, h⟩
    simp only [bind_eq_ok_iff, pure_eq_ok_iff]
    constructor
    · rintro ⟨_, ports, hports, resources, hresources, mounts, hmounts, _⟩
      exact ⟨hknown, ⟨ports, hports⟩, ⟨resources, hresources⟩, mounts, hmounts⟩
    · rintro ⟨_, ⟨ports, hports⟩, ⟨resources, hresources⟩, mounts, hmounts⟩
      exact ⟨_, ports, hports, resources, hresources, mounts, hmounts, rfl⟩

/-! ### Contributions -/

/-- A contribution is put together of the forms of the rule's parts. -/
theorem contribution_eq_ok_iff {r : Rule} {c : Contribution} :
    r.contribution = .ok c
      ↔ r.volumes.mapM Volume.toCluster = .ok c.volumes
        ∧ r.volumeMounts.mapM VolumeMount.toCluster = .ok c.volumeMounts
        ∧ r.containers.mapM Container.toCluster = .ok c.containers
        ∧ r.tolerations.mapM Toleration.toCluster = .ok c.tolerations
        ∧ (∃ affinity, r.affinity.mapM Affinity.toCluster = .ok affinity
          ∧ c.required = if r.affinity.all (·.isEmpty) then none
            else affinity.bind Injection.requiredNodes?)
        ∧ c.labels = r.labels ∧ c.annotations = r.annotations := by
  simp only [contribution, bind_eq_ok_iff, pure_eq_ok_iff]
  constructor
  · rintro ⟨affinity, ha, tolerations, ht, containers, hc, volumes, hv, mounts, hm, rfl⟩
    exact ⟨hv, hm, hc, ht, ⟨affinity, ha, rfl⟩, rfl, rfl⟩
  · rintro ⟨hv, hm, hc, ht, ⟨affinity, ha, hrequired⟩, hlabels, hannotations⟩
    obtain ⟨volumes, mounts, containers, required, tolerations, labels, annotations⟩ := c
    simp only at hv hm hc ht hrequired hlabels hannotations
    subst hrequired hlabels hannotations
    exact ⟨affinity, ha, tolerations, ht, containers, hc, volumes, hv, mounts, hm, rfl⟩

/-- A rule has a contribution exactly if all that it brings converts. -/
theorem exists_contribution_iff {r : Rule} :
    (∃ c, r.contribution = .ok c)
      ↔ ∃ affinity, r.affinity.mapM Affinity.toCluster = .ok affinity
        ∧ ∃ tolerations, r.tolerations.mapM Toleration.toCluster = .ok tolerations
        ∧ ∃ containers, r.containers.mapM Container.toCluster = .ok containers
        ∧ ∃ volumes, r.volumes.mapM Volume.toCluster = .ok volumes
        ∧ ∃ mounts, r.volumeMounts.mapM VolumeMount.toCluster = .ok mounts := by
  simp only [contribution, bind_eq_ok_iff, pure_eq_ok_iff]
  constructor
  · rintro ⟨c, affinity, ha, tolerations, ht, containers, hc, volumes, hv, mounts, hm, _⟩
    exact ⟨affinity, ha, tolerations, ht, containers, hc, volumes, hv, mounts, hm⟩
  · rintro ⟨affinity, ha, tolerations, ht, containers, hc, volumes, hv, mounts, hm⟩
    exact ⟨_, affinity, ha, tolerations, ht, containers, hc, volumes, hv, mounts, hm, rfl⟩

/-- **A rule is valid exactly if its name is one, its selectors convert and it has a
contribution.** -/
theorem validate_eq_ok_iff {r : Rule} :
    r.validate = .ok ()
      ↔ (r.name ≠ "" → isName r.name = true)
        ∧ (∃ selector, r.labelSelector.mapM LabelSelector.toCluster = .ok selector)
        ∧ (∃ selector, r.namespaceSelector.mapM LabelSelector.toCluster = .ok selector)
        ∧ ∃ c, r.contribution = .ok c := by
  unfold validate
  by_cases hname : r.name ≠ "" ∧ (!isName r.name) = true
  · rw [if_pos hname]
    constructor
    · intro h
      cases h
    · rintro ⟨h, _⟩
      have hbad := hname.2
      rw [h hname.1] at hbad
      cases hbad
  · rw [if_neg hname, exists_contribution_iff]
    have hgood : r.name ≠ "" → isName r.name = true := by
      intro hne
      cases hbad : isName r.name with
      | true => rfl
      | false => exact absurd ⟨hne, by rw [hbad]; rfl⟩ hname
    simp only [bind_eq_ok_iff, pure_eq_ok_iff, and_true]
    constructor
    · rintro ⟨label, hl, ns, hn, hparts⟩
      exact ⟨hgood, ⟨label, hl⟩, ⟨ns, hn⟩, hparts⟩
    · rintro ⟨_, ⟨label, hl⟩, ⟨ns, hn⟩, hparts⟩
      exact ⟨label, hl, ns, hn, hparts⟩

end Rule

namespace Injection

variable {ε α β κ : Type} [DecidableEq κ]

/-- Picking what is new goes through a conversion that keeps keys. -/
theorem mapM_fresh {f : α → Except ε β} {key : α → κ} {key' : β → κ}
    (hkey : ∀ x y, f x = .ok y → key' y = key x) {xs : List α} {ys : List β}
    (h : xs.mapM f = .ok ys) (taken : List κ) :
    (fresh key taken xs).mapM f = .ok (fresh key' taken ys) := by
  rw [mapM_eq_ok_iff] at h ⊢
  induction h generalizing taken with
  | nil => exact .nil
  | cons hx _ ih =>
      rw [fresh, fresh, hkey _ _ hx]
      split
      · exact ih taken
      · exact .cons hx (ih _)

end Injection

end Sidecar
