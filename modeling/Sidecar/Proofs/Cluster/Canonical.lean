/-
**The cluster's forms are canonical documents.**

What a rule contributes is written into documents that are canonical, and they stay so: the JSON
form of each of the cluster's objects is canonical, whatever its fields hold.

Main results: `isCanonical_toJson` for each of the cluster's types, among them
`Sidecar.Cluster.Volume.isCanonical_toJson`, `Sidecar.Cluster.Container.isCanonical_toJson`,
`Sidecar.Cluster.NodeSelector.isCanonical_toJson` and
`Sidecar.Cluster.Toleration.isCanonical_toJson`.
-/

import Sidecar.Cluster.Objects
import Sidecar.Proofs.Json.Canonical

set_option autoImplicit false

namespace Sidecar

namespace Json

/-! ### Optional fields -/

/-- An optional field whose form is always canonical. -/
theorem isCanonicalMember_map {α : Type} {toJson : α → Json} (h : ∀ a, (toJson a).IsCanonical)
    (field : Option α) : IsCanonicalMember (field.map toJson) := by
  intro value hvalue
  obtain ⟨a, _, rfl⟩ := Option.map_eq_some_iff.1 hvalue
  exact h a

@[simp] theorem isCanonicalMember_text (field : Option String) :
    IsCanonicalMember (field.map .str) :=
  isCanonicalMember_map IsCanonical.str field

@[simp] theorem isCanonicalMember_bool (field : Option Bool) :
    IsCanonicalMember (field.map .bool) :=
  isCanonicalMember_map IsCanonical.bool field

@[simp] theorem isCanonicalMember_int {α : Type} (value : α → Int) (field : Option α) :
    IsCanonicalMember (field.map fun a => .int (value a)) :=
  isCanonicalMember_map (fun a => .int (value a)) field

@[simp] theorem isCanonicalMember_strings (field : Option (List String)) :
    IsCanonicalMember (field.map strings) :=
  isCanonicalMember_map isCanonical_strings field

@[simp] theorem isCanonicalMember_stringMap (field : Option StringMap) :
    IsCanonicalMember (field.map stringMap) :=
  isCanonicalMember_map isCanonical_stringMap field

end Json

namespace Cluster

open Json

theorem isCanonical_objects {α : Type} {toJson : α → Json} (h : ∀ a, (toJson a).IsCanonical)
    (items : List α) : (objects toJson items).IsCanonical := by
  refine .arr fun x hx => ?_
  obtain ⟨a, _, rfl⟩ := List.mem_map.1 hx
  exact h a

/-- An optional list of objects whose form is always canonical. -/
theorem isCanonicalMember_objects {α : Type} {toJson : α → Json} (h : ∀ a, (toJson a).IsCanonical)
    (field : Option (List α)) : IsCanonicalMember (field.map (objects toJson)) :=
  isCanonicalMember_map (isCanonical_objects h) field

/-! ### Volumes and mounts -/

theorem KeyToPath.isCanonical_toJson (x : KeyToPath) : x.toJson.IsCanonical :=
  isCanonical_object (by simp)

theorem ConfigMapSource.isCanonical_toJson (x : ConfigMapSource) : x.toJson.IsCanonical :=
  isCanonical_object
    (by simp [isCanonicalMember_objects KeyToPath.isCanonical_toJson])

theorem SecretSource.isCanonical_toJson (x : SecretSource) : x.toJson.IsCanonical :=
  isCanonical_object
    (by simp [isCanonicalMember_objects KeyToPath.isCanonical_toJson])

theorem EmptyDirSource.isCanonical_toJson (x : EmptyDirSource) : x.toJson.IsCanonical :=
  isCanonical_object (by simp)

theorem Volume.isCanonical_toJson (x : Volume) : x.toJson.IsCanonical :=
  isCanonical_object
    (by simp [isCanonicalMember_map ConfigMapSource.isCanonical_toJson,
      isCanonicalMember_map SecretSource.isCanonical_toJson,
      isCanonicalMember_map EmptyDirSource.isCanonical_toJson])

theorem VolumeMount.isCanonical_toJson (x : VolumeMount) : x.toJson.IsCanonical :=
  isCanonical_object (by simp)

/-! ### Containers -/

theorem EnvVar.isCanonical_toJson (x : EnvVar) : x.toJson.IsCanonical :=
  isCanonical_object (by simp)

theorem ContainerPort.isCanonical_toJson (x : ContainerPort) : x.toJson.IsCanonical :=
  isCanonical_object (by simp)

theorem ResourceRequirements.isCanonical_toJson (x : ResourceRequirements) :
    x.toJson.IsCanonical :=
  isCanonical_object (by simp)

theorem Container.isCanonical_toJson (x : Container) : x.toJson.IsCanonical :=
  isCanonical_object
    (by simp [isCanonicalMember_objects EnvVar.isCanonical_toJson,
      isCanonicalMember_objects ContainerPort.isCanonical_toJson,
      isCanonicalMember_map ResourceRequirements.isCanonical_toJson,
      isCanonicalMember_objects VolumeMount.isCanonical_toJson])

/-! ### Scheduling -/

theorem Requirement.isCanonical_toJson (x : Requirement) : x.toJson.IsCanonical :=
  isCanonical_object (by simp)

theorem NodeSelectorTerm.isCanonical_toJson (x : NodeSelectorTerm) : x.toJson.IsCanonical :=
  isCanonical_object
    (by simp [isCanonicalMember_objects Requirement.isCanonical_toJson])

theorem NodeSelector.isCanonical_toJson (x : NodeSelector) : x.toJson.IsCanonical :=
  isCanonical_object
    (by simp [isCanonical_objects NodeSelectorTerm.isCanonical_toJson])

theorem Toleration.isCanonical_toJson (x : Toleration) : x.toJson.IsCanonical :=
  isCanonical_object (by simp)

end Cluster

end Sidecar
