/-
**The cluster's forms have the shapes that pods are read by.**

What a rule contributes is written into the document of a pod, and the document is read again at
the next admission.  It is read if everything in it has its shape: the JSON form of each of the
cluster's objects has the shape of the place where it is written, whatever its fields hold, and an
object stays of its shape if one of its members is set to a value of the member's shape.

Main results:

* `Sidecar.Cluster.Shape.accepts_json_object` — an object made of members that have their shapes;
* `Sidecar.Cluster.Shape.accepts_withMember` — **an object of which one member is set**;
* `accepts_toJson` for each of the cluster's types, among them
  `Sidecar.Cluster.Volume.accepts_toJson`, `Sidecar.Cluster.Container.accepts_toJson`,
  `Sidecar.Cluster.NodeSelector.accepts_toJson` and `Sidecar.Cluster.Toleration.accepts_toJson`.
-/

import Sidecar.Cluster.Objects
import Sidecar.Cluster.PodShape
import Sidecar.Proofs.Cluster.Accepted

set_option autoImplicit false

namespace Sidecar.Cluster

open Json

namespace Shape

/-! ### Members -/

variable {fields : List (String × Shape)} {item shape : Shape}

/-- What is accepted is accepted as a member. -/
theorem acceptsMember_some {x : Json} (h : shape.accepts x = true) :
    shape.acceptsMember (some x) = true := by
  cases x with
  | null => cases shape <;> first | rfl | simp [accepts] at h
  | _ => exact h

/-- An optional field whose form is always accepted. -/
theorem acceptsMember_map {α : Type} {toJson : α → Json} (h : ∀ a, shape.accepts (toJson a) = true)
    (field : Option α) : shape.acceptsMember (field.map toJson) = true := by
  cases field with
  | none => rfl
  | some a => exact acceptsMember_some (h a)

@[simp] theorem accepts_text_str (s : String) : Shape.text.accepts (.str s) = true := rfl

@[simp] theorem accepts_bool_bool (b : Bool) : Shape.bool.accepts (.bool b) = true := rfl

/-- A list is accepted exactly if its items are. -/
theorem accepts_list_iff {items : List Json} :
    (Shape.list item).accepts (.arr items) = true ↔ ∀ x ∈ items, item.accepts x = true := by
  rw [accepts, List.all_eq_true]

theorem accepts_texts_strings (l : List String) : texts.accepts (strings l) = true := by
  refine accepts_list_iff.2 fun x hx => ?_
  obtain ⟨s, _, rfl⟩ := List.mem_map.1 hx
  rfl

theorem accepts_textMap_stringMap (m : StringMap) : textMap.accepts (stringMap m) = true := by
  simp [textMap, stringMap, accepts, List.all_eq_true]

theorem accepts_objects {α : Type} {toJson : α → Json} (h : ∀ a, item.accepts (toJson a) = true)
    (items : List α) : (Shape.list item).accepts (objects toJson items) = true := by
  refine accepts_list_iff.2 fun x hx => ?_
  obtain ⟨a, _, rfl⟩ := List.mem_map.1 hx
  exact h a

@[simp] theorem acceptsMember_none : shape.acceptsMember none = true := rfl

@[simp] theorem acceptsMember_text (field : Option String) :
    Shape.text.acceptsMember (field.map .str) = true :=
  acceptsMember_map accepts_text_str field

@[simp] theorem acceptsMember_text_str (s : String) :
    Shape.text.acceptsMember (some (.str s)) = true := rfl

@[simp] theorem acceptsMember_bool (field : Option Bool) :
    Shape.bool.acceptsMember (field.map .bool) = true :=
  acceptsMember_map accepts_bool_bool field

theorem accepts_int32_toInt (n : Int32) : Shape.int32.accepts (.int n.toInt) = true := by
  simp only [accepts, isInt32, Bool.and_eq_true, decide_eq_true_eq]
  exact ⟨n.minValue_le_toInt, n.toInt_le⟩

theorem accepts_int64_toInt (n : Int64) : Shape.int64.accepts (.int n.toInt) = true := by
  simp only [accepts, isInt64, Bool.and_eq_true, decide_eq_true_eq]
  exact ⟨n.minValue_le_toInt, n.toInt_le⟩

@[simp] theorem acceptsMember_int32_toInt (n : Int32) :
    Shape.int32.acceptsMember (some (.int n.toInt)) = true :=
  acceptsMember_some (accepts_int32_toInt n)

@[simp] theorem acceptsMember_int32 (field : Option Int32) :
    Shape.int32.acceptsMember (field.map fun n => .int n.toInt) = true :=
  acceptsMember_map accepts_int32_toInt field

@[simp] theorem acceptsMember_int64 (field : Option Int64) :
    Shape.int64.acceptsMember (field.map fun n => .int n.toInt) = true :=
  acceptsMember_map accepts_int64_toInt field

theorem acceptsMember_objects {α : Type} {toJson : α → Json}
    (h : ∀ a, item.accepts (toJson a) = true) (field : Option (List α)) :
    (Shape.list item).acceptsMember (field.map (objects toJson)) = true :=
  acceptsMember_map (accepts_objects h) field

/-! ### Objects -/

/-- An object made of members that have their shapes. -/
theorem accepts_json_object {members : List (String × Option Json)}
    (h : ∀ e ∈ members, ∀ f ∈ fields, f.1 = e.1 → f.2.acceptsMember e.2 = true) :
    (Shape.object fields).accepts (Json.object members) = true := by
  refine (accepts_object_iff _ _).2 fun f hf => ?_
  change f.2.acceptsMember ((Json.object members).member? f.1) = true
  cases hfind : (Json.object members).member? f.1 with
  | none => rfl
  | some x =>
      obtain ⟨⟨name, value⟩, hmem, heq⟩ :=
        List.mem_filterMap.1 (Entries.mem_ofList (Entries.mem_of_find? hfind))
      obtain ⟨y, rfl, hy⟩ := Option.map_eq_some_iff.1 heq
      obtain ⟨rfl, rfl⟩ := Prod.mk.inj hy
      exact h _ hmem f hf rfl

@[simp] theorem accepts_object_nil : (Shape.object fields).accepts (.obj []) = true :=
  (accepts_object_iff _ _).2 fun _ _ => rfl

/-- **An object keeps its shape** if one of its members is set to a value of the member's shape. -/
theorem accepts_withMember {json : Json} {name : String} {value : Option Json}
    (h : (Shape.object fields).accepts json = true)
    (hv : ∀ f ∈ fields, f.1 = name → f.2.acceptsMember value = true) :
    (Shape.object fields).accepts (json.withMember name value) = true := by
  obtain ⟨members, rfl⟩ := exists_members_of_accepts h
  cases value with
  | none => rwa [withMember_none]
  | some v =>
      rw [withMember_obj_some, accepts_object_iff]
      intro f hf
      rw [Entries.find?_insert]
      split
      · next hname => exact hv f hf hname.symm
      · exact (accepts_object_iff _ _).1 h f hf

end Shape

/-! ### Volumes and mounts -/

open Shape

theorem KeyToPath.accepts_toJson (x : KeyToPath) :
    Shape.accepts (.object [("key", .text), ("mode", .int32), ("path", .text)]) x.toJson = true :=
  accepts_json_object (by simp)

theorem ConfigMapSource.accepts_toJson (x : ConfigMapSource) :
    Shape.accepts (.object [("defaultMode", .int32), ("items", keyItems), ("name", .text),
      ("optional", .bool)]) x.toJson = true :=
  accepts_json_object (by simp [keyItems, acceptsMember_objects KeyToPath.accepts_toJson])

theorem SecretSource.accepts_toJson (x : SecretSource) :
    Shape.accepts (.object [("defaultMode", .int32), ("items", keyItems), ("optional", .bool),
      ("secretName", .text)]) x.toJson = true :=
  accepts_json_object (by simp [keyItems, acceptsMember_objects KeyToPath.accepts_toJson])

theorem EmptyDirSource.accepts_toJson (x : EmptyDirSource) :
    Shape.accepts (textFields ["medium", "sizeLimit"]) x.toJson = true :=
  accepts_json_object (by simp)

theorem Volume.accepts_toJson (x : Volume) : Shape.volume.accepts x.toJson = true :=
  accepts_json_object (by simp [acceptsMember_map ConfigMapSource.accepts_toJson,
    acceptsMember_map SecretSource.accepts_toJson, acceptsMember_map EmptyDirSource.accepts_toJson])

theorem VolumeMount.accepts_toJson (x : VolumeMount) :
    Shape.volumeMount.accepts x.toJson = true :=
  accepts_json_object (by simp)

/-! ### Containers -/

theorem EnvVar.accepts_toJson (x : EnvVar) : Shape.envVar.accepts x.toJson = true :=
  accepts_json_object (by simp)

theorem ContainerPort.accepts_toJson (x : ContainerPort) :
    Shape.accepts (.object [("containerPort", .int32), ("hostIP", .text), ("hostPort", .int32),
      ("name", .text), ("protocol", .text)]) x.toJson = true :=
  accepts_json_object (by simp)

theorem ResourceRequirements.accepts_toJson (x : ResourceRequirements) :
    Shape.resources.accepts x.toJson = true :=
  accepts_json_object (by simp [acceptsMember_map accepts_textMap_stringMap])

theorem Container.accepts_toJson (x : Container) : Shape.container.accepts x.toJson = true :=
  accepts_json_object (by simp [containerFields, acceptsMember_map accepts_texts_strings,
    acceptsMember_objects EnvVar.accepts_toJson,
    acceptsMember_objects ContainerPort.accepts_toJson,
    acceptsMember_map ResourceRequirements.accepts_toJson,
    acceptsMember_objects VolumeMount.accepts_toJson])

/-! ### Scheduling -/

theorem Requirement.accepts_toJson (x : Requirement) :
    Shape.requirement.accepts x.toJson = true :=
  accepts_json_object (by simp [acceptsMember_map accepts_texts_strings])

theorem NodeSelectorTerm.accepts_toJson (x : NodeSelectorTerm) :
    Shape.nodeSelectorTerm.accepts x.toJson = true :=
  accepts_json_object (by simp [acceptsMember_objects Requirement.accepts_toJson])

theorem NodeSelector.accepts_toJson (x : NodeSelector) :
    Shape.accepts (.object [("nodeSelectorTerms", .list nodeSelectorTerm)]) x.toJson = true :=
  accepts_json_object
    (by simp [acceptsMember_some (accepts_objects NodeSelectorTerm.accepts_toJson _)])

theorem Toleration.accepts_toJson (x : Toleration) : Shape.toleration.accepts x.toJson = true :=
  accepts_json_object (by simp)

end Sidecar.Cluster
