/-
**What is seen of a pod after an injection.**

The document that an injection leaves behind is read again when the pod is admitted the next time.
It has the shape of a pod again, and what is seen of it follows from what was seen before: the
injection of a contribution can be told on views alone.

Main definitions:

* `Sidecar.Cluster.PodContainer.mount`, `Sidecar.Cluster.PodAffinity.demand`,
  `Sidecar.StringMap.onto` — what becomes of a container, an affinity and a map, as seen;
* `Sidecar.Contribution.onSpec`, `Sidecar.Contribution.onPod` — **what becomes of a pod, as seen.**

Main results:

* `Sidecar.Contribution.view_specification` — what is seen of the specification after an injection;
* `Sidecar.Contribution.accepts_inject` — the document still has the shape of a pod;
* `Sidecar.Contribution.ofJson?_inject` — **the pod that is read after an injection**;
* `Sidecar.Engine.exists_onPod_of_admit?` — what an applied patch leaves behind.
-/

import Sidecar.Proofs.Breaker.Runs
import Sidecar.Proofs.Cluster.Shaped
import Sidecar.Proofs.Injection.Presence

set_option autoImplicit false

namespace Sidecar

open Cluster Injection Json

/-! ### Members -/

namespace Json

/-- The member that was set, or else what was there. -/
theorem member?_withMember_same {json : Json} (h : ∃ members, json = .obj members) (name : String)
    (value : Option Json) :
    (json.withMember name value).member? name = value.or (json.member? name) := by
  obtain ⟨members, rfl⟩ := h
  rw [member?_withMember, if_pos rfl, member?]

/-- An object with a member set is one. -/
theorem isObject_withMember {json : Json} (h : ∃ members, json = .obj members) (name : String)
    (value : Option Json) : ∃ members, json.withMember name value = .obj members := by
  obtain ⟨members, rfl⟩ := h
  exact exists_members_withMember members name value

/-- The members of an object that is made are those given, if their names differ. -/
theorem member?_object {members : List (String × Option Json)}
    (hn : (members.map (·.1)).Nodup) (name : String) :
    (object members).member? name = (Entries.find? name members).join := by
  change Entries.find? name (Entries.ofList (members.filterMap fun e => e.2.map (e.1, ·))) = _
  rw [Entries.find?_ofList]
  induction members with
  | nil => rfl
  | cons e members ih =>
      obtain ⟨k, v⟩ := e
      obtain ⟨hk, hn⟩ := List.nodup_cons.1 hn
      have hlast : Entries.find? name (((k, v) :: members).filterMap fun e =>
            e.2.map (e.1, ·)).reverse
          = (Entries.find? name members).join.or (if k = name then v else none) := by
        rw [← ih hn]
        cases v with
        | none => simp
        | some x => simp [Entries.find?_append, Entries.find?_cons]
      rw [hlast, Entries.find?_cons]
      split
      · next heq =>
        -- the name stands at the head alone
        have hnone : Entries.find? name members = none := by
          cases hfind : Entries.find? name members with
          | none => rfl
          | some x => exact absurd (List.mem_map.2 ⟨_, Entries.mem_of_find? hfind, heq.symm⟩) hk
        rw [hnone]
        rfl
      · rw [Option.or_none]

end Json

/-! ### Maps -/

namespace StringMap

/-- A map that may be absent, overridden by the entries of another if that has any. -/
def onto (desired : StringMap) (existing : Option StringMap) : Option StringMap :=
  if desired.isEmpty then existing else some ((existing.getD .empty).override desired)

/-- What is found then is what the other has, and else what was there. -/
theorem find?_onto (desired : StringMap) (existing : Option StringMap) (name : String) :
    (desired.onto existing).bind (·.find? name)
      = (desired.find? name).or (existing.bind (·.find? name)) := by
  unfold onto
  split
  · next h =>
    have hnone : desired.find? name = none := by
      rw [find?, List.isEmpty_iff.1 h, Entries.find?_nil]
    rw [hnone, Option.none_or]
  · rw [Option.bind_some, find?_override]
    cases existing with
    | none => rfl
    | some m => rfl

end StringMap

namespace Cluster

/-! ### What is seen of members that have been set -/

namespace View

variable {after json : Json} {name : String}

/-- The items of a list that has grown. -/
theorem items_of_grown {change : Json → Json} {new : List Json}
    (h : after.member? name = (grown name change new json).or (json.member? name)) :
    items name after = (items name json).map change ++ new := by
  unfold grown at h
  split at h
  · next list heq =>
    rw [Option.some_or] at h
    rw [items, h, items, heq]
  · next hno =>
    have hnone : items name json = [] := by
      unfold items
      split
      · next list heq => exact absurd heq (hno list)
      · rfl
    rw [hnone, List.map_nil, List.nil_append]
    split at h
    · next hempty =>
      rw [Option.none_or] at h
      rw [items_congr h, hnone, List.isEmpty_iff.1 hempty]
    · rw [Option.some_or] at h
      rw [items, h]

/-- The map that has been merged into. -/
theorem map?_of_merged {desired : StringMap}
    (h : after.member? name = (merged name desired json).or (json.member? name)) :
    map? name after = desired.onto (map? name json) := by
  unfold merged at h
  unfold StringMap.onto
  split at h
  · next hempty => rw [if_pos hempty, map?_congr (h.trans (Option.none_or ..))]
  · next hempty => rw [if_neg hempty, map?_of_member? (h.trans (Option.some_or ..))]

end View

namespace Shape

variable {item : Shape} {json : Json} {name : String}

/-- A list that grows keeps its shape if the new items have that of the others, and these keep it
when they are changed. -/
theorem acceptsMember_grown {change : Json → Json} {new : List Json}
    (h : (Shape.list item).acceptsMember (json.member? name) = true)
    (hchange : ∀ x, item.accepts x = true → item.accepts (change x) = true)
    (hnew : ∀ x ∈ new, item.accepts x = true) :
    (Shape.list item).acceptsMember (grown name change new json) = true := by
  unfold grown
  split
  · next items heq =>
    rw [heq] at h
    refine acceptsMember_some (accepts_list_iff.2 fun x hx => ?_)
    rcases List.mem_append.1 hx with hx | hx
    · obtain ⟨y, hy, rfl⟩ := List.mem_map.1 hx
      exact hchange y (accepts_list_iff.1 h y hy)
    · exact hnew x hx
  · split
    · rfl
    · exact acceptsMember_some (accepts_list_iff.2 hnew)

theorem acceptsMember_merged (name : String) (desired : StringMap) (json : Json) :
    textMap.acceptsMember (merged name desired json) = true := by
  unfold merged
  split
  · rfl
  · exact acceptsMember_some (accepts_textMap_stringMap _)

/-- Items that are written by `toJson` have the shape that all have that it writes. -/
theorem accepts_of_mem_map {α : Type} {toJson : α → Json} (h : ∀ a, item.accepts (toJson a) = true)
    (items : List α) : ∀ x ∈ items.map toJson, item.accepts x = true := by
  intro x hx
  obtain ⟨a, _, rfl⟩ := List.mem_map.1 hx
  exact h a

end Shape

/-! ### What is seen of the cluster's objects -/

/-- A volume is seen by its name. -/
theorem Volume.text_name_toJson (v : Volume) : View.text "name" v.toJson = v.name := by
  rw [View.text, View.text?, toJson, member?_object (by simp)]
  rfl

/-- A mount is seen by its path. -/
theorem VolumeMount.text_mountPath_toJson (m : VolumeMount) :
    View.text "mountPath" m.toJson = m.mountPath := by
  rw [View.text, View.text?, toJson, member?_object (by simp)]
  rfl

namespace PodContainer

/-- What is seen of a container that a rule brings. -/
def ofContainer (k : Container) : PodContainer :=
  ⟨k.name, (k.volumeMounts.getD []).map (·.mountPath)⟩

theorem view_toJson (k : Container) : PodContainer.view k.toJson = ofContainer k := by
  have hname : k.toJson.member? "name" = some (.str k.name) := by
    rw [Container.toJson, member?_object (by simp)]
    rfl
  have hmounts : k.toJson.member? "volumeMounts"
      = k.volumeMounts.map (objects VolumeMount.toJson) := by
    rw [Container.toJson, member?_object (by simp)]
    rfl
  have hitems : View.items "volumeMounts" k.toJson = (k.volumeMounts.getD []).map (·.toJson) := by
    rw [View.items, hmounts]
    cases k.volumeMounts with
    | none => rfl
    | some mounts => rfl
  rw [view, View.text, View.text?, hname, hitems, List.map_map]
  simp only [ofContainer, Option.getD_some, PodContainer.mk.injEq, true_and]
  exact List.map_congr_left fun m _ => m.text_mountPath_toJson

/-- The container with mounts at the paths where it has none. -/
def mount (mounts : List VolumeMount) (k : PodContainer) : PodContainer :=
  { k with
    mountPaths := k.mountPaths
      ++ (fresh (·.mountPath) k.mountPaths mounts).map (·.mountPath) }

/-- It mounts where it did and where the mounts are wanted. -/
theorem mem_mountPaths_mount {mounts : List VolumeMount} {k : PodContainer} {path : String} :
    path ∈ (k.mount mounts).mountPaths
      ↔ path ∈ k.mountPaths ∨ path ∈ mounts.map (·.mountPath) := by
  rw [mount, List.mem_append, mem_map_fresh_iff]
  constructor
  · rintro (h | ⟨h, _⟩)
    · exact .inl h
    · exact .inr h
  · rintro (h | h)
    · exact .inl h
    · rcases Classical.em (path ∈ k.mountPaths) with hold | hnew
      · exact .inl hold
      · exact .inr ⟨h, hnew⟩

end PodContainer

/-- What a pod's affinity says if nodes are demanded of a pod that demands none. -/
def PodAffinity.demand (required : NodeSelector) : PodAffinity → PodAffinity
  | .nodes (n + 1) => .nodes (n + 1)
  | _ => .nodes required.nodeSelectorTerms.length

end Cluster

namespace Contribution

/-! ### One container, the affinity -/

section Parts

variable (mounts : List VolumeMount) {json : Json}

/-- What is seen of a container that is mounted into. -/
theorem view_mounted (h : ∃ members, json = .obj members) :
    PodContainer.view (mounted mounts json) = (PodContainer.view json).mount mounts := by
  have hname : (mounted mounts json).member? "name" = json.member? "name" := by simp [mounted]
  have hitems := View.items_of_grown (member?_withMember_same h "volumeMounts" (grown "volumeMounts"
    id ((fresh (·.mountPath) (PodContainer.view json).mountPaths mounts).map (·.toJson)) json))
  rw [PodContainer.view, mounted, hitems, PodContainer.mount]
  simp only [PodContainer.mk.injEq]
  constructor
  · rw [View.text, View.text?, ← mounted, hname]
    rfl
  · rw [List.map_append, List.map_id, List.map_map]
    exact congrArg _ (List.map_congr_left fun m _ => m.text_mountPath_toJson)

theorem accepts_mounted (h : Shape.container.accepts json = true) :
    Shape.container.accepts (mounted mounts json) = true := by
  have hlist : (Shape.list Shape.volumeMount).acceptsMember (json.member? "volumeMounts") = true :=
    Shape.acceptsMember_of_accepts h (by simp [Shape.containerFields])
  have hgrown := Shape.acceptsMember_grown hlist (fun _ hx => hx) (Shape.accepts_of_mem_map
    VolumeMount.accepts_toJson (fresh (·.mountPath) (PodContainer.view json).mountPaths mounts))
  refine Shape.accepts_withMember h ?_
  simp only [Shape.containerFields, List.forall_mem_cons, String.reduceEq, false_implies, true_and,
    true_implies, List.not_mem_nil, implies_true, and_true]
  exact hgrown

variable (required : NodeSelector)

/-- An object under a name, or one without members. -/
theorem isObject_getD (name : String) (json : Json) :
    ∃ members, (View.object? name json).getD (.obj []) = .obj members := by
  cases hfound : View.object? name json with
  | none => exact ⟨[], rfl⟩
  | some value => exact (View.object?_eq_some_iff.1 hfound).2

/-- What is seen of the affinity once nodes are demanded. -/
theorem view_demanded {after : Json}
    (h : after.member? "affinity" = (demanded required json).or (json.member? "affinity")) :
    PodAffinity.view after = (PodAffinity.view json).demand required := by
  unfold demanded at h
  split at h
  · next n hview =>
    rw [Option.none_or] at h
    rw [view_affinity_congr h, hview, PodAffinity.demand]
  · next hview =>
    -- three objects, one in the other, have been set
    rw [Option.some_or] at h
    have haffinity := isObject_getD "affinity" json
    have hnodes := isObject_getD "nodeAffinity" ((View.object? "affinity" json).getD (.obj []))
    have hselector : ∃ members, required.toJson = .obj members := ⟨_, rfl⟩
    have houter := View.object?_eq_some_iff.2 ⟨h, isObject_withMember haffinity _ _⟩
    have hinner := View.object?_eq_some_iff.2
      ⟨(member?_withMember_same haffinity "nodeAffinity" _).trans (Option.some_or ..),
        isObject_withMember hnodes requiredNodes (some required.toJson)⟩
    have hlast := View.object?_eq_some_iff.2
      ⟨(member?_withMember_same hnodes requiredNodes _).trans (Option.some_or ..), hselector⟩
    have hterms : (View.items "nodeSelectorTerms" required.toJson).length
        = required.nodeSelectorTerms.length := by
      rw [View.items, NodeSelector.toJson, member?_object (by simp)]
      exact List.length_map _
    have hdemand : (PodAffinity.view json).demand required
        = .nodes required.nodeSelectorTerms.length := by
      unfold PodAffinity.demand
      split
      · next n heq => exact absurd heq (hview n)
      · rfl
    rw [hdemand]
    simp only [PodAffinity.view, houter, hinner, hlast, hterms]

theorem acceptsMember_demanded
    (h : Shape.affinity.acceptsMember (json.member? "affinity") = true) :
    Shape.affinity.acceptsMember (demanded required json) = true := by
  -- an object is looked up below a member of its shape, or stands for an absent one
  have hobject : ∀ {fields : List (String × Shape)} {name : String} {json : Json},
      (Shape.object fields).acceptsMember (json.member? name) = true →
      (Shape.object fields).accepts ((View.object? name json).getD (.obj [])) = true := by
    intro fields name json h
    cases hfound : View.object? name json with
    | none => exact Shape.accepts_object_nil
    | some value =>
        obtain ⟨hmember, members, rfl⟩ := View.object?_eq_some_iff.1 hfound
        exact Shape.accepts_of_acceptsMember_obj h hmember
  unfold demanded
  split
  · rfl
  · have haffinity := hobject h
    have hnodes : Shape.nodeAffinity.acceptsMember
        (((View.object? "affinity" json).getD (.obj [])).member? "nodeAffinity") = true :=
      Shape.acceptsMember_of_accepts haffinity (by simp)
    have hset : Shape.nodeAffinity.accepts ((View.object? "nodeAffinity"
        ((View.object? "affinity" json).getD (.obj []))).getD (.obj []) |>.withMember requiredNodes
          (some required.toJson)) = true :=
      Shape.accepts_withMember (hobject hnodes)
        (by simpa [requiredNodes] using Shape.acceptsMember_some required.accepts_toJson)
    refine Shape.acceptsMember_some (Shape.accepts_withMember haffinity ?_)
    simpa using Shape.acceptsMember_some hset

end Parts

/-! ### The specification -/

variable (c : Contribution)

/-- **What becomes of a specification, as seen.** -/
def onSpec (spec : PodSpec) : PodSpec :=
  { volumes := spec.volumes ++ (fresh (·.name) spec.volumes c.volumes).map (·.name)
    initContainers := spec.initContainers.map (·.mount c.volumeMounts)
    containers := spec.containers.map (·.mount c.volumeMounts)
      ++ (fresh (·.name) (spec.containers.map (·.name)) c.containers).map .ofContainer
    affinity := c.required.elim spec.affinity spec.affinity.demand
    tolerations := spec.tolerations ++ fresh id spec.tolerations c.tolerations }

/-- **What becomes of a pod, as seen.** -/
def onPod (bookkeeping : StringMap) (pod : Pod) : Pod :=
  { labels := c.labels.onto pod.labels
    annotations := (c.annotations.override bookkeeping).onto pod.annotations
    spec := pod.spec.map c.onSpec }

theorem spec_onPod {pod : Pod} {spec : PodSpec} (h : pod.spec = some spec)
    (bookkeeping : StringMap) : (c.onPod bookkeeping pod).spec = some (c.onSpec spec) := by
  rw [onPod, h, Option.map_some]

section Specification

variable {spec : Json}

/-- The members of a specification after an injection are those that were set, or what was there. -/
theorem member?_specification (h : ∃ members, spec = .obj members) :
    (c.specification spec).member? "volumes" = (c.volumesAfter spec).or (spec.member? "volumes")
      ∧ (c.specification spec).member? "initContainers"
        = (c.initContainersAfter spec).or (spec.member? "initContainers")
      ∧ (c.specification spec).member? "containers"
        = (c.containersAfter spec).or (spec.member? "containers")
      ∧ (c.specification spec).member? "affinity"
        = (c.affinityAfter spec).or (spec.member? "affinity")
      ∧ (c.specification spec).member? "tolerations"
        = (c.tolerationsAfter spec).or (spec.member? "tolerations") := by
  have h1 := isObject_withMember h "volumes" (c.volumesAfter spec)
  have h2 := isObject_withMember h1 "initContainers" (c.initContainersAfter spec)
  have h3 := isObject_withMember h2 "containers" (c.containersAfter spec)
  have h4 := isObject_withMember h3 "affinity" (c.affinityAfter spec)
  simp [specification, member?_withMember_same h, member?_withMember_same h1,
    member?_withMember_same h2, member?_withMember_same h3, member?_withMember_same h4]

/-- What is seen of a list of containers that are mounted into. -/
theorem map_view_mounted (mounts : List VolumeMount) {items : List Json}
    (hitems : ∀ x ∈ items, ∃ members, x = .obj members) :
    (items.map (mounted mounts)).map PodContainer.view
      = (items.map PodContainer.view).map (·.mount mounts) := by
  rw [List.map_map, List.map_map]
  exact List.map_congr_left fun x hx => view_mounted mounts (hitems x hx)

/-- What is seen of a list of objects as they are written. -/
theorem map_view_toJson {α β : Type} {toJson : α → Json} {view : Json → β} {seen : α → β}
    (h : ∀ a, view (toJson a) = seen a) (items : List α) :
    (items.map toJson).map view = items.map seen := by
  rw [List.map_map]
  exact List.map_congr_left fun a _ => h a

/-- **What is seen of a specification after an injection.** -/
theorem view_specification (h : Shape.podSpec.accepts spec = true) :
    PodSpec.view (c.specification spec) = c.onSpec (PodSpec.view spec) := by
  obtain ⟨hvolumes, hinit, hcontainers, haffinity, htolerations⟩ :=
    c.member?_specification (Shape.exists_members_of_accepts h)
  have hvolumes' : (View.items "volumes" (c.specification spec)).map (View.text "name")
      = (c.onSpec (PodSpec.view spec)).volumes := by
    rw [View.items_of_grown hvolumes, List.map_append, List.map_id,
      map_view_toJson Volume.text_name_toJson]
    rfl
  have hinit' : (View.items "initContainers" (c.specification spec)).map PodContainer.view
      = (c.onSpec (PodSpec.view spec)).initContainers := by
    rw [View.items_of_grown hinit, List.append_nil,
      map_view_mounted _ fun x hx => PodSpec.isObject_container h (by simp) hx]
    rfl
  have hcontainers' : (View.items "containers" (c.specification spec)).map PodContainer.view
      = (c.onSpec (PodSpec.view spec)).containers := by
    rw [View.items_of_grown hcontainers, List.map_append,
      map_view_mounted _ fun x hx => PodSpec.isObject_container h (by simp) hx,
      map_view_toJson PodContainer.view_toJson]
    rfl
  have haffinity' : PodAffinity.view (c.specification spec)
      = (c.onSpec (PodSpec.view spec)).affinity := by
    rw [affinityAfter] at haffinity
    rw [onSpec]
    cases hrequired : c.required with
    | none =>
        rw [hrequired] at haffinity
        exact view_affinity_congr (haffinity.trans (Option.none_or ..))
    | some required =>
        rw [hrequired] at haffinity
        exact view_demanded required haffinity
  have htolerations' : (View.items "tolerations" (c.specification spec)).map Toleration.view
      = (c.onSpec (PodSpec.view spec)).tolerations := by
    rw [View.items_of_grown htolerations, List.map_append, List.map_id,
      map_view_toJson Toleration.view_toJson, List.map_id']
    rfl
  rw [PodSpec.view, hvolumes', hinit', hcontainers', haffinity', htolerations']

/-- **A specification keeps its shape.** -/
theorem accepts_specification (h : Shape.podSpec.accepts spec = true) :
    Shape.podSpec.accepts (c.specification spec) = true := by
  have hvolumes : (Shape.list .volume).acceptsMember (c.volumesAfter spec) = true :=
    Shape.acceptsMember_grown (Shape.acceptsMember_of_accepts h (by simp)) (fun _ hx => hx)
      (Shape.accepts_of_mem_map Volume.accepts_toJson _)
  have hinit : (Shape.list .container).acceptsMember (c.initContainersAfter spec) = true :=
    Shape.acceptsMember_grown (Shape.acceptsMember_of_accepts h (by simp))
      (fun _ hx => accepts_mounted _ hx) (by simp)
  have hcontainers : (Shape.list .container).acceptsMember (c.containersAfter spec) = true :=
    Shape.acceptsMember_grown (Shape.acceptsMember_of_accepts h (by simp))
      (fun _ hx => accepts_mounted _ hx) (Shape.accepts_of_mem_map Container.accepts_toJson _)
  have haffinity : Shape.affinity.acceptsMember (c.affinityAfter spec) = true := by
    unfold affinityAfter
    cases c.required with
    | none => rfl
    | some required =>
        exact acceptsMember_demanded required (Shape.acceptsMember_of_accepts h (by simp))
  have htolerations : (Shape.list .toleration).acceptsMember (c.tolerationsAfter spec) = true :=
    Shape.acceptsMember_grown (Shape.acceptsMember_of_accepts h (by simp)) (fun _ hx => hx)
      (Shape.accepts_of_mem_map Toleration.accepts_toJson _)
  -- each member that is set stands in the shape once
  refine Shape.accepts_withMember (Shape.accepts_withMember (Shape.accepts_withMember
    (Shape.accepts_withMember (Shape.accepts_withMember h ?_) ?_) ?_) ?_) ?_
  · simpa using hvolumes
  · simpa using hinit
  · simpa using hcontainers
  · simpa using haffinity
  · simpa using htolerations

end Specification

/-! ### The metadata and the whole -/

section Whole

variable {document spec data : Json} (bookkeeping : StringMap)

/-- **What is seen of the metadata after an injection.** -/
theorem map?_metadata (h : ∃ members, data = .obj members) :
    View.map? "labels" (c.metadata bookkeeping data) = c.labels.onto (View.map? "labels" data)
      ∧ View.map? "annotations" (c.metadata bookkeeping data)
        = (c.annotations.override bookkeeping).onto (View.map? "annotations" data) := by
  have h1 := isObject_withMember h "labels" (merged "labels" c.labels data)
  constructor
  · refine View.map?_of_merged ?_
    rw [metadata, member?_withMember_of_ne _ (by simp), member?_withMember_same h]
  · refine View.map?_of_merged ?_
    rw [metadata, member?_withMember_same h1, member?_withMember_of_ne _ (by simp)]

theorem accepts_metadata (h : Shape.objectMeta.accepts data = true) :
    Shape.objectMeta.accepts (c.metadata bookkeeping data) = true := by
  have hmerged := Shape.acceptsMember_merged
  have h1 : Shape.objectMeta.accepts
      (data.withMember "labels" (merged "labels" c.labels data)) = true :=
    Shape.accepts_withMember h (by simpa using hmerged _ _ _)
  exact Shape.accepts_withMember h1 (by simpa using hmerged _ _ _)

/-- The metadata of an object is one after an injection. -/
theorem isObject_metadata (h : ∃ members, data = .obj members) :
    ∃ members, c.metadata bookkeeping data = .obj members :=
  isObject_withMember (isObject_withMember h _ _) _ _

theorem isObject_specification (h : ∃ members, spec = .obj members) :
    ∃ members, c.specification spec = .obj members :=
  isObject_withMember (isObject_withMember (isObject_withMember (isObject_withMember
    (isObject_withMember h _ _) _ _) _ _) _ _) _ _

/-- The two parts of a document after an injection are what becomes of them. -/
theorem member?_inject (hspec : document.member? "spec" = some spec)
    (hdata : document.member? "metadata" = some data) :
    (c.inject bookkeeping document).member? "spec" = some (c.specification spec)
      ∧ (c.inject bookkeeping document).member? "metadata" = some (c.metadata bookkeeping data) := by
  have h := exists_members_of_member? hspec
  have h1 := isObject_withMember h "spec" (some (c.specification spec))
  rw [inject, hspec, hdata, Option.map_some, Option.map_some]
  constructor
  · rw [member?_withMember_of_ne _ (by simp), member?_withMember_same h, Option.some_or]
  · rw [member?_withMember_same h1, Option.some_or]

/-- **The document has the shape of a pod after an injection.** -/
theorem accepts_inject (hshape : Shape.pod.accepts document = true)
    (hspec : document.member? "spec" = some spec) (hobject : ∃ members, spec = .obj members)
    {members : List (String × Json)} (hdata : document.member? "metadata" = some (.obj members)) :
    Shape.pod.accepts (c.inject bookkeeping document) = true := by
  obtain ⟨fields, rfl⟩ := hobject
  have hspec' := Shape.acceptsMember_some (c.accepts_specification (Pod.accepts_spec hshape hspec))
  have hmetadata' := Shape.acceptsMember_some
    (c.accepts_metadata bookkeeping (Pod.accepts_metadata hshape hdata))
  have h1 : Shape.pod.accepts (document.withMember "spec" (some (c.specification (.obj fields))))
      = true := Shape.accepts_withMember hshape (by simpa using hspec')
  rw [inject, hspec, hdata]
  exact Shape.accepts_withMember h1 (by simpa using hmetadata')

/-- **The pod that is read after an injection** is what becomes of the pod that was read before. -/
theorem ofJson?_inject {pod : Pod} (hpod : Pod.ofJson? document = some pod) {view : PodSpec}
    (hview : pod.spec = some view) {members : List (String × Json)}
    (hdata : document.member? "metadata" = some (.obj members)) :
    Pod.ofJson? (c.inject bookkeeping document) = some (c.onPod bookkeeping pod) := by
  obtain ⟨hshape, rfl⟩ := (Pod.ofJson?_eq_some_iff document pod).1 hpod
  obtain ⟨spec, hspec, rfl⟩ := Option.map_eq_some_iff.1 hview
  obtain ⟨hmember, fields, rfl⟩ := View.object?_eq_some_iff.1 hspec
  have hpodSpec := Pod.accepts_spec hshape hmember
  obtain ⟨hspec', hdata'⟩ := c.member?_inject bookkeeping hmember hdata
  have hafter := View.object?_eq_some_iff.2 ⟨hspec', c.isObject_specification ⟨fields, rfl⟩⟩
  have hdataAfter := View.object?_eq_some_iff.2
    ⟨hdata', c.isObject_metadata bookkeeping ⟨members, rfl⟩⟩
  have hdataBefore := View.object?_eq_some_iff.2 ⟨hdata, members, rfl⟩
  obtain ⟨hlabels, hannotations⟩ := c.map?_metadata bookkeeping ⟨members, rfl⟩
  refine (Pod.ofJson?_eq_some_iff _ _).2
    ⟨c.accepts_inject bookkeeping hshape hmember ⟨fields, rfl⟩ hdata, ?_⟩
  simp only [onPod, Pod.view, hafter, hdataAfter, hspec, hdataBefore, Option.getD_some,
    Option.map_some, hlabels, hannotations, c.view_specification hpodSpec]

end Whole

end Contribution

namespace Engine

variable {registry : Registry} {keyPrefix : String}

/-- **What an applied patch leaves behind**: the document is canonical as before, and the pod that
is read from it is the one before with the contribution of the rule and what the breaker notes. -/
theorem exists_onPod_of_admit? (hs : registry.Sound) {before after : Json}
    (hc : before.IsCanonical) {fingerprint : String} {now : Timestamp}
    (h : admit? ⟨registry, keyPrefix⟩ fingerprint now before = some after) :
    after.IsCanonical ∧ ∃ r ∈ registry.rules, r.fingerprint = fingerprint
      ∧ Breaker.count ⟨keyPrefix, r⟩ before < r.rule.maxIterations
      ∧ ∃ c, r.rule.contribution = .ok c
      ∧ ∃ pod spec, Pod.ofJson? before = some pod ∧ pod.spec = some spec
      ∧ Pod.ofJson? after = some (c.onPod
        (Breaker.bookkeeping ⟨keyPrefix, r⟩ (Breaker.count ⟨keyPrefix, r⟩ before) now) pod) := by
  obtain ⟨r, hr, hfingerprint, hlt, c, hcontent, pod, spec, members, hpod, hspec, hdata, rfl⟩ :=
    exists_inject_of_admit? hs hc h
  exact ⟨c.isCanonical_inject _ hc, r, hr, hfingerprint, hlt, c, hcontent, pod, spec, hpod, hspec,
    c.ofJson?_inject _ hpod hspec hdata⟩

end Engine

end Sidecar
