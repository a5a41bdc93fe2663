/-
**What the shape of a pod guarantees.**

The view of a document looks up members and passes over what it does not expect.  Of a document
with the shape of a pod nothing is passed over that matters: its specification and its containers
are objects, and a map of texts is seen with all its entries, so that what the view shows of it is
what stands there.

Main results:

* `Sidecar.Cluster.Shape.acceptsMember_of_accepts` — what an object's shape says about one member;
* `Sidecar.Cluster.Pod.ofJson?_eq_some_iff` — which documents are pods, and what is seen of them;
* `Sidecar.Cluster.View.member?_of_map?`, `Sidecar.Cluster.View.map?_of_member?` — **the map of texts
  that is seen is the one that stands there**;
* `Sidecar.Cluster.Pod.member?_metadata`, `Sidecar.Cluster.Pod.isCanonicalObject_container` — the
  labels, annotations and containers of a pod.
-/

import Sidecar.Cluster.Pod
import Sidecar.Proofs.Json.Canonical

set_option autoImplicit false

namespace Sidecar

/-- Entries in order are the entries of themselves. -/
theorem Entries.ofList_of_sorted {α : Type} {entries : List (String × α)} (h : Sorted entries) :
    ofList entries = entries :=
  ext_find? (sorted_ofList entries) h fun name => by rw [find?_ofList, find?_reverse h]

namespace Cluster

open Json

namespace Shape

variable {fields : List (String × Shape)} {item shape : Shape} {json : Json} {name : String}

/-- What is accepted as an object is one. -/
theorem exists_members_of_accepts (h : accepts (.object fields) json = true) :
    ∃ members, json = .obj members := by
  cases json with
  | obj members => exact ⟨members, rfl⟩
  | _ => simp [accepts] at h

/-- What an object's shape says about one member. -/
theorem acceptsMember_of_accepts (h : accepts (.object fields) json = true)
    (hmem : (name, shape) ∈ fields) : shape.acceptsMember (json.member? name) = true := by
  obtain ⟨members, rfl⟩ := exists_members_of_accepts h
  exact (accepts_object_iff fields members).1 h _ hmem

/-- Where an object may stand, there is one, or null, or nothing. -/
theorem acceptsMember_object {member : Option Json}
    (h : (Shape.object fields).acceptsMember member = true) :
    member = none ∨ member = some .null ∨ ∃ members, member = some (.obj members) := by
  cases member with
  | none => exact .inl rfl
  | some value =>
      cases value with
      | null => exact .inr (.inl rfl)
      | obj members => exact .inr (.inr ⟨members, rfl⟩)
      | _ => simp [acceptsMember, accepts] at h

/-- A member that is an object is accepted as what it is. -/
theorem accepts_of_acceptsMember_obj {members : List (String × Json)} {member : Option Json}
    (h : shape.acceptsMember member = true) (hm : member = some (.obj members)) :
    accepts shape (.obj members) = true := by
  rw [hm] at h
  exact h

/-- The items of a list that is accepted are accepted. -/
theorem accepts_of_mem_items (h : (Shape.list item).acceptsMember (json.member? name) = true)
    {x : Json} (hx : x ∈ View.items name json) : accepts item x = true := by
  unfold View.items at hx
  split at hx
  · next items heq =>
    rw [heq] at h
    have hall : (items.all fun x => accepts item x) = true := by
      simpa [acceptsMember, accepts] using h
    exact List.all_eq_true.1 hall x hx
  · cases hx

end Shape

/-- Which documents are pods, and what is seen of them. -/
theorem Pod.ofJson?_eq_some_iff (json : Json) (pod : Pod) :
    Pod.ofJson? json = some pod ↔ Shape.pod.accepts json = true ∧ pod = Pod.view json := by
  unfold ofJson?
  split
  · next h => simp [h, eq_comm]
  · next h => simp [h]

namespace View

/-! ### What is seen of one member -/

section Members

variable {json origin : Json} {name : String}

theorem items_congr (h : json.member? name = origin.member? name) :
    items name json = items name origin := by
  rw [items, h]
  rfl

theorem object?_congr (h : json.member? name = origin.member? name) :
    object? name json = object? name origin := by
  rw [object?, h]
  rfl

theorem map?_congr (h : json.member? name = origin.member? name) :
    map? name json = map? name origin := by
  rw [map?, h]
  rfl

theorem object?_eq_some_iff {value : Json} :
    object? name json = some value
      ↔ json.member? name = some value ∧ ∃ members, value = .obj members := by
  unfold object?
  split
  · next members heq =>
    rw [heq]
    constructor
    · intro h
      exact ⟨h, members, (Option.some.inj h).symm⟩
    · intro h
      exact h.1
  · next hno =>
    constructor
    · intro h
      cases h
    · rintro ⟨h, members, rfl⟩
      exact absurd h (hno members)

end Members

/-- The texts of members that are all texts. -/
theorem exists_texts_of_accepts {members : List (String × Json)}
    (h : Shape.textMap.accepts (.obj members) = true) :
    ∃ texts : List (String × String), members = texts.map fun e => (e.1, .str e.2) := by
  have hall : (members.all fun e => Shape.accepts .text e.2) = true := by
    simpa [Shape.textMap, Shape.accepts] using h
  clear h
  induction members with
  | nil => exact ⟨[], rfl⟩
  | cons e members ih =>
      obtain ⟨k, v⟩ := e
      rw [List.all_cons, Bool.and_eq_true] at hall
      obtain ⟨texts, rfl⟩ := ih hall.2
      cases v with
      | str s => exact ⟨(k, s) :: texts, rfl⟩
      | _ => simp [Shape.accepts] at hall

/-- Of members that are all texts, in order, all are seen. -/
theorem map?_of_texts {json : Json} {name : String} {texts : List (String × String)}
    (hsorted : Entries.Sorted texts)
    (h : json.member? name = some (.obj (texts.map fun e => (e.1, .str e.2)))) :
    map? name json = some ⟨texts, hsorted⟩ := by
  rw [map?, h]
  simp only [StringMap.ofList, Option.some.injEq, StringMap.mk.injEq, List.filterMap_map]
  -- each of the texts is seen as it is
  exact (congrArg Entries.ofList List.filterMap_some).trans (Entries.ofList_of_sorted hsorted)

/-- **A map of texts that is seen stands there.** -/
theorem member?_of_map? {json : Json} {name : String} {m : StringMap} (hc : json.IsCanonical)
    (hshape : Shape.textMap.acceptsMember (json.member? name) = true)
    (h : map? name json = some m) : json.member? name = some (stringMap m) := by
  cases hmember : json.member? name with
  | none => simp [map?, hmember] at h
  | some value =>
      cases value with
      | obj members =>
          rw [hmember] at hshape
          -- all members are texts and in order, so seeing them drops and moves none
          obtain ⟨texts, rfl⟩ := exists_texts_of_accepts hshape
          have hmembers : (texts.map fun e => (e.1, Json.str e.2)).Pairwise fun a b => a.1 < b.1 :=
            (isCanonical_obj_iff.1 (hc.member? hmember)).1
          rw [List.pairwise_map] at hmembers
          rw [map?_of_texts hmembers hmember] at h
          obtain rfl := Option.some.inj h
          rfl
      | _ => simp [map?, hmember] at h

/-- **A map of texts that stands there is seen.** -/
theorem map?_of_member? {json : Json} {name : String} {m : StringMap}
    (h : json.member? name = some (stringMap m)) : map? name json = some m :=
  map?_of_texts m.sorted h

/-- The items of a list in a canonical document are canonical. -/
theorem isCanonical_of_mem_items {json x : Json} {name : String} (hc : json.IsCanonical)
    (hx : x ∈ items name json) : x.IsCanonical := by
  unfold items at hx
  split at hx
  · next list heq => exact isCanonical_arr_iff.1 (hc.member? heq) x hx
  · cases hx

end View

/-! ### Pods -/

/-- The specification of a pod has its shape. -/
theorem Pod.accepts_spec {document : Json} (hshape : Shape.pod.accepts document = true)
    {members : List (String × Json)} (h : document.member? "spec" = some (.obj members)) :
    Shape.podSpec.accepts (.obj members) = true :=
  Shape.accepts_of_acceptsMember_obj (Shape.acceptsMember_of_accepts hshape (by simp)) h

/-- So have the metadata. -/
theorem Pod.accepts_metadata {document : Json} (hshape : Shape.pod.accepts document = true)
    {members : List (String × Json)} (h : document.member? "metadata" = some (.obj members)) :
    Shape.objectMeta.accepts (.obj members) = true :=
  Shape.accepts_of_acceptsMember_obj (Shape.acceptsMember_of_accepts hshape (by simp)) h

/-- The containers of a specification are objects. -/
theorem PodSpec.isObject_container {spec x : Json} (h : Shape.podSpec.accepts spec = true)
    {name : String} (hname : name ∈ ["initContainers", "containers"])
    (hx : x ∈ View.items name spec) : ∃ members, x = .obj members := by
  have hlist : (Shape.list Shape.container).acceptsMember (spec.member? name) = true := by
    refine Shape.acceptsMember_of_accepts h ?_
    simp only [List.mem_cons, List.not_mem_nil, or_false] at hname
    rcases hname with rfl | rfl
    · simp
    · simp
  exact Shape.exists_members_of_accepts (Shape.accepts_of_mem_items hlist hx)

section Pods

variable {document : Json} (hc : document.IsCanonical) (hshape : Shape.pod.accepts document = true)

include hc hshape

/-- The labels and annotations that are seen of a pod stand there. -/
theorem Pod.member?_metadata {members : List (String × Json)}
    (hdata : document.member? "metadata" = some (.obj members)) {name : String}
    (hname : name ∈ ["labels", "annotations"]) {m : StringMap}
    (hm : View.map? name (.obj members) = some m) :
    (obj members).member? name = some (stringMap m) := by
  have hmetadata := Pod.accepts_metadata hshape hdata
  have hmap : Shape.textMap.acceptsMember ((obj members).member? name) = true := by
    refine Shape.acceptsMember_of_accepts hmetadata ?_
    simp only [List.mem_cons, List.not_mem_nil, or_false] at hname
    rcases hname with rfl | rfl
    · simp
    · simp
  exact View.member?_of_map? (hc.member? hdata) hmap hm

/-- The containers of a pod are objects. -/
theorem Pod.isCanonicalObject_container {spec x : Json}
    (hspec : document.member? "spec" = some spec) (hobj : ∃ members, spec = .obj members)
    {name : String} (hname : name ∈ ["initContainers", "containers"])
    (hx : x ∈ View.items name spec) :
    x.IsCanonicalObject := by
  refine ⟨View.isCanonical_of_mem_items (hc.member? hspec) hx, ?_⟩
  obtain ⟨members, rfl⟩ := hobj
  exact PodSpec.isObject_container (Pod.accepts_spec hshape hspec) hname hx

end Pods

end Cluster

end Sidecar
