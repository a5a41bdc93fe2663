/-
**Pods that are alike up to order.**

Two pods that come from one are alike if they differ only in the order of what was appended to their
lists, and in the annotations that the breaker keeps.  Each notion is relative to the document of the
beginning, since what stood there keeps its place: only what was appended behind it may be in another
order.

Main definitions:

* `Sidecar.Json.AgreeBeside` — objects that agree in all members but some;
* `Sidecar.Json.AlikeAt` — lists alike up to the order of what was appended;
* `Sidecar.Contribution.AlikeContainers`, `Sidecar.Contribution.AlikeListsAt`,
  `Sidecar.Contribution.AlikeSpecs`, `Sidecar.Contribution.AlikeData`,
  `Sidecar.Contribution.AlikePods` — the parts of pods, and **pods that are alike.**

Main results:

* `Sidecar.Contribution.alikeContainers_of_mountedInto` — containers into which all is mounted;
* `Sidecar.Contribution.SpecGrown.alike`, `Sidecar.Contribution.DataGrown.alike` — specifications and
  metadata that have all that rules bring;
* `Sidecar.Contribution.Grown.alike` — **pods that have all that compatible rules bring are alike.**
-/

import Mathlib.Data.List.Perm.Basic
import Sidecar.Proofs.Injection.Growth

set_option autoImplicit false

namespace Sidecar

open Cluster Injection Json

/-! ### Members and lists -/

namespace Json

/-- Objects that agree in all members but those of some names. -/
def AgreeBeside (names : List String) (x y : Json) : Prop :=
  (∃ members, x = .obj members) ∧ (∃ members, y = .obj members)
    ∧ ∀ name ∉ names, x.member? name = y.member? name

/-- What stands under the name is the same, or twice the list of the beginning with items behind it
that are the same up to order. -/
def AlikeAt (name : String) (start x y : Json) : Prop :=
  x.member? name = y.member? name
    ∨ ∃ added added' : List Json, added.Perm added'
      ∧ x.member? name = some (.arr (View.items name start ++ added))
      ∧ y.member? name = some (.arr (View.items name start ++ added'))

variable {name : String} {change change' : Json → Json} {new new' : List Json} {start x y : Json}

/-- Without a list and without anything new, what stands under a name stays. -/
theorem Grew.member?_eq (h : Grew name change [] start x)
    (hno : ∀ items, start.member? name ≠ some (.arr items)) :
    x.member? name = start.member? name := by
  rw [Grew, grown_of_not_arr hno] at h
  exact h

/-- Lists that have grown by the same items up to order are alike. -/
theorem alikeAt_of_grew (hx : Grew name id new start x) (hy : Grew name id new' start y)
    (hperm : new.Perm new') : AlikeAt name start x y := by
  rcases hx.cases with hx' | ⟨hx', _, rfl, _⟩
  · rcases hy.cases with hy' | ⟨_, _, rfl, _⟩
    · rw [List.map_id] at hx' hy'
      exact .inr ⟨new, new', hperm, hx', hy'⟩
    · obtain rfl := List.perm_nil.1 hperm
      exact .inl (Eq.trans hx hy.symm)
  · obtain rfl := List.nil_perm.1 hperm
    exact .inl (Eq.trans hx hy.symm)

end Json

namespace Contribution

/-- **Containers that come from one and are alike**: only the mounts that were appended may be in
another order. -/
def AlikeContainers (start x y : Json) : Prop :=
  AgreeBeside ["volumeMounts"] x y ∧ AlikeAt "volumeMounts" start x y

/-- Lists of containers that are alike: those of the beginning at their places, and those that were
added, each of them brought by some rule, up to order. -/
def AlikeListsAt (name : String) (brought : Json → Prop) (start x y : Json) : Prop :=
  x.member? name = y.member? name
    ∨ ∃ change change' : Json → Json, ∃ added matched added' : List Json,
      x.member? name = some (.arr ((View.items name start).map change ++ added))
        ∧ y.member? name = some (.arr ((View.items name start).map change' ++ added'))
        ∧ (∀ k ∈ View.items name start, AlikeContainers k (change k) (change' k))
        ∧ added.Perm matched
        ∧ List.Forall₂ (fun a b => ∃ k, brought k ∧ AlikeContainers k a b) matched added'

variable {brings : Contribution → Prop}

/-- The documents of the containers that contributions bring. -/
def Brought (brings : Contribution → Prop) (k : Json) : Prop :=
  ∃ c, brings c ∧ ∃ w ∈ c.containers, k = w.toJson

/-- **Specifications that come from one and are alike**: what was appended to the volumes, the
containers, the tolerations and the mounts of each container may be in another order. -/
structure AlikeSpecs (brings : Contribution → Prop) (start x y : Json) : Prop where
  beside : AgreeBeside ["volumes", "initContainers", "containers", "tolerations"] x y
  volumes : AlikeAt "volumes" start x y
  /-- No initial container is added. -/
  initContainers : AlikeListsAt "initContainers" (fun _ => False) start x y
  containers : AlikeListsAt "containers" (Brought brings) start x y
  tolerations : AlikeAt "tolerations" start x y

/-- **Metadata that are alike**: they agree beside the annotations, and these beside those of the
breaker. -/
structure AlikeData (keyPrefix : String) (x y : Json) : Prop where
  beside : AgreeBeside ["annotations"] x y
  annotations : ∀ name, (∀ rest, name ≠ keyPrefix ++ "/" ++ rest) →
    textAt? "annotations" name x = textAt? "annotations" name y

/-- **Pods that come from one and are alike.** -/
structure AlikePods (brings : Contribution → Prop) (keyPrefix : String) (start x y : Json) :
    Prop where
  beside : AgreeBeside ["spec", "metadata"] x y
  spec : ∃ s sx sy, start.member? "spec" = some s ∧ x.member? "spec" = some sx
    ∧ y.member? "spec" = some sy ∧ AlikeSpecs brings s sx sy
  metadata : ∃ dx dy, x.member? "metadata" = some dx ∧ y.member? "metadata" = some dy
    ∧ AlikeData keyPrefix dx dy

/-! ### Compatible contributions -/

/-- **Contributions that leave nothing open**: which container, volume or mount is brought for a
name or path, and which nodes are demanded, does not depend on the contribution. -/
structure Compatible (brings : Contribution → Prop) : Prop where
  containers : Determined (·.name) brings (·.containers)
  volumes : Determined (·.name) brings (·.volumes)
  volumeMounts : Determined (·.mountPath) brings (·.volumeMounts)
  required : ∀ c c', brings c → brings c' → ∀ required required', c.required = some required →
    c'.required = some required' → required = required'

/-- All of the contributions is there, as is seen of a specification. -/
def AllIn (brings : Contribution → Prop) (spec : Json) : Prop :=
  ∀ c, brings c → ∃ pod, c.Present pod (PodSpec.view spec)

section Containers

variable {start x y : Json}

/-- Containers into which all is mounted are alike. -/
theorem alikeContainers_of_mountedInto
    (hdetermined : Determined (·.mountPath) brings (·.volumeMounts))
    (hs : start.IsCanonicalObject) (hx : MountedInto brings start x)
    (hy : MountedInto brings start y)
    (hallx : ∀ c, brings c → ∀ m ∈ c.volumeMounts, m.mountPath ∈ (PodContainer.view x).mountPaths)
    (hally : ∀ c, brings c → ∀ m ∈ c.volumeMounts, m.mountPath ∈ (PodContainer.view y).mountPaths) :
    AlikeContainers start x y := by
  obtain ⟨mounts, rfl, hdrawn⟩ := hx
  obtain ⟨mounts', rfl, hdrawn'⟩ := hy
  rw [view_withMounts hs.exists_members] at hallx hally
  have hperm := hdrawn.perm hdetermined hdrawn' hallx hally
  have hbeside : ∀ mounts, ∀ name ∉ ["volumeMounts"],
      (withMounts mounts start).member? name = start.member? name := by
    intro mounts name hname
    exact member?_withMember_of_ne _ (fun h => hname (List.mem_singleton.2 h.symm)) _
  refine ⟨⟨(isCanonicalObject_withMounts hs _).exists_members,
    (isCanonicalObject_withMounts hs _).exists_members, fun name hname => ?_⟩, ?_⟩
  · rw [hbeside mounts name hname, hbeside mounts' name hname]
  · exact alikeAt_of_grew (grew_withMounts hs.exists_members _)
      (grew_withMounts hs.exists_members _) (hperm.map _)

/-- Additions with the same containers, all of which are mounted into, are alike one by one. -/
theorem forall₂_alikeContainers (hdetermined : Determined (·.mountPath) brings (·.volumeMounts))
    {added added' : List Addition}
    (hsame : List.Forall₂ (fun a b : Addition => a.container = b.container) added added')
    (hadded : ∀ a ∈ added, a.IsDrawn brings) (hadded' : ∀ a ∈ added', a.IsDrawn brings)
    (hbrought : ∀ a ∈ added, Brought brings a.container.toJson)
    (hall : ∀ a ∈ added, ∀ c, brings c → ∀ m ∈ c.volumeMounts,
      m.mountPath ∈ (PodContainer.view a.toJson).mountPaths)
    (hall' : ∀ a ∈ added', ∀ c, brings c → ∀ m ∈ c.volumeMounts,
      m.mountPath ∈ (PodContainer.view a.toJson).mountPaths) :
    List.Forall₂ (fun x y => ∃ k, Brought brings k ∧ AlikeContainers k x y)
      (added.map (·.toJson)) (added'.map (·.toJson)) := by
  have hinto : ∀ {a : Addition}, a.IsDrawn brings →
      MountedInto brings a.container.toJson a.toJson := by
    intro a ha
    refine ⟨a.mounts, rfl, ?_⟩
    rw [PodContainer.view_toJson]
    exact ha
  rw [List.forall₂_map_left_iff, List.forall₂_map_right_iff]
  induction hsame with
  | nil => exact .nil
  | @cons a b as bs hab _ ih =>
      rw [List.forall_mem_cons] at hadded hadded' hbrought hall hall'
      refine .cons ⟨_, hbrought.1, ?_⟩ (ih hadded.2 hadded'.2 hbrought.2 hall.2 hall'.2)
      exact alikeContainers_of_mountedInto hdetermined (Addition.isCanonicalObject_container _)
        (hinto hadded.1) (hab ▸ hinto hadded'.1) hall.1 hall'.1

/-- Lists of containers that have grown are alike if they have grown by the same ones up to order. -/
theorem alikeListsAt_of_grew {name : String} {brought : Json → Prop}
    {change change' : Json → Json} {new matched new' : List Json}
    (hx : Grew name change new start x) (hy : Grew name change' new' start y)
    (hkept : ∀ k ∈ View.items name start, AlikeContainers k (change k) (change' k))
    (hperm : new.Perm matched)
    (hmatched : List.Forall₂ (fun a b => ∃ k, brought k ∧ AlikeContainers k a b) matched new') :
    AlikeListsAt name brought start x y := by
  have hnil : new = [] ↔ new' = [] := by
    rw [← List.length_eq_zero_iff, ← List.length_eq_zero_iff, hperm.length_eq,
      hmatched.length_eq]
  rcases hx.cases with hx' | ⟨hx', _, hempty, hno⟩
  · rcases hy.cases with hy' | ⟨hy', _, hempty, hno⟩
    · exact .inr ⟨change, change', new, matched, new', hx', hy', hkept, hperm, hmatched⟩
    · obtain rfl := hnil.2 hempty
      exact .inl ((hx.member?_eq hno).trans hy'.symm)
  · obtain rfl := hnil.1 hempty
    exact .inl (hx'.trans (hy.member?_eq hno).symm)

end Containers

/-! ### Specifications -/

section Specifications

variable {start x y : Json}

/-- What is there by its key is complete. -/
theorem complete_of_allIn {α β : Type} [DecidableEq β] {key : α → β} {offer : Contribution → List α}
    {taken : List β} {added : List α} (h : AllIn brings x)
    (hpresent : ∀ c pod, c.Present pod (PodSpec.view x) → ∀ a ∈ offer c,
      key a ∈ taken ++ added.map key) : Complete key brings offer taken added := by
  intro c hc a ha
  obtain ⟨pod, hpod⟩ := h c hc
  exact hpresent c pod hpod a ha

/-- Each container of a specification in which all is there has all mounts. -/
theorem mountPath_mem_of_allIn (h : AllIn brings x) {name : String}
    (hname : name ∈ ["initContainers", "containers"]) {k : Json} (hk : k ∈ View.items name x)
    {c : Contribution} (hc : brings c) {m : VolumeMount} (hm : m ∈ c.volumeMounts) :
    m.mountPath ∈ (PodContainer.view k).mountPaths := by
  obtain ⟨pod, hpod⟩ := h c hc
  refine hpod.volumeMounts (PodContainer.view k) ?_ m hm
  have hview := List.mem_map_of_mem (f := PodContainer.view) hk
  simp only [List.mem_cons, List.not_mem_nil, or_false] at hname
  rcases hname with rfl | rfl
  · exact List.mem_append_left _ hview
  · exact List.mem_append_right _ hview

/-- Containers that stood there from the beginning are alike in two specifications in which all is
there. -/
theorem alikeContainers_of_grew
    (hdetermined : Determined (·.mountPath) brings (·.volumeMounts)) {name : String}
    (hname : name ∈ ["initContainers", "containers"])
    (hitems : ∀ k ∈ View.items name start, k.IsCanonicalObject)
    {change change' : Json → Json} {new new' : List Json}
    (hx : Grew name change new start x) (hy : Grew name change' new' start y)
    (hchange : ∀ k, k.IsCanonicalObject → MountedInto brings k (change k))
    (hchange' : ∀ k, k.IsCanonicalObject → MountedInto brings k (change' k))
    (hallx : AllIn brings x) (hally : AllIn brings y) :
    ∀ k ∈ View.items name start, AlikeContainers k (change k) (change' k) := by
  intro k hk
  have hkx : change k ∈ View.items name x :=
    hx.items ▸ List.mem_append_left _ (List.mem_map_of_mem hk)
  have hky : change' k ∈ View.items name y :=
    hy.items ▸ List.mem_append_left _ (List.mem_map_of_mem hk)
  exact alikeContainers_of_mountedInto hdetermined (hitems k hk) (hchange k (hitems k hk))
    (hchange' k (hitems k hk))
    (fun _ hc _ hm => mountPath_mem_of_allIn hallx hname hkx hc hm)
    (fun _ hc _ hm => mountPath_mem_of_allIn hally hname hky hc hm)

/-- Additions whose containers are the same up to order can be matched. -/
theorem exists_matched {added added' : List Addition}
    (h : (added.map (·.container)).Perm (added'.map (·.container))) :
    ∃ matched : List Addition, added.Perm matched
      ∧ List.Forall₂ (fun a b : Addition => a.container = b.container) matched added' := by
  have hcontainers : List.Forall₂ (fun (a : Addition) k => a.container = k) added
      (added.map (·.container)) := by
    rw [List.forall₂_map_right_iff]
    exact List.forall₂_same.2 fun _ _ => rfl
  have hcomp : Relation.Comp (List.Forall₂ fun (a : Addition) k => a.container = k) List.Perm added
      (added'.map (·.container)) := ⟨_, hcontainers, h⟩
  rw [List.forall₂_comp_perm_eq_perm_comp_forall₂] at hcomp
  obtain ⟨matched, hperm, hsame⟩ := hcomp
  exact ⟨matched, hperm, List.forall₂_map_right_iff.1 hsame⟩

/-- **The containers are alike**, those that were added as well. -/
theorem alikeListsAt_containers (hcompatible : Compatible brings)
    (hitems : ∀ k ∈ View.items "containers" start, k.IsCanonicalObject)
    (hx : SpecGrown brings start x) (hy : SpecGrown brings start y) (hallx : AllIn brings x)
    (hally : AllIn brings y) : AlikeListsAt "containers" (Brought brings) start x y := by
  obtain ⟨change, added, hgrew, hchange, hdrawn, hadded⟩ := hx.containers
  obtain ⟨change', added', hgrew', hchange', hdrawn', hadded'⟩ := hy.containers
  have hperm := hdrawn.perm hcompatible.containers hdrawn'
    (complete_of_allIn hallx fun c pod h =>
      map_name_containers_of_grew hitems hchange hgrew ▸ h.containers)
    (complete_of_allIn hally fun c pod h =>
      map_name_containers_of_grew hitems hchange' hgrew' ▸ h.containers)
  obtain ⟨matched, hmatched, hsame⟩ := exists_matched hperm
  refine alikeListsAt_of_grew hgrew hgrew'
    (alikeContainers_of_grew hcompatible.volumeMounts (by simp) hitems hgrew hgrew' hchange
      hchange' hallx hally) (hmatched.map _)
    (forall₂_alikeContainers hcompatible.volumeMounts hsame
      (fun a ha => hadded a (hmatched.mem_iff.2 ha)) hadded' ?_ ?_ ?_)
  · intro a ha
    obtain ⟨c, hc, hfirst⟩ :=
      hdrawn.offered a.container (List.mem_map_of_mem (hmatched.mem_iff.2 ha))
    exact ⟨c, hc, _, mem_of_mem_fresh _ hfirst, rfl⟩
  · intro a ha c hc m hm
    refine mountPath_mem_of_allIn hallx (by simp : "containers" ∈ _) ?_ hc hm
    exact hgrew.items ▸ List.mem_append_right _ (List.mem_map_of_mem (hmatched.mem_iff.2 ha))
  · intro a ha c hc m hm
    refine mountPath_mem_of_allIn hally (by simp : "containers" ∈ _) ?_ hc hm
    exact hgrew'.items ▸ List.mem_append_right _ (List.mem_map_of_mem ha)

/-- **The affinity is the same**: if nodes are demanded at all, they are those of one rule. -/
theorem member?_affinity_eq (hcompatible : Compatible brings) (hx : SpecGrown brings start x)
    (hy : SpecGrown brings start y) (hallx : AllIn brings x) (hally : AllIn brings y) :
    x.member? "affinity" = y.member? "affinity" := by
  -- where nodes are demanded of the beginning, no settled specification has its affinity
  have hchanged : ∀ {z c required affinity}, AllIn brings z → brings c →
      c.required = some required → demanded required start = some affinity →
      z.member? "affinity" ≠ start.member? "affinity" := by
    intro z c required affinity hall hc hrequired hdemanded hsame
    obtain ⟨pod, hpod⟩ := hall c hc
    obtain ⟨n, hn⟩ := hpod.required required hrequired
    have hview : PodAffinity.view start = .nodes (n + 1) := (view_affinity_congr hsame).symm.trans hn
    rw [demanded, hview] at hdemanded
    cases hdemanded
  rcases hx.affinity with hx' | ⟨c, required, affinity, hc, hrequired, hdemanded, hx'⟩
  · rcases hy.affinity with hy' | ⟨c, required, affinity, hc, hrequired, hdemanded, hy'⟩
    · rw [hx', hy']
    · exact absurd hx' (hchanged hallx hc hrequired hdemanded)
  · rcases hy.affinity with hy' | ⟨c', required', affinity', hc', hrequired', hdemanded', hy'⟩
    · exact absurd hy' (hchanged hally hc hrequired hdemanded)
    · obtain rfl := hcompatible.required c c' hc hc' required required' hrequired hrequired'
      obtain rfl := Option.some.inj (hdemanded.symm.trans hdemanded')
      rw [hx', hy']

/-- **Specifications that have all that compatible rules bring are alike.** -/
theorem SpecGrown.alike (hcompatible : Compatible brings)
    (hitems : ∀ name ∈ ["initContainers", "containers"], ∀ k ∈ View.items name start,
      k.IsCanonicalObject)
    (hx : SpecGrown brings start x) (hy : SpecGrown brings start y) (hallx : AllIn brings x)
    (hally : AllIn brings y) : AlikeSpecs brings start x y := by
  refine ⟨⟨hx.exists_members, hy.exists_members, fun name hname => ?_⟩, ?_, ?_, ?_, ?_⟩
  · by_cases haffinity : name = "affinity"
    · rw [haffinity]
      exact member?_affinity_eq hcompatible hx hy hallx hally
    · have hrest :
          name ∉ ["volumes", "initContainers", "containers", "affinity", "tolerations"] := by
        simp only [List.mem_cons, List.not_mem_nil, or_false, not_or] at hname ⊢
        exact ⟨hname.1, hname.2.1, hname.2.2.1, haffinity, hname.2.2.2⟩
      rw [hx.beside name hrest, hy.beside name hrest]
  · obtain ⟨added, hgrew, hdrawn⟩ := hx.volumes
    obtain ⟨added', hgrew', hdrawn'⟩ := hy.volumes
    refine alikeAt_of_grew hgrew hgrew' ((hdrawn.perm hcompatible.volumes hdrawn' ?_ ?_).map _)
    · exact complete_of_allIn hallx fun c pod h => volumes_of_grew hgrew ▸ h.volumes
    · exact complete_of_allIn hally fun c pod h => volumes_of_grew hgrew' ▸ h.volumes
  · obtain ⟨change, hgrew, hchange⟩ := hx.initContainers
    obtain ⟨change', hgrew', hchange'⟩ := hy.initContainers
    exact alikeListsAt_of_grew hgrew hgrew'
      (alikeContainers_of_grew hcompatible.volumeMounts (by simp) (hitems _ (by simp)) hgrew
        hgrew' hchange hchange' hallx hally) (.refl _) .nil
  · exact alikeListsAt_containers hcompatible (hitems _ (by simp)) hx hy hallx hally
  · obtain ⟨added, hgrew, hdrawn⟩ := hx.tolerations
    obtain ⟨added', hgrew', hdrawn'⟩ := hy.tolerations
    have hdetermined : Determined id brings (·.tolerations) := fun _ _ _ _ _ _ _ _ h => h
    refine alikeAt_of_grew hgrew hgrew' ((hdrawn.perm hdetermined hdrawn' ?_ ?_).map _)
    · exact complete_of_allIn hallx fun c pod h => tolerations_of_grew hgrew ▸ h.tolerations
    · exact complete_of_allIn hally fun c pod h => tolerations_of_grew hgrew' ▸ h.tolerations

end Specifications

/-! ### Metadata -/

section Metadata

variable {keyPrefix : String} {start x y : Json}

/-- The labels and annotations of the contributions are there. -/
def AllOn (brings : Contribution → Prop) (data : Json) : Prop :=
  ∀ c, brings c → c.labels.Within (View.map? "labels" data)
    ∧ c.annotations.Within (View.map? "annotations" data)

/-- What is found under a name is the same if some rule has an entry there, or else if it was kept. -/
theorem textAt?_eq {map name : String} {field : Contribution → StringMap}
    (hallx : ∀ c, brings c → (field c).Within (View.map? map x))
    (hally : ∀ c, brings c → (field c).Within (View.map? map y))
    (hkept : (∀ c, brings c → (field c).find? name = none) →
      textAt? map name x = textAt? map name y) :
    textAt? map name x = textAt? map name y := by
  by_cases hsome : ∃ c text, brings c ∧ (field c).find? name = some text
  · obtain ⟨c, text, hc, hfind⟩ := hsome
    rw [textAt?, textAt?, hallx c hc name text hfind, hally c hc name text hfind]
  · exact hkept fun c hc =>
      Option.eq_none_iff_forall_ne_some.2 fun text hfind => hsome ⟨c, text, hc, hfind⟩

/-- Metadata that show no labels have gained none. -/
theorem DataGrown.member?_labels_of_none (h : DataGrown brings keyPrefix start x)
    (hnone : View.map? "labels" x = none) : x.member? "labels" = start.member? "labels" := by
  rcases h.labels with hsame | ⟨m, _, hmember⟩
  · exact hsame
  · rw [View.map?_of_member? hmember] at hnone
    cases hnone

/-- If one shows no labels, nor does the other. -/
theorem map?_labels_eq_none (hx : DataGrown brings keyPrefix start x)
    (hy : DataGrown brings keyPrefix start y)
    (h : ∀ name, textAt? "labels" name x = textAt? "labels" name y)
    (hnone : View.map? "labels" x = none) : View.map? "labels" y = none := by
  rcases hy.labels with hsame | ⟨m, hne, hmember⟩
  · rw [View.map?_congr (hsame.trans (hx.member?_labels_of_none hnone).symm), hnone]
  · -- an entry of the one is one of the other
    exfalso
    obtain ⟨name, text, hfind⟩ := exists_find?_of_isEmpty hne
    have hentry := h name
    rw [textAt?, textAt?, hnone, View.map?_of_member? hmember, Option.bind_some, hfind] at hentry
    cases hentry

/-- Labels that answer every look-up alike are the same. -/
theorem member?_labels_eq (hx : DataGrown brings keyPrefix start x)
    (hy : DataGrown brings keyPrefix start y)
    (hxmap : ∀ m, View.map? "labels" x = some m → x.member? "labels" = some (stringMap m))
    (hymap : ∀ m, View.map? "labels" y = some m → y.member? "labels" = some (stringMap m))
    (h : ∀ name, textAt? "labels" name x = textAt? "labels" name y) :
    x.member? "labels" = y.member? "labels" := by
  cases hmx : View.map? "labels" x with
  | none =>
      have hmy := map?_labels_eq_none hx hy h hmx
      rw [hx.member?_labels_of_none hmx, hy.member?_labels_of_none hmy]
  | some m =>
      cases hmy : View.map? "labels" y with
      | none =>
          rw [map?_labels_eq_none hy hx (fun name => (h name).symm) hmy] at hmx
          cases hmx
      | some m' =>
          have hsame : m = m' := StringMap.ext_find? fun name => by
            have hentry := h name
            rwa [textAt?, textAt?, hmx, hmy] at hentry
          rw [hxmap m hmx, hymap m' hmy, hsame]

/-- **Metadata that have all that rules bring are alike.** -/
theorem DataGrown.alike (hx : DataGrown brings keyPrefix start x)
    (hy : DataGrown brings keyPrefix start y)
    (hxmap : ∀ m, View.map? "labels" x = some m → x.member? "labels" = some (stringMap m))
    (hymap : ∀ m, View.map? "labels" y = some m → y.member? "labels" = some (stringMap m))
    (hallx : AllOn brings x) (hally : AllOn brings y) : AlikeData keyPrefix x y := by
  have hlabels : ∀ name, textAt? "labels" name x = textAt? "labels" name y := fun name =>
    textAt?_eq (fun c hc => (hallx c hc).1) (fun c hc => (hally c hc).1) fun hnone =>
      (hx.label name hnone).trans (hy.label name hnone).symm
  refine ⟨⟨hx.exists_members, hy.exists_members, fun name hname => ?_⟩, fun name hreserved => ?_⟩
  · by_cases hlabel : name = "labels"
    · rw [hlabel]
      exact member?_labels_eq hx hy hxmap hymap hlabels
    · have hrest : name ∉ ["labels", "annotations"] := by
        simp only [List.mem_cons, List.not_mem_nil, or_false, not_or] at hname ⊢
        exact ⟨hlabel, hname⟩
      rw [hx.beside name hrest, hy.beside name hrest]
  · exact textAt?_eq (fun c hc => (hallx c hc).2) (fun c hc => (hally c hc).2) fun hnone =>
      (hx.annotation name hreserved hnone).trans (hy.annotation name hreserved hnone).symm

end Metadata

/-! ### Pods -/

section Pods

variable {keyPrefix : String} {start x y : Json}

/-- What is there of contributions is seen of the two parts of the pod. -/
theorem allIn_allOn_of_presentIn {spec data : Json} (hspec : x.member? "spec" = some spec)
    (hobj : ∃ members, spec = .obj members) (hdata : x.member? "metadata" = some data)
    (hobj' : ∃ members, data = .obj members) (h : ∀ c, brings c → c.PresentIn x) :
    AllIn brings spec ∧ AllOn brings data := by
  have hpresent : ∀ c, brings c → ∃ pod, c.Present pod (PodSpec.view spec)
      ∧ pod.labels = View.map? "labels" data ∧ pod.annotations = View.map? "annotations" data := by
    intro c hc
    obtain ⟨pod, view, hpod, hview, hpresent⟩ := h c hc
    obtain ⟨_, rfl⟩ := (Pod.ofJson?_eq_some_iff x pod).1 hpod
    have hseen := View.object?_eq_some_iff.2 ⟨hdata, hobj'⟩
    rw [Pod.view, View.object?_eq_some_iff.2 ⟨hspec, hobj⟩, Option.map_some] at hview
    obtain rfl := Option.some.inj hview
    refine ⟨_, hpresent, ?_, ?_⟩
    · rw [Pod.view, hseen, Option.getD_some]
    · rw [Pod.view, hseen, Option.getD_some]
  constructor
  · intro c hc
    obtain ⟨pod, hpresent, _⟩ := hpresent c hc
    exact ⟨pod, hpresent⟩
  · intro c hc
    obtain ⟨pod, hpresent, hlabels, hannotations⟩ := hpresent c hc
    exact ⟨hlabels ▸ hpresent.labels, hannotations ▸ hpresent.annotations⟩

/-- The labels that are seen of a pod stand in its metadata. -/
theorem member?_labels_of_admissible (h : Engine.Admissible x) {data : Json}
    (hdata : x.member? "metadata" = some data) (hobj : ∃ members, data = .obj members)
    (m : StringMap) (hm : View.map? "labels" data = some m) :
    data.member? "labels" = some (stringMap m) := by
  obtain ⟨pod, _, hpod, _⟩ := h.exists_spec
  obtain ⟨hshape, _⟩ := (Pod.ofJson?_eq_some_iff x pod).1 hpod
  obtain ⟨members, rfl⟩ := hobj
  exact Pod.member?_metadata h.isCanonical hshape hdata (by simp) hm

/-- **Pods that have all that compatible rules bring are alike.** -/
theorem Grown.alike (hcompatible : Compatible brings) (hstart : Engine.Admissible start)
    (hx : Grown brings keyPrefix start x) (hy : Grown brings keyPrefix start y)
    (hax : Engine.Admissible x) (hay : Engine.Admissible y)
    (hallx : ∀ c, brings c → c.PresentIn x) (hally : ∀ c, brings c → c.PresentIn y) :
    AlikePods brings keyPrefix start x y := by
  obtain ⟨s, sx, hs, hsx, hgrownx⟩ := hx.spec
  obtain ⟨s', sy, hs', hsy, hgrowny⟩ := hy.spec
  obtain rfl := Option.some.inj (hs.symm.trans hs')
  obtain ⟨d, dx, hd, hdx, hdatax⟩ := hx.metadata
  obtain ⟨d', dy, hd', hdy, hdatay⟩ := hy.metadata
  obtain rfl := Option.some.inj (hd.symm.trans hd')
  obtain ⟨hinx, honx⟩ :=
    allIn_allOn_of_presentIn hsx hgrownx.exists_members hdx hdatax.exists_members hallx
  obtain ⟨hiny, hony⟩ :=
    allIn_allOn_of_presentIn hsy hgrowny.exists_members hdy hdatay.exists_members hally
  refine ⟨⟨hx.exists_members, hy.exists_members, fun name hname => ?_⟩,
    ⟨s, sx, sy, hs, hsx, hsy, ?_⟩, dx, dy, hdx, hdy, ?_⟩
  · rw [hx.beside name hname, hy.beside name hname]
  · refine hgrownx.alike hcompatible (fun name hname k hk => ?_) hgrowny hinx hiny
    exact hstart.isCanonicalObject_container hs hname hk
  · exact hdatax.alike hdatay (member?_labels_of_admissible hax hdx hdatax.exists_members)
      (member?_labels_of_admissible hay hdy hdatay.exists_members) honx hony

end Pods

end Contribution

end Sidecar
