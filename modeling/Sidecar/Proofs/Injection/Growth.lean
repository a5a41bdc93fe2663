/-
**What a pod gains by many injections.**

Rules are injected into a pod one after another, each perhaps several times, in any order.  What the
pod has gained in the end is told against the pod of the beginning: each list has grown by items
that the rules bring, none of which was there and none of which was added twice; each container,
also one that was added, has been mounted into; the affinity is the one of the beginning or with the
nodes that one rule demands; and labels and annotations differ only where a rule has some, or where
the breaker keeps its own.

What was added is described as a list of items drawn from what the rules bring, without the order in
which that happened: that two pods have gained the same is then a matter of the rules alone.

Main definitions:

* `Sidecar.Injection.Drawn` — items drawn from what contributions offer;
* `Sidecar.Json.Grew` — a list under a name that has grown;
* `Sidecar.Contribution.withMounts`, `Sidecar.Contribution.MountedInto` — containers with mounts
  appended;
* `Sidecar.Contribution.ContainersGrown`, `Sidecar.Contribution.AffinityGrown` — what the two
  parts of a specification have gained in which rules meet;
* `Sidecar.Contribution.SpecGrown`, `Sidecar.Contribution.DataGrown`,
  `Sidecar.Contribution.Grown` — what a specification, metadata and a pod have gained.

Main results:

* `Sidecar.Injection.Drawn.append_fresh`, `Sidecar.Injection.Drawn.perm` — drawing more, and **that
  two complete draws are the same up to order**;
* `Sidecar.Json.Grew.trans` — growing twice;
* `Sidecar.Contribution.member?_inject_of_notMem` — what an injection leaves;
* `Sidecar.Contribution.SpecGrown.specification`, `Sidecar.Contribution.DataGrown.metadata`,
  `Sidecar.Contribution.Grown.inject` — **one injection more.**
-/

import Mathlib.Data.List.Perm.Basic
import Sidecar.Proofs.Injection.Convergence

set_option autoImplicit false

namespace Sidecar

open Cluster Injection Json

/-! ### Items drawn from what is offered -/

namespace Injection

variable {α β : Type} [DecidableEq β] {key : α → β}

/-- What is new while more is taken is new while less is. -/
theorem mem_fresh_of_subset {xs : List α} {x : α} {fewer taken : List β}
    (hsub : ∀ b ∈ fewer, b ∈ taken) (hx : x ∈ fresh key taken xs) : x ∈ fresh key fewer xs := by
  induction xs generalizing fewer taken with
  | nil => cases hx
  | cons y ys ih =>
      rw [fresh] at hx ⊢
      split at hx
      · next hy =>
        split
        · exact ih hsub hx
        · -- an item that was taken is passed over, and here the first of its key
          refine List.mem_cons_of_mem _ (ih (fun b hb => ?_) hx)
          rcases List.mem_cons.1 hb with rfl | hb
          · exact hy
          · exact hsub b hb
      · next hy =>
        rw [if_neg fun h => hy (hsub _ h)]
        rcases List.mem_cons.1 hx with rfl | hx
        · exact List.mem_cons_self ..
        · refine List.mem_cons_of_mem _ (ih (fun b hb => ?_) hx)
          rcases List.mem_cons.1 hb with rfl | hb
          · exact List.mem_cons_self ..
          · exact List.mem_cons_of_mem _ (hsub b hb)

variable (brings : Contribution → Prop) (offer : Contribution → List α)

variable (key) in
/-- **Items drawn from what contributions offer**: their keys differ and were not taken, and each is
the first of its key that a contribution offers. -/
structure Drawn (taken : List β) (xs : List α) : Prop where
  nodup : (xs.map key).Nodup
  notMem : ∀ x ∈ xs, key x ∉ taken
  offered : ∀ x ∈ xs, ∃ c, brings c ∧ x ∈ fresh key [] (offer c)

variable (key) in
/-- What contributions offer first for a key does not depend on the contribution. -/
def Determined : Prop :=
  ∀ c c', brings c → brings c' →
    ∀ x ∈ fresh key [] (offer c), ∀ y ∈ fresh key [] (offer c'), key x = key y → x = y

variable (key) in
/-- All that contributions offer is there by its key. -/
def Complete (taken : List β) (xs : List α) : Prop :=
  ∀ c, brings c → ∀ x ∈ offer c, key x ∈ taken ++ xs.map key

variable {brings offer}

theorem drawn_nil (taken : List β) : Drawn key brings offer taken [] :=
  ⟨List.nodup_nil, by simp, by simp⟩

/-- Drawing what one contribution offers and is not there yet. -/
theorem Drawn.append_fresh {taken : List β} {xs : List α} (h : Drawn key brings offer taken xs)
    {c : Contribution} (hc : brings c) :
    Drawn key brings offer taken (xs ++ fresh key (taken ++ xs.map key) (offer c)) := by
  have hnew : ∀ x ∈ fresh key (taken ++ xs.map key) (offer c), key x ∉ taken ++ xs.map key :=
    key_fresh_notMem key _ _
  refine ⟨?_, fun x hx => ?_, fun x hx => ?_⟩
  · rw [List.map_append, List.nodup_append]
    refine ⟨h.nodup, map_fresh_nodup key _ _, ?_⟩
    rintro a ha b hb rfl
    obtain ⟨x, hx, rfl⟩ := List.mem_map.1 hb
    exact hnew x hx (List.mem_append_right _ ha)
  · rcases List.mem_append.1 hx with hx | hx
    · exact h.notMem x hx
    · exact fun hmem => hnew x hx (List.mem_append_left _ hmem)
  · rcases List.mem_append.1 hx with hx | hx
    · exact h.offered x hx
    · exact ⟨c, hc, mem_fresh_of_subset (by simp) hx⟩

/-- Contributions that share no key leave nothing open. -/
theorem determined_of_apart (h : ∀ c c', brings c → brings c' →
    ∀ x ∈ offer c, ∀ y ∈ offer c', key x = key y → c = c') : Determined key brings offer := by
  intro c c' hc hc' x hx y hy hkey
  obtain rfl := h c c' hc hc' x (mem_of_mem_fresh _ hx) y (mem_of_mem_fresh _ hy) hkey
  exact List.inj_on_of_nodup_map (map_fresh_nodup key [] (offer c)) hx hy hkey

/-- **Two complete draws are the same up to order.** -/
theorem Drawn.perm (hdetermined : Determined key brings offer) {taken : List β} {xs ys : List α}
    (hx : Drawn key brings offer taken xs) (hy : Drawn key brings offer taken ys)
    (hxs : Complete key brings offer taken xs) (hys : Complete key brings offer taken ys) :
    xs.Perm ys := by
  have hsub : ∀ {xs ys : List α}, Drawn key brings offer taken xs → Drawn key brings offer taken ys →
      Complete key brings offer taken ys → ∀ x ∈ xs, x ∈ ys := by
    intro xs ys hx hy hys x hxmem
    obtain ⟨c, hc, hfirst⟩ := hx.offered x hxmem
    rcases List.mem_append.1 (hys c hc x (mem_of_mem_fresh _ hfirst)) with hold | hadded
    · exact absurd hold (hx.notMem x hxmem)
    · obtain ⟨y, hymem, hkey⟩ := List.mem_map.1 hadded
      obtain ⟨c', hc', hfirst'⟩ := hy.offered y hymem
      exact hdetermined c c' hc hc' x hfirst y hfirst' hkey.symm ▸ hymem
  exact (List.perm_ext_iff_of_nodup hx.nodup.of_map hy.nodup.of_map).2 fun x =>
    ⟨hsub hx hy hys x, hsub hy hx hxs x⟩

end Injection

/-! ### Lists that have grown -/

namespace Json

/-- In the second document the list under the name has grown: its items have been changed, and new
ones stand behind them. -/
def Grew (name : String) (change : Json → Json) (new : List Json) (before after : Json) : Prop :=
  after.member? name = (grown name change new before).or (before.member? name)

variable {name : String} {change change' : Json → Json} {new new' : List Json}
  {before between after : Json}

/-- The list under the name if nothing has grown. -/
theorem Grew.refl (name : String) (before : Json) : Grew name id [] before before := by
  unfold Grew grown
  split
  · next items heq => rw [heq, List.map_id, List.append_nil, Option.some_or]
  · rfl

theorem Grew.items (h : Grew name change new before after) :
    View.items name after = (View.items name before).map change ++ new :=
  View.items_of_grown h

/-- What stands under the name is the list as it has grown, unless there was no list and nothing is
new. -/
theorem Grew.cases (h : Grew name change new before after) :
    after.member? name = some (.arr ((View.items name before).map change ++ new))
      ∨ after.member? name = before.member? name ∧ View.items name before = [] ∧ new = []
        ∧ ∀ items, before.member? name ≠ some (.arr items) := by
  unfold Grew grown at h
  split at h
  · next items heq =>
    rw [View.items, heq]
    exact .inl h
  · next hno =>
    have hnil : View.items name before = [] := by
      unfold View.items
      split
      · next items heq => exact absurd heq (hno items)
      · rfl
    rw [hnil]
    split at h
    · next hempty => exact .inr ⟨h, rfl, List.isEmpty_iff.1 hempty, hno⟩
    · exact .inl h

/-- Where there is no list, one is made if anything is new. -/
theorem grown_of_not_arr (h : ∀ items, before.member? name ≠ some (.arr items))
    (change : Json → Json) (new : List Json) :
    grown name change new before = if new.isEmpty then none else some (.arr new) := by
  unfold grown
  split
  · next items heq => exact absurd heq (h items)
  · rfl

/-- **Growing twice.** -/
theorem Grew.trans (h : Grew name change new before between)
    (h' : Grew name change' new' between after) :
    Grew name (change' ∘ change) (new.map change' ++ new') before after := by
  unfold Grew at h h' ⊢
  by_cases hlist : ∃ items, before.member? name = some (.arr items)
  · obtain ⟨items, hitems⟩ := hlist
    rw [grown_of_arr hitems, Option.some_or] at h ⊢
    rw [grown_of_arr h, Option.some_or] at h'
    rw [h', List.map_append, List.map_map, List.append_assoc]
  · have hno := not_exists.1 hlist
    rw [grown_of_not_arr hno] at h ⊢
    cases new with
    | nil =>
        have hsame : between.member? name = before.member? name := h
        rw [grown_congr hsame, hsame, grown_of_not_arr hno] at h'
        exact h'
    | cons x xs =>
        have hmade : between.member? name = some (.arr (x :: xs)) := h
        rw [grown_of_arr hmade, Option.some_or] at h'
        exact h'

end Json

/-- The time, too, is noted under the breaker's part before the slash. -/
theorem Breaker.exists_timestampKey_eq (b : Breaker) :
    ∃ rest, b.timestampKey = b.keyPrefix ++ "/" ++ rest := by
  unfold timestampKey
  split
  · exact ⟨_, String.append_assoc ..⟩
  · exact ⟨_, rfl⟩

/-! ### Containers with mounts appended -/

namespace Contribution

/-- The container with the mounts behind those that it has. -/
def withMounts (mounts : List VolumeMount) (container : Json) : Json :=
  container.withMember "volumeMounts"
    (grown "volumeMounts" id (mounts.map (·.toJson)) container)

theorem mounted_eq_withMounts (mounts : List VolumeMount) (container : Json) :
    mounted mounts container
      = withMounts (fresh (·.mountPath) (PodContainer.view container).mountPaths mounts) container :=
  rfl

section Mounts

variable {container : Json}

theorem grew_withMounts (h : ∃ members, container = .obj members) (mounts : List VolumeMount) :
    Grew "volumeMounts" id (mounts.map (·.toJson)) container (withMounts mounts container) :=
  member?_withMember_same h _ _

theorem withMounts_nil (h : container.IsCanonical) : withMounts [] container = container := by
  unfold withMounts grown
  split
  · next items heq => rw [List.map_id, List.map_nil, List.append_nil, withMember_self h heq]
  · exact withMember_none _ _

/-- Appending mounts twice. -/
theorem withMounts_withMounts (h : container.IsCanonicalObject) (xs ys : List VolumeMount) :
    withMounts ys (withMounts xs container) = withMounts (xs ++ ys) container := by
  have hc := h.isCanonical
  obtain ⟨members, rfl⟩ := h.exists_members
  -- mounts are appended to a list that was appended to before
  have happend : ∀ {first : List Json} (container : Json),
      container = (obj members).withMember "volumeMounts" (some (.arr first)) →
      withMounts ys container
        = (obj members).withMember "volumeMounts" (some (.arr (first ++ ys.map (·.toJson)))) := by
    rintro first _ rfl
    rw [withMounts, grown_of_arr (member?_withMember_self _ _ _), withMember_withMember,
      List.map_id]
  by_cases hlist : ∃ items, (obj members).member? "volumeMounts" = some (.arr items)
  · obtain ⟨items, hitems⟩ := hlist
    have hgrown : ∀ zs : List VolumeMount, withMounts zs (obj members)
        = (obj members).withMember "volumeMounts" (some (.arr (items ++ zs.map (·.toJson)))) := by
      intro zs
      rw [withMounts, grown_of_arr hitems, List.map_id]
    rw [happend _ (hgrown xs), hgrown (xs ++ ys), List.map_append, List.append_assoc]
  · have hno := not_exists.1 hlist
    cases xs with
    | nil => rw [withMounts_nil hc, List.nil_append]
    | cons x xs =>
        have hmade : ∀ zs : List VolumeMount, withMounts (x :: zs) (obj members)
            = (obj members).withMember "volumeMounts"
              (some (.arr ((x :: zs).map (·.toJson)))) := by
          intro zs
          rw [withMounts, grown_of_not_arr hno]
          rfl
        rw [happend _ (hmade xs), List.cons_append, hmade (xs ++ ys), ← List.cons_append,
          List.map_append]

/-- What is seen of a container with mounts appended. -/
theorem view_withMounts (h : ∃ members, container = .obj members) (mounts : List VolumeMount) :
    PodContainer.view (withMounts mounts container)
      = ⟨(PodContainer.view container).name,
        (PodContainer.view container).mountPaths ++ mounts.map (·.mountPath)⟩ := by
  have hname : (withMounts mounts container).member? "name" = container.member? "name" := by
    simp [withMounts]
  rw [PodContainer.view, (grew_withMounts h mounts).items, List.map_append, List.map_id,
    List.map_map]
  simp only [PodContainer.view, PodContainer.mk.injEq]
  constructor
  · rw [View.text, View.text?, hname]
    rfl
  · exact congrArg _ (List.map_congr_left fun m _ => m.text_mountPath_toJson)

theorem isCanonicalObject_withMounts (h : container.IsCanonicalObject)
    (mounts : List VolumeMount) : (withMounts mounts container).IsCanonicalObject :=
  h.withMember _ (isCanonicalMember_grown h.isCanonical (fun _ hx => hx)
    (isCanonical_of_mem_map VolumeMount.isCanonical_toJson _))

end Mounts

variable {brings : Contribution → Prop}

/-- **A container that rules have mounted into**: mounts drawn from theirs stand behind its own. -/
def MountedInto (brings : Contribution → Prop) (before after : Json) : Prop :=
  ∃ mounts, after = withMounts mounts before
    ∧ Drawn (·.mountPath) brings (·.volumeMounts) (PodContainer.view before).mountPaths mounts

theorem MountedInto.refl {container : Json} (h : container.IsCanonical) :
    MountedInto brings container container :=
  ⟨[], (withMounts_nil h).symm, drawn_nil _⟩

/-- One rule more mounts into a container. -/
theorem MountedInto.mounted {before after : Json} (hb : before.IsCanonicalObject)
    (h : MountedInto brings before after) {c : Contribution} (hc : brings c) :
    MountedInto brings before (mounted c.volumeMounts after) := by
  obtain ⟨mounts, rfl, hdrawn⟩ := h
  refine ⟨_, ?_, hdrawn.append_fresh hc⟩
  rw [mounted_eq_withMounts, view_withMounts hb.exists_members, withMounts_withMounts hb]

/-! ### Containers that were added -/

/-- A container that a rule brings, with the mounts that rules have appended. -/
structure Addition where
  container : Container
  mounts : List VolumeMount

namespace Addition

/-- Its document. -/
def toJson (a : Addition) : Json :=
  withMounts a.mounts a.container.toJson

/-- The mounts were drawn from those of the rules. -/
def IsDrawn (brings : Contribution → Prop) (a : Addition) : Prop :=
  Drawn (·.mountPath) brings (·.volumeMounts) (PodContainer.ofContainer a.container).mountPaths
    a.mounts

/-- With the mounts of one rule more. -/
def mount (mounts : List VolumeMount) (a : Addition) : Addition :=
  { a with
    mounts := a.mounts ++ fresh (·.mountPath)
      ((PodContainer.ofContainer a.container).mountPaths ++ a.mounts.map (·.mountPath)) mounts }

theorem isCanonicalObject_container (k : Container) : k.toJson.IsCanonicalObject :=
  ⟨k.isCanonical_toJson, _, rfl⟩

theorem view_toJson (a : Addition) : PodContainer.view a.toJson
    = ⟨a.container.name,
      (PodContainer.ofContainer a.container).mountPaths ++ a.mounts.map (·.mountPath)⟩ := by
  rw [toJson, view_withMounts (isCanonicalObject_container _).exists_members,
    PodContainer.view_toJson]
  rfl

theorem mounted_toJson (mounts : List VolumeMount) (a : Addition) :
    mounted mounts a.toJson = (a.mount mounts).toJson := by
  rw [mounted_eq_withMounts, view_toJson, toJson,
    withMounts_withMounts (isCanonicalObject_container _)]
  rfl

theorem toJson_of_nil (k : Container) : toJson ⟨k, []⟩ = k.toJson :=
  withMounts_nil k.isCanonical_toJson

theorem IsDrawn.mount {a : Addition} (h : a.IsDrawn brings) {c : Contribution} (hc : brings c) :
    (a.mount c.volumeMounts).IsDrawn brings :=
  Drawn.append_fresh h hc

end Addition

/-! ### What an injection leaves -/

section Frame

variable (c : Contribution) (bookkeeping : StringMap) {json : Json} {name : String}

theorem member?_specification_of_notMem
    (h : name ∉ ["volumes", "initContainers", "containers", "affinity", "tolerations"]) :
    (c.specification json).member? name = json.member? name := by
  simp only [List.mem_cons, List.not_mem_nil, or_false, not_or] at h
  obtain ⟨h1, h2, h3, h4, h5⟩ := h
  simp only [specification, member?_withMember_of_ne _ (Ne.symm h1),
    member?_withMember_of_ne _ (Ne.symm h2), member?_withMember_of_ne _ (Ne.symm h3),
    member?_withMember_of_ne _ (Ne.symm h4), member?_withMember_of_ne _ (Ne.symm h5)]

theorem member?_metadata_of_notMem (h : name ∉ ["labels", "annotations"]) :
    (c.metadata bookkeeping json).member? name = json.member? name := by
  simp only [List.mem_cons, List.not_mem_nil, or_false, not_or] at h
  simp only [metadata, member?_withMember_of_ne _ (Ne.symm h.1),
    member?_withMember_of_ne _ (Ne.symm h.2)]

theorem member?_inject_of_notMem (h : name ∉ ["spec", "metadata"]) :
    (c.inject bookkeeping json).member? name = json.member? name := by
  simp only [List.mem_cons, List.not_mem_nil, or_false, not_or] at h
  simp only [inject, member?_withMember_of_ne _ (Ne.symm h.1),
    member?_withMember_of_ne _ (Ne.symm h.2)]

end Frame

/-! ### Specifications -/

/-- **What the containers have gained**: all of them mounts, and behind those of the beginning stand
others that rules bring. -/
def ContainersGrown (brings : Contribution → Prop) (before after : Json) : Prop :=
  ∃ change, ∃ added : List Addition, Grew "containers" change (added.map (·.toJson)) before after
    ∧ (∀ k, k.IsCanonicalObject → MountedInto brings k (change k))
    ∧ Drawn (·.name) brings (·.containers) ((PodSpec.view before).containers.map (·.name))
      (added.map (·.container))
    ∧ ∀ a ∈ added, a.IsDrawn brings

/-- **What the affinity has gained**: nothing, or the nodes that one rule demands. -/
def AffinityGrown (brings : Contribution → Prop) (before after : Json) : Prop :=
  after.member? "affinity" = before.member? "affinity"
    ∨ ∃ c required affinity, brings c ∧ c.required = some required
      ∧ demanded required before = some affinity ∧ after.member? "affinity" = some affinity

/-- **What a specification has gained.** -/
structure SpecGrown (brings : Contribution → Prop) (before after : Json) : Prop where
  exists_members : ∃ members, after = .obj members
  beside : ∀ name ∉ ["volumes", "initContainers", "containers", "affinity", "tolerations"],
    after.member? name = before.member? name
  volumes : ∃ added : List Volume, Grew "volumes" id (added.map (·.toJson)) before after
    ∧ Drawn (·.name) brings (·.volumes) (PodSpec.view before).volumes added
  initContainers : ∃ change, Grew "initContainers" change [] before after
    ∧ ∀ k, k.IsCanonicalObject → MountedInto brings k (change k)
  containers : ContainersGrown brings before after
  affinity : AffinityGrown brings before after
  tolerations : ∃ added : List Toleration, Grew "tolerations" id (added.map (·.toJson)) before after
    ∧ Drawn id brings (·.tolerations) (PodSpec.view before).tolerations added

theorem SpecGrown.refl {spec : Json} (h : ∃ members, spec = .obj members) :
    SpecGrown brings spec spec := by
  refine ⟨h, fun _ _ => rfl, ⟨[], .refl _ _, drawn_nil _⟩, ⟨id, .refl _ _, fun k hk => ?_⟩,
    ⟨id, [], .refl _ _, fun k hk => ?_, drawn_nil _, by simp⟩, .inl rfl,
    ⟨[], .refl _ _, drawn_nil _⟩⟩
  · exact .refl hk.isCanonical
  · exact .refl hk.isCanonical

section Specifications

variable {before after : Json}

/-! What is seen of the lists that have grown. -/

theorem volumes_of_grew {added : List Volume}
    (h : Grew "volumes" id (added.map (·.toJson)) before after) :
    (PodSpec.view after).volumes = (PodSpec.view before).volumes ++ added.map (·.name) := by
  simp only [PodSpec.view]
  rw [h.items, List.map_append, List.map_id, map_view_toJson Volume.text_name_toJson]

theorem tolerations_of_grew {added : List Toleration}
    (h : Grew "tolerations" id (added.map (·.toJson)) before after) :
    (PodSpec.view after).tolerations = (PodSpec.view before).tolerations ++ added.map id := by
  simp only [PodSpec.view]
  rw [h.items, List.map_append, List.map_id, map_view_toJson Toleration.view_toJson]
  rfl

theorem map_name_containers_of_grew {change : Json → Json} {added : List Addition}
    (hitems : ∀ k ∈ View.items "containers" before, k.IsCanonicalObject)
    (hchange : ∀ k, k.IsCanonicalObject → MountedInto brings k (change k))
    (h : Grew "containers" change (added.map (·.toJson)) before after) :
    (PodSpec.view after).containers.map (·.name)
      = (PodSpec.view before).containers.map (·.name)
        ++ (added.map (·.container)).map (·.name) := by
  simp only [PodSpec.view]
  rw [h.items, List.map_append, List.map_append]
  simp only [List.map_map]
  congr 1
  · refine List.map_congr_left fun k hk => ?_
    obtain ⟨mounts, hmounts, _⟩ := hchange k (hitems k hk)
    simp only [Function.comp_apply]
    rw [hmounts, view_withMounts (hitems k hk).exists_members]
  · refine List.map_congr_left fun a _ => ?_
    simp only [Function.comp_apply]
    rw [a.view_toJson]

/-- Nodes are demanded once, by the affinity of the beginning. -/
theorem demanded_congr {json origin : Json}
    (h : json.member? "affinity" = origin.member? "affinity") (required : NodeSelector) :
    demanded required json = demanded required origin := by
  rw [demanded, view_affinity_congr h, View.object?_congr h]
  rfl

/-- Where nodes have been demanded, no more are. -/
theorem demanded_eq_none {required required' : NodeSelector}
    (hterms : required.nodeSelectorTerms ≠ []) {affinity : Json}
    (hdemanded : demanded required before = some affinity)
    (hafter : after.member? "affinity" = some affinity) : demanded required' after = none := by
  have hview : PodAffinity.view after = (PodAffinity.view before).demand required :=
    view_demanded required (by rw [hdemanded, hafter, Option.some_or])
  have hnodes : ∃ n, PodAffinity.view after = .nodes (n + 1) := by
    obtain ⟨n, hn⟩ := Nat.exists_eq_succ_of_ne_zero (mt List.length_eq_zero_iff.1 hterms)
    rw [hview]
    unfold PodAffinity.demand
    split
    · exact ⟨_, rfl⟩
    · exact ⟨n, congrArg PodAffinity.nodes hn⟩
  obtain ⟨n, hn⟩ := hnodes
  rw [demanded, hn]

/-- **Containers into which one rule more is injected**: those added before are mounted into as well,
and those added now have no mounts appended yet. -/
theorem ContainersGrown.specification
    (hitems : ∀ k ∈ View.items "containers" before, k.IsCanonicalObject)
    (h : ContainersGrown brings before after) (hobj : ∃ members, after = .obj members)
    {c : Contribution} (hc : brings c) : ContainersGrown brings before (c.specification after) := by
  obtain ⟨change, added, hgrew, hchange, hdrawn, hadded⟩ := h
  have hnext := hgrew.trans (c.member?_specification hobj).2.2.1
  rw [map_name_containers_of_grew hitems hchange hgrew, List.map_map] at hnext
  let fresh := Injection.fresh (·.name) ((PodSpec.view before).containers.map (·.name)
    ++ (added.map (·.container)).map (·.name)) c.containers
  refine ⟨_, added.map (Addition.mount c.volumeMounts) ++ fresh.map (Addition.mk · []), ?_,
    fun k hk => (hchange k hk).mounted hk hc, ?_, ?_⟩
  · have hmounted : ((mounted c.volumeMounts) ∘ fun a : Addition => a.toJson)
        = (fun a : Addition => a.toJson) ∘ Addition.mount c.volumeMounts :=
      funext fun a => a.mounted_toJson c.volumeMounts
    have hnew : (fun a : Addition => a.toJson) ∘ (Addition.mk · []) = fun k => k.toJson :=
      funext Addition.toJson_of_nil
    rwa [List.map_append, List.map_map, List.map_map, ← hmounted, hnew]
  · have hsame : (added.map (Addition.mount c.volumeMounts)
        ++ fresh.map (Addition.mk · [])).map (·.container) = added.map (·.container) ++ fresh := by
      simp [Function.comp_def, Addition.mount]
    rw [hsame]
    exact hdrawn.append_fresh hc
  · intro a ha
    rcases List.mem_append.1 ha with ha | ha
    · obtain ⟨b, hb, rfl⟩ := List.mem_map.1 ha
      exact (hadded b hb).mount hc
    · obtain ⟨k, _, rfl⟩ := List.mem_map.1 ha
      exact drawn_nil _

/-- **The affinity after one rule more**: the first rule that demands nodes has its way. -/
theorem AffinityGrown.specification (hterms : ∀ c, brings c → ∀ required,
      c.required = some required → required.nodeSelectorTerms ≠ [])
    (h : AffinityGrown brings before after) (hobj : ∃ members, after = .obj members)
    {c : Contribution} (hc : brings c) : AffinityGrown brings before (c.specification after) := by
  have hnext := (c.member?_specification hobj).2.2.2.1
  rw [affinityAfter] at hnext
  cases hrequired : c.required with
  | none =>
      rw [hrequired, Option.bind_none, Option.none_or] at hnext
      rw [AffinityGrown, hnext]
      exact h
  | some required =>
      rw [hrequired, Option.bind_some] at hnext
      rcases h with hsame | ⟨c', required', affinity, hc', hrequired', hdemanded, hset⟩
      · rw [demanded_congr hsame, hsame] at hnext
        cases hdemanded : demanded required before with
        | none =>
            rw [hdemanded, Option.none_or] at hnext
            exact .inl hnext
        | some affinity =>
            rw [hdemanded, Option.some_or] at hnext
            exact .inr ⟨c, required, affinity, hc, hrequired, hdemanded, hnext⟩
      · rw [demanded_eq_none (hterms c' hc' required' hrequired') hdemanded hset,
          Option.none_or, hset] at hnext
        exact .inr ⟨c', required', affinity, hc', hrequired', hdemanded, hnext⟩

/-- **A specification into which one rule more is injected.** -/
theorem SpecGrown.specification (hterms : ∀ c, brings c → ∀ required, c.required = some required →
      required.nodeSelectorTerms ≠ [])
    (hitems : ∀ k ∈ View.items "containers" before, k.IsCanonicalObject)
    (h : SpecGrown brings before after) {c : Contribution} (hc : brings c) :
    SpecGrown brings before (c.specification after) := by
  obtain ⟨hvolumes, hinit, _, _, htolerations⟩ := c.member?_specification h.exists_members
  refine ⟨c.isObject_specification h.exists_members, fun name hname =>
      (c.member?_specification_of_notMem hname).trans (h.beside name hname), ?_, ?_,
    h.containers.specification hitems h.exists_members hc,
    h.affinity.specification hterms h.exists_members hc, ?_⟩
  · obtain ⟨added, hgrew, hdrawn⟩ := h.volumes
    refine ⟨_, ?_, hdrawn.append_fresh hc⟩
    have hnext := hgrew.trans hvolumes
    rwa [volumes_of_grew hgrew, List.map_id, ← List.map_append] at hnext
  · obtain ⟨change, hgrew, hchange⟩ := h.initContainers
    exact ⟨_, hgrew.trans hinit, fun k hk => (hchange k hk).mounted hk hc⟩
  · obtain ⟨added, hgrew, hdrawn⟩ := h.tolerations
    refine ⟨_, ?_, hdrawn.append_fresh hc⟩
    have hnext := hgrew.trans htolerations
    rwa [tolerations_of_grew hgrew, List.map_id (added.map _), ← List.map_append] at hnext

end Specifications

/-! ### Metadata -/

/-- What stands in the map of texts under a name. -/
def textAt? (map name : String) (json : Json) : Option String :=
  (View.map? map json).bind (·.find? name)

/-- **What metadata has gained**: labels where a rule has some, and annotations where a rule has some
or the breaker keeps its own. -/
structure DataGrown (brings : Contribution → Prop) (keyPrefix : String) (before after : Json) :
    Prop where
  exists_members : ∃ members, after = .obj members
  beside : ∀ name ∉ ["labels", "annotations"], after.member? name = before.member? name
  labels : after.member? "labels" = before.member? "labels"
    ∨ ∃ m : StringMap, m.isEmpty = false ∧ after.member? "labels" = some (stringMap m)
  label : ∀ name, (∀ c, brings c → c.labels.find? name = none) →
    textAt? "labels" name after = textAt? "labels" name before
  annotation : ∀ name, (∀ rest, name ≠ keyPrefix ++ "/" ++ rest) →
    (∀ c, brings c → c.annotations.find? name = none) →
    textAt? "annotations" name after = textAt? "annotations" name before

theorem DataGrown.refl {keyPrefix : String} {data : Json} (h : ∃ members, data = .obj members) :
    DataGrown brings keyPrefix data data :=
  ⟨h, fun _ _ => rfl, .inl rfl, fun _ _ => rfl, fun _ _ _ => rfl⟩

/-- A map that is not empty has an entry. -/
theorem exists_find?_of_isEmpty {m : StringMap} (h : m.isEmpty = false) :
    ∃ name text, m.find? name = some text := by
  cases hentries : m.entries with
  | nil => simp [StringMap.isEmpty, hentries] at h
  | cons e rest =>
      exact ⟨e.1, e.2, StringMap.mem_entries_iff.1 (hentries ▸ List.mem_cons_self ..)⟩

/-- Merging a map that is not empty leaves one that is not. -/
theorem isEmpty_override {m desired : StringMap} (h : desired.isEmpty = false) :
    (m.override desired).isEmpty = false := by
  obtain ⟨name, text, hfind⟩ := exists_find?_of_isEmpty h
  have hmerged : (m.override desired).find? name = some text := by
    rw [StringMap.find?_override, hfind, Option.some_or]
  exact StringMap.isEmpty_eq_false_of_find? hmerged

/-- **Metadata into which one rule more is injected.** -/
theorem DataGrown.metadata {b : Breaker} {before after : Json}
    (h : DataGrown brings b.keyPrefix before after) {c : Contribution} (hc : brings c) (n : UInt32)
    (now : Timestamp) :
    DataGrown brings b.keyPrefix before (c.metadata (b.bookkeeping n now) after) := by
  obtain ⟨hlabels, hannotations⟩ := c.map?_metadata (b.bookkeeping n now) h.exists_members
  refine ⟨c.isObject_metadata _ h.exists_members, fun name hname =>
    (c.member?_metadata_of_notMem _ hname).trans (h.beside name hname), ?_, ?_, ?_⟩
  · have hmember : (c.metadata (b.bookkeeping n now) after).member? "labels"
        = (merged "labels" c.labels after).or (after.member? "labels") := by
      rw [Contribution.metadata, member?_withMember_of_ne _ (by simp),
        member?_withMember_same h.exists_members]
    rw [hmember, merged]
    split
    · exact h.labels
    · next hne => exact .inr ⟨_, isEmpty_override (Bool.eq_false_iff.2 hne), rfl⟩
  · intro name hnone
    rw [← h.label name hnone, textAt?, hlabels, StringMap.find?_onto, hnone c hc, Option.none_or]
    rfl
  · intro name hreserved hnone
    have hkept : (b.bookkeeping n now).find? name = none := by
      obtain ⟨rest, hrest⟩ := b.exists_timestampKey_eq
      rw [Breaker.find?_bookkeeping, if_neg fun heq => hreserved rest (heq.symm.trans hrest),
        if_neg fun heq => hreserved _ heq.symm]
    rw [← h.annotation name hreserved hnone, textAt?, hannotations, StringMap.find?_onto,
      StringMap.find?_override, hkept, hnone c hc, Option.none_or, Option.none_or]
    rfl

end Contribution

/-! ### Pods -/

namespace Engine.Admissible

variable {document : Json}

/-- The specification of a pod that can be patched is an object. -/
theorem exists_spec_members (h : Admissible document) :
    ∃ members, document.member? "spec" = some (.obj members) := by
  obtain ⟨pod, spec, hpod, hview⟩ := h.exists_spec
  obtain ⟨_, rfl⟩ := (Pod.ofJson?_eq_some_iff document pod).1 hpod
  obtain ⟨object, hobject, _⟩ := Option.map_eq_some_iff.1 hview
  obtain ⟨hmember, members, rfl⟩ := View.object?_eq_some_iff.1 hobject
  exact ⟨members, hmember⟩

/-- Its containers are canonical objects. -/
theorem isCanonicalObject_container (h : Admissible document) {spec : Json}
    (hspec : document.member? "spec" = some spec) {name : String}
    (hname : name ∈ ["initContainers", "containers"]) {k : Json} (hk : k ∈ View.items name spec) :
    k.IsCanonicalObject := by
  obtain ⟨members, hobj⟩ := h.exists_spec_members
  obtain ⟨pod, _, hpod, _⟩ := h.exists_spec
  obtain ⟨hshape, _⟩ := (Pod.ofJson?_eq_some_iff document pod).1 hpod
  exact Pod.isCanonicalObject_container h.isCanonical hshape hspec
    ⟨members, Option.some.inj (hspec.symm.trans hobj)⟩ hname hk

end Engine.Admissible

namespace Contribution

variable {brings : Contribution → Prop}

/-- **What a pod has gained.** -/
structure Grown (brings : Contribution → Prop) (keyPrefix : String) (before after : Json) :
    Prop where
  exists_members : ∃ members, after = .obj members
  beside : ∀ name ∉ ["spec", "metadata"], after.member? name = before.member? name
  spec : ∃ old new, before.member? "spec" = some old ∧ after.member? "spec" = some new
    ∧ SpecGrown brings old new
  metadata : ∃ old new, before.member? "metadata" = some old ∧ after.member? "metadata" = some new
    ∧ DataGrown brings keyPrefix old new

/-- **A pod into which one rule more is injected.** -/
theorem Grown.inject (hterms : ∀ c, brings c → ∀ required, c.required = some required →
      required.nodeSelectorTerms ≠ []) {b : Breaker} {before after : Json}
    (hstart : Engine.Admissible before) (h : Grown brings b.keyPrefix before after)
    {c : Contribution} (hc : brings c) (n : UInt32) (now : Timestamp) :
    Grown brings b.keyPrefix before (c.inject (b.bookkeeping n now) after) := by
  obtain ⟨old, new, hold, hnew, hspec⟩ := h.spec
  obtain ⟨data, data', hdata, hdata', hmetadata⟩ := h.metadata
  obtain ⟨hspec', hmetadata'⟩ := c.member?_inject (b.bookkeeping n now) hnew hdata'
  have hitems : ∀ k ∈ View.items "containers" old, k.IsCanonicalObject := fun k hk =>
    hstart.isCanonicalObject_container hold (by simp) hk
  exact ⟨isObject_withMember (isObject_withMember h.exists_members _ _) _ _, fun name hname =>
      (c.member?_inject_of_notMem _ hname).trans (h.beside name hname),
    ⟨old, _, hold, hspec', hspec.specification hterms hitems hc⟩,
    data, _, hdata, hmetadata', hmetadata.metadata hc n now⟩

theorem Grown.refl {keyPrefix : String} {document : Json} (h : Engine.Admissible document) :
    Grown brings keyPrefix document document := by
  obtain ⟨fields, hspec⟩ := h.exists_spec_members
  obtain ⟨members, hdata⟩ := h.exists_metadata
  exact ⟨exists_members_of_member? hspec, fun _ _ => rfl, ⟨_, _, hspec, hspec, .refl ⟨fields, rfl⟩⟩,
    _, _, hdata, hdata, .refl ⟨members, rfl⟩⟩

end Contribution

end Sidecar
