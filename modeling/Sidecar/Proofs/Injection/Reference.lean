/-
**What an injection does to a pod.**

The engine computes all operations from the pod as it is and has them carried out one after
another.  The outcome is told here without operations: each member of the specification and of the
metadata that a rule can touch is given as it becomes, computed from the document before the patch,
and every other member stays.

Main definitions:

* `Sidecar.Contribution.mounted` — a container with the mounts whose paths it has not;
* `Sidecar.Contribution.demanded` — the affinity of a specification with the nodes demanded;
* `Sidecar.Contribution.specification`, `Sidecar.Contribution.metadata` — what becomes of the two
  parts of a pod;
* `Sidecar.Contribution.inject` — **what becomes of the pod.**

Main results:

* `Sidecar.Contribution.run?_mountsPatch` — the mounts of a list of containers, by position;
* `Sidecar.Contribution.run?_specPatch`, `Sidecar.Contribution.run?_metadataPatch` — the two
  patches have the effects that the reference gives;
* `Sidecar.Contribution.isCanonical_inject` — a canonical document stays canonical;
* `Sidecar.Engine.run?_patch_of_mutate` — **the engine's patch does what the reference says.**
-/

import Mathlib.Control.Monad.Basic
import Sidecar.Proofs.Cluster.Accepted
import Sidecar.Proofs.Cluster.Canonical
import Sidecar.Proofs.Injection.Operations

set_option autoImplicit false

namespace Sidecar

namespace Contribution

open Cluster Injection Json

/-! ### The reference -/

/-- The container with the mounts whose paths it has not. -/
def mounted (mounts : List VolumeMount) (container : Json) : Json :=
  container.withMember "volumeMounts" (grown "volumeMounts" id
    ((fresh (·.mountPath) (PodContainer.view container).mountPaths mounts).map (·.toJson))
    container)

/-- The affinity of a specification with the nodes demanded, unless it demands nodes already; what
stands beside them stays. -/
def demanded (required : NodeSelector) (spec : Json) : Option Json :=
  match PodAffinity.view spec with
  | .nodes (_ + 1) => none
  | _ =>
    let affinity := (View.object? "affinity" spec).getD (.obj [])
    let nodeAffinity := (View.object? "nodeAffinity" affinity).getD (.obj [])
    some (affinity.withMember "nodeAffinity"
      (some (nodeAffinity.withMember requiredNodes (some required.toJson))))

variable (c : Contribution)

/-- The volumes of a specification, with those of the rule whose names it has not. -/
def volumesAfter (spec : Json) : Option Json :=
  grown "volumes" id
    ((fresh (·.name) (PodSpec.view spec).volumes c.volumes).map (·.toJson)) spec

/-- The initial containers of a specification, mounted into. -/
def initContainersAfter (spec : Json) : Option Json :=
  grown "initContainers" (mounted c.volumeMounts) [] spec

/-- The containers of a specification, mounted into, with those of the rule whose names it has
not. -/
def containersAfter (spec : Json) : Option Json :=
  grown "containers" (mounted c.volumeMounts)
    ((fresh (·.name) ((PodSpec.view spec).containers.map (·.name)) c.containers).map (·.toJson))
    spec

/-- The affinity of a specification with the nodes that the rule demands, if it demands any. -/
def affinityAfter (spec : Json) : Option Json :=
  c.required.bind fun required => demanded required spec

/-- The tolerations of a specification, with those of the rule that it has not. -/
def tolerationsAfter (spec : Json) : Option Json :=
  grown "tolerations" id
    ((fresh id (PodSpec.view spec).tolerations c.tolerations).map (·.toJson)) spec

/-- What becomes of the specification of a pod. -/
def specification (spec : Json) : Json :=
  spec
    |>.withMember "volumes" (c.volumesAfter spec)
    |>.withMember "initContainers" (c.initContainersAfter spec)
    |>.withMember "containers" (c.containersAfter spec)
    |>.withMember "affinity" (c.affinityAfter spec)
    |>.withMember "tolerations" (c.tolerationsAfter spec)

/-- What becomes of the metadata of a pod, where the breaker leaves its annotations as well. -/
def metadata (bookkeeping : StringMap) (metadata : Json) : Json :=
  metadata
    |>.withMember "labels" (merged "labels" c.labels metadata)
    |>.withMember "annotations"
      (merged "annotations" (c.annotations.override bookkeeping) metadata)

/-- What becomes of a pod. -/
def inject (bookkeeping : StringMap) (pod : Json) : Json :=
  pod
    |>.withMember "spec" ((pod.member? "spec").map c.specification)
    |>.withMember "metadata" ((pod.member? "metadata").map (c.metadata bookkeeping))

/-! ### One container and all of a list -/

section Mounts

variable (mounts : List VolumeMount)

/-- Mounting into a container. -/
theorem run?_mountPatch {container : Json} (h : container.IsCanonicalObject) :
    Patch.run? (mountPatch mounts (PodContainer.view container)) container
      = some (mounted mounts container) :=
  Patch.run?_append_items h (List.length_map _).symm _

theorem writesBelow_mountPatch (container : PodContainer) :
    (mountPatch mounts container).WritesBelow :=
  Patch.writesBelow_append_items _ _ _

/-- Mounting into the containers of a list, the first of them mounted into already. -/
theorem run?_mountsPatch_from (done rest : List Json)
    (hrest : ∀ x ∈ rest, x.IsCanonicalObject) :
    Patch.run? (((rest.map PodContainer.view).zipIdx done.length).map fun (container, i) =>
        (mountPatch mounts container).under (toString i)).flatten (.arr (done ++ rest))
      = some (.arr (done ++ rest.map (mounted mounts))) := by
  -- induction on the containers still to come; those before keep their positions
  induction rest generalizing done with
  | nil => rfl
  | cons x rest ih =>
      have hx : (done ++ x :: rest)[done.length]? = some x := by simp
      have hfirst : Patch.run? ((mountPatch mounts (PodContainer.view x)).under
            (toString done.length)) (.arr (done ++ x :: rest))
          = some (.arr ((done ++ [mounted mounts x]) ++ rest)) := by
        rw [Patch.run?_under_item (writesBelow_mountPatch mounts _) hx,
          run?_mountPatch mounts (hrest x (List.mem_cons_self ..))]
        simp
      have hnext := ih (done ++ [mounted mounts x]) fun y hy => hrest y (List.mem_cons_of_mem _ hy)
      rw [List.length_append, List.length_singleton, List.append_assoc _ _ (rest.map _),
        List.singleton_append] at hnext
      rw [List.map_cons, List.zipIdx_cons, List.map_cons, List.flatten_cons, Patch.run?_append]
      exact (congrArg (Option.bind · _) hfirst).trans hnext

/-- Mounting into the containers of a list. -/
theorem run?_mountsPatch {items : List Json}
    (hitems : ∀ x ∈ items, x.IsCanonicalObject) :
    Patch.run? (mountsPatch mounts (items.map PodContainer.view)) (.arr items)
      = some (.arr (items.map (mounted mounts))) :=
  run?_mountsPatch_from mounts [] items hitems

theorem writesBelow_mountsPatch (containers : List PodContainer) :
    (mountsPatch mounts containers).WritesBelow := by
  intro op hop
  obtain ⟨patch, hpatch, hop⟩ := List.mem_flatten.1 hop
  obtain ⟨⟨container, i⟩, _, rfl⟩ := List.mem_map.1 hpatch
  exact (writesBelow_mountPatch mounts container).under (toString i) op hop

/-- Mounting into the containers under a name. -/
theorem run?_under_mountsPatch {json : Json} (hc : json.IsCanonical) {name : String}
    (hitems : ∀ x ∈ View.items name json, x.IsCanonicalObject) :
    Patch.run? ((mountsPatch mounts ((View.items name json).map PodContainer.view)).under name) json
      = some (json.withMember name (grown name (mounted mounts) [] json)) := by
  rcases Classical.em (View.items name json = []) with hnil | hne
  · rw [hnil]
    unfold grown
    split
    · next items heq =>
      have hempty : items = [] := by
        rw [View.items, heq] at hnil
        exact hnil
      rw [hempty] at heq ⊢
      exact congrArg some (withMember_self hc heq).symm
    · rw [List.isEmpty_nil, if_pos rfl, withMember_none]
      rfl
  · have hmember := member?_of_items_ne_nil hne
    rw [Patch.run?_under_member (writesBelow_mountsPatch mounts _) hmember
      (withMember_self hc hmember), run?_mountsPatch mounts hitems, grown_of_arr hmember,
      List.append_nil]
    rfl

end Mounts

/-! ### The affinity -/

/-- **Demanding nodes** adds them at the first level that is missing, or nothing. -/
theorem run?_requirePatch (required : NodeSelector) {spec : Json}
    (h : spec.IsCanonicalObject) :
    Patch.run? (requirePatch required (PodAffinity.view spec)) spec
      = some (spec.withMember "affinity" (demanded required spec)) := by
  have hc := h.isCanonical
  obtain ⟨members, rfl⟩ := h.exists_members
  unfold demanded
  cases haffinity : View.object? "affinity" (.obj members) with
  | none =>
      have hview : PodAffinity.view (.obj members) = .absent := by rw [PodAffinity.view, haffinity]
      rw [hview]
      rfl
  | some affinity =>
      -- the operation writes below the affinity, one or two levels down
      obtain ⟨hmember, fields, rfl⟩ := View.object?_eq_some_iff.1 haffinity
      have hself := withMember_self hc hmember
      cases hnodes : View.object? "nodeAffinity" (.obj fields) with
      | none =>
          have hview : PodAffinity.view (.obj members) = .withoutNodes := by
            simp only [PodAffinity.view, haffinity, hnodes]
          have hw : Patch.WritesBelow
              [.add ["nodeAffinity"] (Cluster.NodeAffinity.toJson ⟨some required⟩)] := by
            simp [Patch.WritesBelow, Operation.WritesBelow]
          rw [hview]
          simp only [Option.getD_some, Option.getD_none, hnodes]
          exact Patch.run?_under_member hw hmember hself
      | some preference =>
          obtain ⟨hmember', fields', rfl⟩ := View.object?_eq_some_iff.1 hnodes
          have hself' := withMember_self (hc.member? hmember) hmember'
          have hw : Patch.WritesBelow [.add [requiredNodes] required.toJson] := by
            simp [Patch.WritesBelow, Operation.WritesBelow]
          obtain ⟨n, hview⟩ : ∃ n, PodAffinity.view (.obj members) = .nodes n := by
            simp only [PodAffinity.view, haffinity, hnodes]
            split
            · exact ⟨_, rfl⟩
            · exact ⟨_, rfl⟩
          rw [hview]
          simp only [Option.getD_some, hnodes]
          cases n with
          | zero =>
              have hrun := Patch.run?_under_member (hw.under "nodeAffinity") hmember hself
              rw [Patch.run?_under_member hw hmember' hself'] at hrun
              exact hrun
          | succ n => exact congrArg some (withMember_none _ _).symm

/-! ### Stage by stage

Each stage finds the document as the stages before it have left it, but its operations were
computed from the document of the beginning, the `origin`.  What a stage needs of the two is that
they agree in the member that it changes. -/

section Stages

variable {json origin : Json} {name : String}

/-- A stage that appends. -/
theorem run?_append_stage (h : json.IsCanonicalObject)
    (hsame : json.member? name = origin.member? name) {length : Nat}
    (hlength : (View.items name origin).length = length) (new : List Json) :
    Patch.run? (.append [name] length new) json
      = some (json.withMember name (grown name id new origin)) := by
  rw [← View.items_congr hsame] at hlength
  rw [Patch.run?_append_items h hlength, grown_congr hsame]

/-- The stage that mounts. -/
theorem run?_mounts_stage (mounts : List VolumeMount) (h : json.IsCanonicalObject)
    (hsame : json.member? name = origin.member? name)
    (hitems : ∀ x ∈ View.items name origin, x.IsCanonicalObject) :
    Patch.run? ((mountsPatch mounts ((View.items name origin).map PodContainer.view)).under name)
        json
      = some (json.withMember name (grown name (mounted mounts) [] origin)) := by
  rw [← View.items_congr hsame] at hitems ⊢
  rw [run?_under_mountsPatch mounts h.isCanonical hitems, grown_congr hsame]

/-- A stage that appends to a list whose items have been changed before. -/
theorem run?_append_after (h : json.IsCanonicalObject)
    (hsame : json.member? name = origin.member? name) {change : Json → Json}
    (hchange : ∀ x, x.IsCanonical → (change x).IsCanonical) {length : Nat}
    (hlength : (View.items name origin).length = length) (new : List Json) :
    Patch.run? (.append [name] length new)
        (json.withMember name (grown name change [] origin))
      = some (json.withMember name (grown name change new origin)) := by
  -- a change of the items leaves their number as it is, so the operations still fit
  rw [← View.items_congr hsame, ← length_items_grown h name change] at hlength
  rw [← grown_congr hsame, ← grown_congr hsame change new]
  have hmember : IsCanonicalMember (grown name change [] json) :=
    isCanonicalMember_grown h.isCanonical hchange (by simp)
  rw [Patch.run?_append_items (h.withMember name hmember) hlength, withMember_grown_grown h]

theorem view_affinity_congr (hsame : json.member? "affinity" = origin.member? "affinity") :
    PodAffinity.view json = PodAffinity.view origin := by
  rw [PodAffinity.view, View.object?_congr hsame]
  rfl

/-- The stage that demands nodes. -/
theorem run?_affinity_stage (h : json.IsCanonicalObject)
    (hsame : json.member? "affinity" = origin.member? "affinity") :
    Patch.run? (c.affinityPatch (PodAffinity.view origin)) json
      = some (json.withMember "affinity" (c.affinityAfter origin)) := by
  unfold affinityPatch affinityAfter
  cases c.required with
  | none => exact congrArg some (withMember_none _ _).symm
  | some required =>
      have hdemanded : demanded required json = demanded required origin := by
        rw [demanded, view_affinity_congr hsame, View.object?_congr hsame]
        rfl
      rw [Option.bind_some, ← hdemanded, ← view_affinity_congr hsame]
      exact run?_requirePatch required h

end Stages

/-! ### What is canonical stays so -/

theorem isCanonical_of_mem_map {α : Type} {toJson : α → Json} (h : ∀ a, (toJson a).IsCanonical)
    (items : List α) : ∀ x ∈ items.map toJson, x.IsCanonical := by
  intro x hx
  obtain ⟨a, _, rfl⟩ := List.mem_map.1 hx
  exact h a

theorem isCanonical_mounted (mounts : List VolumeMount) {container : Json}
    (h : container.IsCanonical) : (mounted mounts container).IsCanonical :=
  h.withMember _ (isCanonicalMember_grown h (fun _ hx => hx)
    (isCanonical_of_mem_map VolumeMount.isCanonical_toJson _))

theorem isCanonicalMember_demanded (required : NodeSelector) {spec : Json} (h : spec.IsCanonical) :
    IsCanonicalMember (demanded required spec) := by
  have hobject : ∀ {json : Json} (name : String), json.IsCanonical →
      ((View.object? name json).getD (.obj [])).IsCanonical := by
    intro json name hjson
    cases hfound : View.object? name json with
    | none => exact .obj List.Pairwise.nil (by simp)
    | some value => exact hjson.member? (View.object?_eq_some_iff.1 hfound).1
  intro value hvalue
  unfold demanded at hvalue
  split at hvalue
  · cases hvalue
  · obtain rfl := Option.some.inj hvalue
    have haffinity := hobject "affinity" h
    refine haffinity.withMember _ (isCanonicalMember_some.2 ?_)
    exact (hobject "nodeAffinity" haffinity).withMember _
      (isCanonicalMember_some.2 required.isCanonical_toJson)

section Members

variable {spec : Json} (h : spec.IsCanonical)

include h

theorem isCanonicalMember_volumesAfter : IsCanonicalMember (c.volumesAfter spec) :=
  isCanonicalMember_grown h (fun _ hx => hx) (isCanonical_of_mem_map Volume.isCanonical_toJson _)

theorem isCanonicalMember_initContainersAfter : IsCanonicalMember (c.initContainersAfter spec) :=
  isCanonicalMember_grown h (fun _ hx => isCanonical_mounted _ hx) (by simp)

theorem isCanonicalMember_containersAfter : IsCanonicalMember (c.containersAfter spec) :=
  isCanonicalMember_grown h (fun _ hx => isCanonical_mounted _ hx)
    (isCanonical_of_mem_map Container.isCanonical_toJson _)

theorem isCanonicalMember_affinityAfter : IsCanonicalMember (c.affinityAfter spec) := by
  unfold affinityAfter
  cases c.required with
  | none => exact fun _ h => by cases h
  | some required => exact isCanonicalMember_demanded required h

theorem isCanonicalMember_tolerationsAfter : IsCanonicalMember (c.tolerationsAfter spec) :=
  isCanonicalMember_grown h (fun _ hx => hx)
    (isCanonical_of_mem_map Toleration.isCanonical_toJson _)

end Members

/-! ### The two parts and the whole -/

section Whole

variable {spec document : Json}

/-- **The first patch has the effect that the reference gives.** -/
theorem run?_specPatch (h : spec.IsCanonicalObject)
    (hinit : ∀ x ∈ View.items "initContainers" spec, x.IsCanonicalObject)
    (hcontainers : ∀ x ∈ View.items "containers" spec, x.IsCanonicalObject) :
    Patch.run? (c.specPatch (PodSpec.view spec)) spec = some (c.specification spec) := by
  have hc := h.isCanonical
  -- what each stage leaves behind is again a canonical object
  have h1 := h.withMember "volumes" (c.isCanonicalMember_volumesAfter hc)
  have h2 := h1.withMember "initContainers" (c.isCanonicalMember_initContainersAfter hc)
  have h3 := h2.withMember "containers" (c.isCanonicalMember_containersAfter hc)
  have h4 := h3.withMember "affinity" (c.isCanonicalMember_affinityAfter hc)
  -- each stage was computed from the specification before the first, and finds the members that it
  -- was computed from as they were there
  have hvolumes : Patch.run? (.append ["volumes"] (PodSpec.view spec).volumes.length _) spec
      = some (spec.withMember "volumes" (c.volumesAfter spec)) :=
    run?_append_stage h rfl (List.length_map _).symm _
  have hinit := run?_mounts_stage c.volumeMounts h1 (by simp) hinit
  have hmounts := run?_mounts_stage c.volumeMounts h2 (by simp) hcontainers
  have hgrown : Patch.run? (.append ["containers"] (PodSpec.view spec).containers.length _) _
      = some (Json.withMember _ "containers" (c.containersAfter spec)) :=
    run?_append_after h2 (by simp) (fun _ hx => isCanonical_mounted c.volumeMounts hx)
      (List.length_map _).symm _
  have haffinity : Patch.run? (c.affinityPatch (PodAffinity.view spec)) _
      = some (Json.withMember _ "affinity" (c.affinityAfter spec)) :=
    c.run?_affinity_stage h3 (by simp)
  have htolerations :
      Patch.run? (.append ["tolerations"] (PodSpec.view spec).tolerations.length _) _
      = some (Json.withMember _ "tolerations" (c.tolerationsAfter spec)) :=
    run?_append_stage h4 (by simp) (List.length_map _).symm _
  exact Patch.run?_append_of_eq_some (Patch.run?_append_of_eq_some (Patch.run?_append_of_eq_some
    (Patch.run?_append_of_eq_some hvolumes (Patch.run?_append_of_eq_some hinit hmounts))
    hgrown) haffinity) htolerations

theorem isCanonical_specification (h : spec.IsCanonical) : (c.specification spec).IsCanonical :=
  h.withMember _ (c.isCanonicalMember_volumesAfter h)
    |>.withMember _ (c.isCanonicalMember_initContainersAfter h)
    |>.withMember _ (c.isCanonicalMember_containersAfter h)
    |>.withMember _ (c.isCanonicalMember_affinityAfter h)
    |>.withMember _ (c.isCanonicalMember_tolerationsAfter h)

/-- **The second patch has the effect that the reference gives.** -/
theorem run?_metadataPatch {data : Json} (h : data.IsCanonicalObject)
    (hmap : ∀ name ∈ ["labels", "annotations"], ∀ m, View.map? name data = some m →
      data.member? name = some (stringMap m))
    {pod : Pod} (hlabels : pod.labels = View.map? "labels" data)
    (hannotations : pod.annotations = View.map? "annotations" data) (bookkeeping : StringMap) :
    Patch.run? (c.metadataPatch bookkeeping pod) data = some (c.metadata bookkeeping data) := by
  have h1 := h.withMember "labels" (isCanonicalMember_merged "labels" c.labels data)
  have hsame : (data.withMember "labels" (merged "labels" c.labels data)).member? "annotations"
      = data.member? "annotations" := by simp
  have hview := View.map?_congr hsame
  have hfirst := Patch.run?_mergeMap h (hmap "labels" (by simp)) c.labels
  have hsecond := Patch.run?_mergeMap h1
    (fun m hm => hsame.trans (hmap "annotations" (by simp) m (hview ▸ hm)))
    (c.annotations.override bookkeeping)
  rw [hview, merged_congr hsame] at hsecond
  rw [metadataPatch, hlabels, hannotations]
  exact Patch.run?_append_of_eq_some hfirst hsecond

theorem isCanonical_metadata (bookkeeping : StringMap) {data : Json} (h : data.IsCanonical) :
    (c.metadata bookkeeping data).IsCanonical :=
  h.withMember _ (isCanonicalMember_merged _ _ _)
    |>.withMember _ (isCanonicalMember_merged _ _ _)

/-- **A canonical document stays canonical.** -/
theorem isCanonical_inject (bookkeeping : StringMap) (h : document.IsCanonical) :
    (c.inject bookkeeping document).IsCanonical := by
  have hpart : ∀ (name : String) (change : Json → Json),
      (∀ x, x.IsCanonical → (change x).IsCanonical) →
      IsCanonicalMember ((document.member? name).map change) := by
    intro name change hchange value hvalue
    obtain ⟨x, hx, rfl⟩ := Option.map_eq_some_iff.1 hvalue
    exact hchange x (h.member? hx)
  exact h.withMember _ (hpart "spec" _ fun _ => c.isCanonical_specification)
    |>.withMember _ (hpart "metadata" _ fun _ => c.isCanonical_metadata bookkeeping)

theorem writesBelow_specPatch (view : PodSpec) : (c.specPatch view).WritesBelow := by
  have haffinity : (c.affinityPatch view.affinity).WritesBelow := by
    unfold affinityPatch requirePatch
    intro op hop
    split at hop
    · cases hop
    · split at hop <;> simp at hop <;> subst hop <;> exact List.cons_ne_nil _ _
  exact (((Patch.writesBelow_append_items _ _ _).append
    (((writesBelow_mountsPatch _ _).under _).append ((writesBelow_mountsPatch _ _).under _))).append
    (Patch.writesBelow_append_items _ _ _)).append haffinity |>.append
    (Patch.writesBelow_append_items _ _ _)

theorem writesBelow_metadataPatch (bookkeeping : StringMap) (pod : Pod) :
    (c.metadataPatch bookkeeping pod).WritesBelow :=
  (Patch.writesBelow_mergeMap _ _ _).append (Patch.writesBelow_mergeMap _ _ _)

/-- **The specification changes as the reference gives**, and nothing beside it. -/
theorem run?_under_specPatch (hc : document.IsCanonical) {pod : Pod}
    (hpod : Pod.ofJson? document = some pod) {view : PodSpec} (hview : pod.spec = some view) :
    ∃ spec, document.member? "spec" = some spec
      ∧ Patch.run? ((c.specPatch view).under "spec") document
        = some (document.withMember "spec" (some (c.specification spec))) := by
  obtain ⟨hshape, rfl⟩ := (Pod.ofJson?_eq_some_iff document pod).1 hpod
  obtain ⟨spec, hspec, rfl⟩ := Option.map_eq_some_iff.1 hview
  obtain ⟨hspec, hobj⟩ := View.object?_eq_some_iff.1 hspec
  have hcontainers : ∀ name ∈ ["initContainers", "containers"], ∀ x ∈ View.items name spec,
      x.IsCanonicalObject :=
    fun _ hname _ hx => Pod.isCanonicalObject_container hc hshape hspec hobj hname hx
  refine ⟨spec, hspec, ?_⟩
  rw [Patch.run?_under_member (c.writesBelow_specPatch (PodSpec.view spec)) hspec
    (withMember_self hc hspec), c.run?_specPatch ⟨hc.member? hspec, hobj⟩
    (hcontainers "initContainers" (by simp)) (hcontainers "containers" (by simp)), Option.map_some]

/-- **The operations of an injection bring about what the reference gives**, on every document that
has the shape of a pod and metadata of its own. -/
theorem run?_inject (hc : document.IsCanonical) {pod : Pod} (hpod : Pod.ofJson? document = some pod)
    {view : PodSpec} (hview : pod.spec = some view) {members : List (String × Json)}
    (hdata : document.member? "metadata" = some (.obj members)) (bookkeeping : StringMap) :
    Patch.run? ((c.specPatch view).under "spec"
        ++ (c.metadataPatch bookkeeping pod).under "metadata") document
      = some (c.inject bookkeeping document) := by
  obtain ⟨spec, hspec, hfirst⟩ := c.run?_under_specPatch hc hpod hview
  obtain ⟨hshape, rfl⟩ := (Pod.ofJson?_eq_some_iff document pod).1 hpod
  have hnext := hc.withMember "spec" (isCanonicalMember_some.2
    (c.isCanonical_specification (hc.member? hspec)))
  -- the metadata is as it was
  have hdata' : (document.withMember "spec" (some (c.specification spec))).member? "metadata"
      = some (.obj members) := by
    rw [member?_withMember_of_ne _ (by simp), hdata]
  have hsecond := Patch.run?_under_member
    (c.writesBelow_metadataPatch bookkeeping (Pod.view document)) hdata'
    (withMember_self hnext hdata')
  have hseen : View.object? "metadata" document = some (.obj members) :=
    View.object?_eq_some_iff.2 ⟨hdata, members, rfl⟩
  rw [c.run?_metadataPatch ⟨hc.member? hdata, members, rfl⟩
    (fun _ hname _ hm => Pod.member?_metadata hc hshape hdata hname hm)
    (by simp [Pod.view, hseen]) (by simp [Pod.view, hseen]) bookkeeping, Option.map_some] at hsecond
  rw [inject, hspec, hdata]
  exact Patch.run?_append_of_eq_some hfirst hsecond

end Whole

end Contribution

namespace Engine

open Cluster Json

/-- **What the engine's patch does to a pod.**  Whatever registered rule the engine injects, its
patch, also when it has been written and read back, applies to the document of the pod, and the
outcome is what the reference gives for the contribution of the rule and what the breaker leaves
behind. -/
theorem run?_patch_of_mutate {rules : List Rule} {registry : Registry}
    (hbuild : Registry.build rules = .ok registry) {document : Json} (hc : document.IsCanonical)
    {pod : Pod} (hpod : Pod.ofJson? document = some pod) {members : List (String × Json)}
    (hdata : document.member? "metadata" = some (.obj members))
    {keyPrefix fingerprint name : String} {now : Timestamp} {patch : Patch}
    (hpatched : Engine.mutate ⟨registry, keyPrefix⟩ fingerprint pod now
      = .ok (.patched name patch)) :
    ∃ registered ∈ registry.rules, registered.fingerprint = fingerprint
      ∧ ∃ content, registered.rule.contribution = .ok content
      ∧ ∃ bookkeeping,
        Breaker.evaluate ⟨keyPrefix, registered⟩ pod.annotations now = .proceed bookkeeping
      ∧ patch.run? document = some (content.inject bookkeeping document)
      ∧ Patch.ofJson? patch.toJson = some patch := by
  obtain ⟨registered, hmem, hfingerprint, content, hcontent, bookkeeping, hproceed, view, hview,
    rfl⟩ := exists_contribution_of_mutate (Registry.sound_of_build hbuild) hpatched
  exact ⟨registered, hmem, hfingerprint, content, hcontent, bookkeeping, hproceed,
    content.run?_inject hc hpod hview hdata bookkeeping, Patch.ofJson?_toJson _⟩

/-- A rule with something for every part of a pod. -/
def agentRule : Rule :=
  { (default : Rule) with
    name := "agent"
    labels := .ofList [("mesh", "on")]
    affinity := some ⟨some ⟨some ⟨[⟨[⟨"disk", "In", ["ssd"]⟩], []⟩]⟩⟩⟩
    tolerations := [{ (default : Rule.Toleration) with key := "gpu" },
      { (default : Rule.Toleration) with key := "spot" }]
    containers := [{ (default : Rule.Container) with name := "app" },
      { (default : Rule.Container) with name := "agent" }]
    volumes := [⟨"tmp", none, none, some default⟩, ⟨"run", none, none, some default⟩]
    volumeMounts := [{ (default : Rule.VolumeMount) with name := "run", mountPath := "/run" }] }

/-- The rule as it is registered. -/
def agent : RegisteredRule := ⟨"57a107baa27fa62a", agentRule⟩

/-- A pod that has some of this already: a volume, a container and a toleration of the rule's, and
in another container a mount at the path of the rule's. -/
def crowded : Json :=
  .obj [("metadata", .obj [("annotations", .obj [("note", .str "old")]), ("name", .str "p")]),
    ("spec", .obj [
      ("affinity", .obj [("podAffinity", .obj [])]),
      ("containers", .arr [
        .obj [("name", .str "app"),
          ("volumeMounts", .arr [.obj [("mountPath", .str "/tmp"), ("name", .str "tmp")]])],
        .obj [("name", .str "log"),
          ("volumeMounts", .arr [.obj [("mountPath", .str "/run"), ("name", .str "tmp")]])]]),
      ("initContainers", .arr [.obj [("name", .str "setup")]]),
      ("tolerations", .arr [.obj [("key", .str "gpu")]]),
      ("volumes", .arr [.obj [("emptyDir", .obj []), ("name", .str "tmp")]])])]

/-- The nodes that the rule demands. -/
def agentNodes : Json :=
  .obj [(requiredNodes, .obj [("nodeSelectorTerms", .arr [.obj [("matchExpressions", .arr [
    .obj [("key", .str "disk"), ("operator", .str "In"), ("values", .arr [.str "ssd"])]])]])])]

/-- The patch for the pod. -/
def crowdedPatch : Patch :=
  [.add ["spec", "volumes", "-"] (.obj [("emptyDir", .obj []), ("name", .str "run")]),
    .add ["spec", "initContainers", "0", "volumeMounts"]
      (.arr [.obj [("mountPath", .str "/run"), ("name", .str "run")]]),
    .add ["spec", "containers", "0", "volumeMounts", "-"]
      (.obj [("mountPath", .str "/run"), ("name", .str "run")]),
    .add ["spec", "containers", "-"] (.obj [("image", .str ""), ("name", .str "agent")]),
    .add ["spec", "affinity", "nodeAffinity"] agentNodes,
    .add ["spec", "tolerations", "-"] (.obj [("key", .str "spot")]),
    .add ["metadata", "labels"] (.obj [("mesh", .str "on")]),
    .add ["metadata", "annotations", "example.org/57a107baa27fa62a"] (.str "1"),
    .add ["metadata", "annotations", "example.org/agent"] (.str "1970-01-01T00:00:00Z")]

/-- What becomes of the pod. -/
def crowdedAfter : Json :=
  .obj [("metadata", .obj [
      ("annotations", .obj [("example.org/57a107baa27fa62a", .str "1"),
        ("example.org/agent", .str "1970-01-01T00:00:00Z"), ("note", .str "old")]),
      ("labels", .obj [("mesh", .str "on")]), ("name", .str "p")]),
    ("spec", .obj [
      ("affinity", .obj [("nodeAffinity", agentNodes), ("podAffinity", .obj [])]),
      ("containers", .arr [
        .obj [("name", .str "app"),
          ("volumeMounts", .arr [.obj [("mountPath", .str "/tmp"), ("name", .str "tmp")],
            .obj [("mountPath", .str "/run"), ("name", .str "run")]])],
        .obj [("name", .str "log"),
          ("volumeMounts", .arr [.obj [("mountPath", .str "/run"), ("name", .str "tmp")]])],
        .obj [("image", .str ""), ("name", .str "agent")]]),
      ("initContainers", .arr [.obj [("name", .str "setup"),
        ("volumeMounts", .arr [.obj [("mountPath", .str "/run"), ("name", .str "run")]])]]),
      ("tolerations", .arr [.obj [("key", .str "gpu")], .obj [("key", .str "spot")]]),
      ("volumes", .arr [.obj [("emptyDir", .obj []), ("name", .str "tmp")],
        .obj [("emptyDir", .obj []), ("name", .str "run")]])])]

/-- The rule for the pod, each of whose parts gets what it lacks. -/
theorem run?_patch_of_crowded :
    Registry.build [agentRule] = .ok ⟨[agent]⟩ ∧ crowded.IsCanonical
      ∧ Pod.ofJson? crowded = some (Pod.view crowded)
      ∧ Engine.mutate ⟨⟨[agent]⟩, "example.org"⟩ "57a107baa27fa62a" (Pod.view crowded) .epoch
        = .ok (.patched "agent" crowdedPatch)
      ∧ ∃ (content : Contribution) (bookkeeping : StringMap),
        agentRule.contribution = .ok content
          ∧ Breaker.evaluate ⟨"example.org", agent⟩ (Pod.view crowded).annotations .epoch
            = .proceed bookkeeping
          ∧ crowdedPatch.run? crowded = some (content.inject bookkeeping crowded)
          ∧ content.inject bookkeeping crowded = crowdedAfter
          ∧ Patch.ofJson? crowdedPatch.toJson = some crowdedPatch := by
  have hbuild : Registry.build [agentRule] = .ok ⟨[agent]⟩ := by decide +kernel
  have hc : crowded.IsCanonical := by
    have hcanonical : crowded.canonical = crowded := by decide +kernel
    exact hcanonical ▸ isCanonical_canonical crowded
  have hpod : Pod.ofJson? crowded = some (Pod.view crowded) := by decide +kernel
  have hpatched : Engine.mutate ⟨⟨[agent]⟩, "example.org"⟩ "57a107baa27fa62a" (Pod.view crowded)
      .epoch = .ok (.patched "agent" crowdedPatch) := by decide +kernel
  have hafter : crowdedPatch.run? crowded = some crowdedAfter := by decide +kernel
  obtain ⟨registered, hmem, -, content, hcontent, bookkeeping, hproceed, hrun, hread⟩ :=
    run?_patch_of_mutate hbuild hc hpod rfl hpatched
  obtain rfl := List.mem_singleton.1 hmem
  exact ⟨hbuild, hc, hpod, hpatched, content, bookkeeping, hcontent, hproceed, hrun,
    Option.some.inj (hrun.symm.trans hafter), hread⟩

end Engine

end Sidecar
