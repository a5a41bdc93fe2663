/-
**The names of a pod's containers.**

The cluster demands that the containers of a pod have different names, those that run first
included.  An injection leaves the names of all containers as they are and adds containers whose
names differ from each other and from those of the containers that are there; the containers that
run first are not asked.  So the names stay different exactly if no container of the rule is called
by the name of one that runs first.

Main definition: `Sidecar.Cluster.PodSpec.containerNames` — the names of all containers.

Main results:

* `Sidecar.Contribution.containerNames_onSpec` — the names after an injection;
* `Sidecar.Contribution.nodup_containerNames_onSpec_iff` — when they differ;
* `Sidecar.Engine.nodup_containerNames_iff_of_admit?` — **when the names of a pod stay different**;
* `Sidecar.Engine.containerNames_repeated_of_initial` — a name that is given twice.
-/

import Sidecar.Proofs.Injection.View

set_option autoImplicit false

namespace Sidecar

open Cluster Injection Json

/-- The names of all containers of a pod, those that run first before the others. -/
def Cluster.PodSpec.containerNames (spec : PodSpec) : List String :=
  spec.initContainers.map (·.name) ++ spec.containers.map (·.name)

namespace Rule

/-- Items that keep a key when they are converted have the same keys afterwards. -/
theorem map_eq_of_mapM {ε α β κ : Type} {f : α → Except ε β} {key : α → κ} {key' : β → κ}
    (hkey : ∀ x y, f x = .ok y → key' y = key x) {xs : List α} {ys : List β}
    (h : xs.mapM f = .ok ys) : ys.map key' = xs.map key := by
  rw [mapM_eq_ok_iff] at h
  induction h with
  | nil => rfl
  | cons hx _ ih => rw [List.map_cons, List.map_cons, hkey _ _ hx, ih]

/-- The containers of a contribution are called as those of the rule. -/
theorem map_name_of_contribution {rule : Rule} {c : Contribution}
    (h : rule.contribution = .ok c) : c.containers.map (·.name) = rule.containers.map (·.name) :=
  map_eq_of_mapM (fun _ _ => Container.name_of_toCluster) (contribution_eq_ok_iff.1 h).2.2.1

end Rule

namespace Contribution

variable (c : Contribution) {spec : PodSpec}

/-- Mounting into containers leaves their names. -/
theorem map_name_mount (mounts : List VolumeMount) (containers : List PodContainer) :
    (containers.map (·.mount mounts)).map (·.name) = containers.map (·.name) := by
  rw [List.map_map]
  rfl

/-- The names of the containers that an injection adds. -/
def newNames (spec : PodSpec) : List String :=
  (fresh (·.name) (spec.containers.map (·.name)) c.containers).map (·.name)

/-- They are those of the contribution's containers that are not there. -/
theorem mem_newNames_iff {name : String} :
    name ∈ c.newNames spec ↔ name ∈ c.containers.map (·.name)
      ∧ name ∉ spec.containers.map (·.name) :=
  mem_map_fresh_iff ..

/-- The containers after an injection are called as before, with the new names behind. -/
theorem map_name_containers_onSpec :
    (c.onSpec spec).containers.map (·.name)
      = spec.containers.map (·.name) ++ c.newNames spec := by
  rw [onSpec, List.map_append, map_name_mount, List.map_map]
  rfl

/-- **The names after an injection** are those before and the new ones. -/
theorem containerNames_onSpec :
    (c.onSpec spec).containerNames = spec.containerNames ++ c.newNames spec := by
  have hinit : (c.onSpec spec).initContainers.map (·.name) = spec.initContainers.map (·.name) :=
    map_name_mount _ _
  rw [PodSpec.containerNames, hinit, map_name_containers_onSpec, ← List.append_assoc]
  rfl

/-- Names of the containers that run after the first ones stay different. -/
theorem nodup_map_name_onSpec (hn : (spec.containers.map (·.name)).Nodup) :
    ((c.onSpec spec).containers.map (·.name)).Nodup := by
  rw [map_name_containers_onSpec]
  refine List.nodup_append.2 ⟨hn, map_fresh_nodup _ _ _, ?_⟩
  intro name hold other hnew heq
  exact (c.mem_newNames_iff.1 (heq ▸ hnew)).2 hold

/-- **Names that differ stay different** exactly if no container of the contribution is called by
the name of one that runs first. -/
theorem nodup_containerNames_onSpec_iff (hn : spec.containerNames.Nodup) :
    (c.onSpec spec).containerNames.Nodup
      ↔ ∀ name ∈ c.containers.map (·.name), name ∉ spec.initContainers.map (·.name) := by
  have hapart := (List.nodup_append.1 hn).2.2
  rw [containerNames_onSpec, List.nodup_append]
  constructor
  · rintro ⟨_, _, hdiffer⟩ name hname hinit
    -- the name is of a container that runs first, so of none of the others, and it is added
    have hnew : name ∈ c.newNames spec :=
      c.mem_newNames_iff.2 ⟨hname, fun hother => hapart name hinit name hother rfl⟩
    exact hdiffer name (List.mem_append_left _ hinit) name hnew rfl
  · intro h
    refine ⟨hn, map_fresh_nodup _ _ _, ?_⟩
    rintro name hold _ hnew rfl
    obtain ⟨hname, hother⟩ := c.mem_newNames_iff.1 hnew
    rcases List.mem_append.1 hold with hinit | hcontainer
    · exact h name hname hinit
    · exact hother hcontainer

end Contribution

namespace Engine

/-- **When the names of a pod's containers stay different.**  The patch of a registered rule has
been applied to a pod whose containers, those that run first included, have different names.  The
containers behind the first ones have different names again, and all together do exactly if no
container of the rule is called by the name of one that runs first. -/
theorem nodup_containerNames_iff_of_admit? {rules : List Rule} {registry : Registry}
    (hbuild : Registry.build rules = .ok registry) {before after : Json}
    (hc : before.IsCanonical) {keyPrefix fingerprint : String} {now : Timestamp}
    (hadmitted : admit? ⟨registry, keyPrefix⟩ fingerprint now before = some after) {pod : Pod}
    (hpod : Pod.ofJson? before = some pod) {spec : PodSpec} (hspec : pod.spec = some spec)
    (hn : spec.containerNames.Nodup) :
    ∃ r ∈ registry.rules, r.fingerprint = fingerprint
      ∧ ∃ pod' spec', Pod.ofJson? after = some pod' ∧ pod'.spec = some spec'
      ∧ (spec'.containers.map (·.name)).Nodup
      ∧ (spec'.containerNames.Nodup
        ↔ ∀ k ∈ r.rule.containers, k.name ∉ spec.initContainers.map (·.name)) := by
  obtain ⟨_, r, hr, hfingerprint, _, c, hcontent, _, _, hpod', hspec', hafter⟩ :=
    exists_onPod_of_admit? (Registry.sound_of_build hbuild) hc hadmitted
  obtain rfl := Option.some.inj (hpod.symm.trans hpod')
  obtain rfl := Option.some.inj (hspec.symm.trans hspec')
  refine ⟨r, hr, hfingerprint, _, c.onSpec spec, hafter, c.spec_onPod hspec _, ?_, ?_⟩
  · exact c.nodup_map_name_onSpec (List.nodup_append.1 hn).2.1
  · rw [c.nodup_containerNames_onSpec_iff hn, Rule.map_name_of_contribution hcontent,
      List.forall_mem_map]

/-- A container of the rule is called like none of the pod's, and all names differ. -/
theorem nodup_containerNames_of_new_name :
    ∃ (registry : Registry) (after : Json) (pod : Pod) (spec : PodSpec),
      Registry.build [{ (default : Rule) with
          name := "a", containers := [{ (default : Rule.Container) with name := "side" }] }]
          = .ok registry
        ∧ admit? ⟨registry, "example.org"⟩ "c0f49139bf9221fe" .epoch
          (.obj [("metadata", .obj []),
            ("spec", .obj [("containers", .arr [.obj [("name", .str "app")]]),
              ("initContainers", .arr [.obj [("name", .str "setup")]])])]) = some after
        ∧ Pod.ofJson? after = some pod ∧ pod.spec = some spec ∧ spec.containerNames.Nodup := by
  have hbuild : Registry.build [{ (default : Rule) with
      name := "a", containers := [{ (default : Rule.Container) with name := "side" }] }]
        = .ok ⟨[⟨"c0f49139bf9221fe", { (default : Rule) with
          name := "a", containers := [{ (default : Rule.Container) with name := "side" }] }⟩]⟩ := by
    decide +kernel
  have hadmitted : admit? ⟨⟨[⟨"c0f49139bf9221fe", { (default : Rule) with
      name := "a", containers := [{ (default : Rule.Container) with name := "side" }] }⟩]⟩,
        "example.org"⟩ "c0f49139bf9221fe" .epoch
      (.obj [("metadata", .obj []), ("spec", .obj [("containers", .arr [.obj [("name", .str "app")]]),
        ("initContainers", .arr [.obj [("name", .str "setup")]])])])
      = some (.obj [("metadata", .obj [("annotations",
          .obj [("example.org/a", .str "1970-01-01T00:00:00Z"),
            ("example.org/c0f49139bf9221fe", .str "1")])]),
        ("spec", .obj [("containers", .arr [.obj [("name", .str "app")],
            .obj [("image", .str ""), ("name", .str "side")]]),
          ("initContainers", .arr [.obj [("name", .str "setup")]])])]) := by
    decide +kernel
  have hpod : Pod.ofJson? (.obj [("metadata", .obj []),
      ("spec", .obj [("containers", .arr [.obj [("name", .str "app")]]),
        ("initContainers", .arr [.obj [("name", .str "setup")]])])])
      = some ⟨none, none, some ⟨[], [⟨"setup", []⟩], [⟨"app", []⟩], .absent, []⟩⟩ := by
    decide +kernel
  obtain ⟨r, hr, _, pod, spec, hafter, hspec, _, hiff⟩ :=
    nodup_containerNames_iff_of_admit? hbuild (isCanonical_canonical (.obj [("metadata", .obj []),
      ("spec", .obj [("containers", .arr [.obj [("name", .str "app")]]),
        ("initContainers", .arr [.obj [("name", .str "setup")]])])])) hadmitted hpod rfl (by decide)
  obtain rfl := List.mem_singleton.1 hr
  exact ⟨_, _, pod, spec, hbuild, hadmitted, hafter, hspec, hiff.2 (by decide)⟩

/-- A container of the rule is called like one that runs first: the name is given twice. -/
theorem containerNames_repeated_of_initial :
    ∃ (registry : Registry) (before after : Json) (pod pod' : Pod) (spec spec' : PodSpec),
      Registry.build [{ (default : Rule) with
          name := "a", containers := [{ (default : Rule.Container) with name := "setup" }] }]
          = .ok registry
        ∧ before.IsCanonical ∧ Pod.ofJson? before = some pod ∧ pod.spec = some spec
        ∧ spec.containerNames.Nodup
        ∧ admit? ⟨registry, "example.org"⟩ "7465f8904eda01b7" .epoch before = some after
        ∧ Pod.ofJson? after = some pod' ∧ pod'.spec = some spec'
        ∧ spec'.containerNames = ["setup", "app", "setup"] := by
  refine ⟨⟨[⟨"7465f8904eda01b7", { (default : Rule) with
      name := "a", containers := [{ (default : Rule.Container) with name := "setup" }] }⟩]⟩,
    .canonical (.obj [("metadata", .obj []),
      ("spec", .obj [("containers", .arr [.obj [("name", .str "app")]]),
        ("initContainers", .arr [.obj [("name", .str "setup")]])])]),
    .obj [("metadata", .obj [("annotations",
        .obj [("example.org/7465f8904eda01b7", .str "1"),
          ("example.org/a", .str "1970-01-01T00:00:00Z")])]),
      ("spec", .obj [("containers", .arr [.obj [("name", .str "app")],
          .obj [("image", .str ""), ("name", .str "setup")]]),
        ("initContainers", .arr [.obj [("name", .str "setup")]])])],
    ⟨none, none, some ⟨[], [⟨"setup", []⟩], [⟨"app", []⟩], .absent, []⟩⟩,
    ⟨none, some (.ofList [("example.org/7465f8904eda01b7", "1"),
      ("example.org/a", "1970-01-01T00:00:00Z")]),
      some ⟨[], [⟨"setup", []⟩], [⟨"app", []⟩, ⟨"setup", []⟩], .absent, []⟩⟩,
    _, _, by decide +kernel, isCanonical_canonical _, by decide +kernel, rfl, by decide,
    by decide +kernel, by decide +kernel, rfl, by decide⟩

end Engine

end Sidecar
