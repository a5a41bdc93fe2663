/-
**What a pod lacks after an injection.**

After an injection the pod has all that the rule brings, with two exceptions.  The rule's mounts
are for the containers that the pod has when it is admitted, so those that the injection itself adds
come without them; and where the breaker notes something under a name that the rule annotates
differently, the breaker has the last word.  In both cases the next admission finds something to do
again, and does it if the counter is still below the limit.

Main definitions:

* `Sidecar.Rule.MountsInNew` — the containers that a rule adds have its mounts already;
* `Sidecar.Rule.AnnotatesBeside` — the breaker's notes contradict no annotation of the rule.

Main results:

* `Sidecar.Contribution.present_onPod_iff` — **what is there after an injection**;
* `Sidecar.Breaker.iterations_onto` — the counter after an injection;
* `Sidecar.Engine.patched_again_iff_of_admit?` — **when a pod is patched again**;
* `Sidecar.Engine.patched_again_of_new_container` — a pod that is.
-/

import Sidecar.Proofs.Injection.Names
import Sidecar.Proofs.Text.Trimming

set_option autoImplicit false

namespace Sidecar

open Cluster Injection Json

/-! ### The parts of a rule and of its contribution -/

namespace Rule

theorem VolumeMount.mountPath_of_toCluster {m : VolumeMount} {w : Cluster.VolumeMount}
    (h : m.toCluster = .ok w) : w.mountPath = m.mountPath := by
  unfold toCluster at h
  split at h
  · cases h
  · split at h
    · cases h
    · cases h
      rfl

/-- A container is converted with its name and the paths of its mounts. -/
theorem Container.ofContainer_of_toCluster {k : Container} {w : Cluster.Container}
    (h : k.toCluster = .ok w) :
    PodContainer.ofContainer w = ⟨k.name, k.volumeMounts.map (·.mountPath)⟩ := by
  rw [toCluster, mapError_eq_ok_iff, convert] at h
  split at h
  · cases h
  · obtain ⟨ports, _, h⟩ := bind_eq_ok_iff.1 h
    obtain ⟨resources, _, h⟩ := bind_eq_ok_iff.1 h
    obtain ⟨mounts, hmounts, h⟩ := bind_eq_ok_iff.1 h
    have hpaths := map_eq_of_mapM (fun _ _ => VolumeMount.mountPath_of_toCluster) hmounts
    cases h
    rw [PodContainer.ofContainer, ← hpaths]
    cases mounts with
    | nil => rfl
    | cons m mounts => rfl

/-- An affinity that is not empty demands nodes by at least one term. -/
theorem Affinity.nodeSelectorTerms_ne_nil {affinity : Affinity} {form : Cluster.Affinity}
    (h : affinity.toCluster = .ok form) (hne : affinity.isEmpty = false)
    {required : Cluster.NodeSelector} (hrequired : requiredNodes? form = some required) :
    required.nodeSelectorTerms ≠ [] := by
  obtain ⟨nodeAffinity, hnodes, hform⟩ := bind_eq_ok_iff.1 h
  cases hform
  cases hpreference : affinity.nodeAffinity with
  | none => simp [Affinity.isEmpty, Affinity.terms, hpreference] at hne
  | some preference =>
      rw [hpreference] at hnodes
      obtain ⟨form, hform, rfl⟩ := mapM_some_eq_ok_iff.1 hnodes
      obtain ⟨forms, hforms, hform⟩ := bind_eq_ok_iff.1 hform
      cases hform
      cases hselector : preference.required with
      | none => simp [Affinity.isEmpty, Affinity.terms, hpreference, hselector] at hne
      | some selector =>
          rw [hselector] at hforms
          obtain ⟨converted, hconverted, rfl⟩ := mapM_some_eq_ok_iff.1 hforms
          obtain ⟨terms, hterms, hconverted⟩ := bind_eq_ok_iff.1 hconverted
          cases hconverted
          obtain rfl := Option.some.inj hrequired
          -- as many terms as the rule's affinity has
          have hlength := (mapM_eq_ok_iff.1 hterms).length_eq
          rintro rfl
          simp [Affinity.isEmpty, Affinity.terms, hpreference, hselector,
            List.length_eq_zero_iff.1 hlength] at hne

/-- What a contribution demands of nodes has at least one term. -/
theorem nodeSelectorTerms_ne_nil_of_contribution {rule : Rule} {c : Contribution}
    (h : rule.contribution = .ok c) {required : Cluster.NodeSelector}
    (hrequired : c.required = some required) : required.nodeSelectorTerms ≠ [] := by
  obtain ⟨forms, hforms, heq⟩ := (contribution_eq_ok_iff.1 h).2.2.2.2.1
  rw [heq] at hrequired
  cases haffinity : rule.affinity with
  | none => simp [haffinity] at hrequired
  | some affinity =>
      rw [haffinity] at hforms hrequired
      obtain ⟨form, hform, rfl⟩ := mapM_some_eq_ok_iff.1 hforms
      rw [Option.all_some, Option.bind_some] at hrequired
      split at hrequired
      · cases hrequired
      · next hne => exact Affinity.nodeSelectorTerms_ne_nil hform (Bool.eq_false_iff.2 hne) hrequired

/-- **The containers that a rule adds to a pod mount something at each path of the rule's mounts.** -/
def MountsInNew (rule : Rule) (spec : PodSpec) : Prop :=
  ∀ k ∈ fresh (·.name) (spec.containers.map (·.name)) rule.containers,
    ∀ m ∈ rule.volumeMounts, m.mountPath ∈ k.volumeMounts.map (·.mountPath)

/-- **What the breaker notes contradicts no annotation of the rule.** -/
def AnnotatesBeside (rule : Rule) (bookkeeping : StringMap) : Prop :=
  ∀ name text, rule.annotations.find? name = some text →
    ∀ other, bookkeeping.find? name = some other → other = text

/-- What holds of all items can be asked of their conversions. -/
theorem forall_mem_iff_of_mapM {ε α β : Type} {f : α → Except ε β} {p : α → Prop} {q : β → Prop}
    (hpq : ∀ x y, f x = .ok y → (p x ↔ q y)) {xs : List α} {ys : List β}
    (h : xs.mapM f = .ok ys) : (∀ x ∈ xs, p x) ↔ ∀ y ∈ ys, q y := by
  rw [mapM_eq_ok_iff] at h
  induction h with
  | nil => simp
  | cons hx _ ih => rw [List.forall_mem_cons, List.forall_mem_cons, hpq _ _ hx, ih]

end Rule

/-- An entry is kept exactly if what the map is overridden by has no other text under its name. -/
theorem StringMap.find?_onto_override_iff {m changes : StringMap} {name text : String}
    (h : m.find? name = some text) (existing : Option StringMap) :
    ((m.override changes).onto existing).bind (·.find? name) = some text
      ↔ ∀ other, changes.find? name = some other → other = text := by
  rw [find?_onto, find?_override, h]
  cases changes.find? name with
  | none => simp
  | some other => simp

namespace Contribution

variable {c : Contribution}

/-- What the containers that an injection adds lack can be asked of the contribution as well. -/
theorem mountsInNew_iff {rule : Rule} (h : rule.contribution = .ok c) {spec : PodSpec} :
    rule.MountsInNew spec
      ↔ ∀ k ∈ fresh (·.name) (spec.containers.map (·.name)) c.containers,
        ∀ m ∈ c.volumeMounts, m.mountPath ∈ (PodContainer.ofContainer k).mountPaths := by
  have hparts := Rule.contribution_eq_ok_iff.1 h
  have hnew := mapM_fresh (fun _ _ => Rule.Container.name_of_toCluster) hparts.2.2.1
    (spec.containers.map (·.name))
  refine Rule.forall_mem_iff_of_mapM (fun k w hk => ?_) hnew
  refine Rule.forall_mem_iff_of_mapM (fun m w' hm => ?_) hparts.2.1
  rw [Rule.Container.ofContainer_of_toCluster hk, Rule.VolumeMount.mountPath_of_toCluster hm]

variable (c) in
/-- The annotations of the contribution are there exactly if the breaker noted nothing else where
one of them stands. -/
theorem annotations_within_onto_iff {bookkeeping : StringMap} {existing : Option StringMap} :
    c.annotations.Within ((c.annotations.override bookkeeping).onto existing)
      ↔ ∀ name text, c.annotations.find? name = some text →
        ∀ other, bookkeeping.find? name = some other → other = text := by
  exact forall_congr' fun name => forall_congr' fun text => imp_congr_right fun hfind =>
    StringMap.find?_onto_override_iff hfind existing

/-- What a map is overridden by is within the outcome. -/
theorem within_onto (desired : StringMap) (existing : Option StringMap) :
    desired.Within (desired.onto existing) := by
  intro name text hfind
  rw [StringMap.find?_onto, hfind, Option.some_or]

/-- Items that are new or there already are there afterwards. -/
theorem mem_append_map_fresh {α β : Type} [DecidableEq β] {key : α → β} {taken : List β}
    {xs : List α} {x : α} (hx : x ∈ xs) : key x ∈ taken ++ (fresh key taken xs).map key := by
  rw [List.mem_append, mem_map_fresh_iff]
  rcases Classical.em (key x ∈ taken) with hold | hnew
  · exact .inl hold
  · exact .inr ⟨List.mem_map.2 ⟨x, hx, rfl⟩, hnew⟩

/-- **What is there after an injection**: everything, exactly if the containers that were added have
the mounts and the breaker noted nothing else where there is an annotation. -/
theorem present_onPod_iff {rule : Rule} (h : rule.contribution = .ok c) {pod : Pod}
    {spec : PodSpec} (bookkeeping : StringMap) :
    c.Present (c.onPod bookkeeping pod) (c.onSpec spec)
      ↔ rule.MountsInNew spec ∧ rule.AnnotatesBeside bookkeeping := by
  have hannotations := (Rule.contribution_eq_ok_iff.1 h).2.2.2.2.2.2
  have hbeside : rule.AnnotatesBeside bookkeeping
      ↔ c.annotations.Within ((c.annotations.override bookkeeping).onto pod.annotations) := by
    rw [annotations_within_onto_iff, hannotations]
    rfl
  rw [mountsInNew_iff h, hbeside]
  constructor
  · intro hpresent
    refine ⟨fun k hk => hpresent.volumeMounts (.ofContainer k) ?_, hpresent.annotations⟩
    exact List.mem_append_right _ (List.mem_append_right _ (List.mem_map.2 ⟨k, hk, rfl⟩))
  · rintro ⟨hnew, hwithin⟩
    refine ⟨fun v hv => mem_append_map_fresh hv, ?_, ?_, ?_, ?_, within_onto _ _, hwithin⟩
    · -- containers that were there have been mounted into
      intro k hk m hm
      have hmounted : ∀ containers : List PodContainer,
          k ∈ containers.map (·.mount c.volumeMounts) → m.mountPath ∈ k.mountPaths := by
        intro containers hk
        obtain ⟨k, _, rfl⟩ := List.mem_map.1 hk
        exact PodContainer.mem_mountPaths_mount.2 (.inr (List.mem_map.2 ⟨m, hm, rfl⟩))
      rcases List.mem_append.1 hk with hinit | hrest
      · exact hmounted _ hinit
      · rcases List.mem_append.1 hrest with hold | hadded
        · exact hmounted _ hold
        · obtain ⟨k, hmem, rfl⟩ := List.mem_map.1 hadded
          exact hnew k hmem m hm
    · intro k hk
      rw [map_name_containers_onSpec]
      exact mem_append_map_fresh hk
    · intro required hrequired
      have hterms := Rule.nodeSelectorTerms_ne_nil_of_contribution h hrequired
      obtain ⟨n, hn⟩ := Nat.exists_eq_succ_of_ne_zero (mt List.length_eq_zero_iff.1 hterms)
      rw [onSpec, hrequired, Option.elim_some]
      unfold PodAffinity.demand
      split
      · next m heq => exact ⟨m, rfl⟩
      · exact ⟨n, congrArg PodAffinity.nodes hn⟩
    · intro t ht
      have hmem : id t ∈ spec.tolerations ++ (fresh id spec.tolerations c.tolerations).map id :=
        mem_append_map_fresh ht
      rwa [List.map_id] at hmem

end Contribution

/-! ### The counter after an injection -/

namespace Breaker

/-- A text with a letter in it is no count. -/
theorem parseCount_eq_none {text : String} {c : Char} (hc : c ∈ text.toList)
    (hdigit : c.isDigit = false) (hplus : c ≠ '+') : parseCount text = none := by
  have hbad : ∀ {cs : List Char}, c ∈ cs → (cs.isEmpty || !cs.all Char.isDigit) = true := by
    intro cs hmem
    rw [Bool.or_eq_true]
    refine .inr ?_
    rw [Bool.not_eq_true', List.all_eq_false]
    exact ⟨c, hmem, by rw [hdigit]; exact Bool.false_ne_true⟩
  unfold parseCount
  rw [if_pos]
  split
  · next rest heq =>
    rw [heq] at hc
    exact hbad ((List.mem_cons.1 hc).resolve_left hplus)
  · exact hbad hc

/-- The text of a time is no count. -/
theorem parseCount_trim_render (t : Timestamp) : parseCount (Text.trim t.render) = none := by
  have hz : 'Z' ∈ t.render.toList := by simp [Timestamp.render]
  refine parseCount_eq_none (c := 'Z') ?_ (by decide) (by decide)
  rw [Text.trim, String.toList_ofList]
  exact Text.mem_trimChars hz (by decide)

/-- **The counter after an injection** is the next one, unless the time is written over it. -/
theorem iterations_onto (b : Breaker) (annotations : StringMap) (n : UInt32) (now : Timestamp)
    (existing : Option StringMap) :
    b.iterations ((annotations.override (b.bookkeeping n now)).onto existing)
      = if b.timestampKey = b.counterKey then 0 else next n := by
  rw [iterations, StringMap.find?_onto, StringMap.find?_override, find?_bookkeeping]
  split
  · rw [Option.some_or, Option.some_or, Option.bind_some, parseCount_trim_render]
    rfl
  · rw [if_pos rfl, Option.some_or, Option.some_or, Option.bind_some, parseCount_trim_toString]
    rfl

/-- It is below the limit exactly if one more was, or if the rule is called by its fingerprint. -/
theorem iterations_onto_lt_iff (b : Breaker) (hfingerprint : b.rule.fingerprint.length = 16)
    (annotations : StringMap) {n limit : UInt32} (hn : n < limit) (now : Timestamp)
    (existing : Option StringMap) :
    b.iterations ((annotations.override (b.bookkeeping n now)).onto existing) < limit
      ↔ b.rule.rule.name = b.rule.fingerprint ∨ n.toNat + 1 < limit.toNat := by
  have hkeys := timestampKey_eq_counterKey_iff b.keyPrefix hfingerprint hfingerprint
  have hnext := toNat_next_of_lt hn
  have hlimit := UInt32.lt_iff_toNat_lt.1 hn
  rw [iterations_onto, ← hkeys, UInt32.lt_iff_toNat_lt]
  split
  · next heq =>
    refine iff_of_true ?_ (.inl heq)
    rw [UInt32.toNat_zero]
    omega
  · next hne =>
    rw [hnext]
    exact ⟨.inr, fun h => h.resolve_left hne⟩

end Breaker

namespace Engine

variable {registry : Registry}

/-- The engine answers with a patch exactly if something lacks and the counter is below the
limit. -/
theorem exists_mutate_eq_patched_iff (keyPrefix : String) (hs : registry.Sound) {r : RegisteredRule}
    (hr : r ∈ registry.rules) {c : Contribution} (hc : r.rule.contribution = .ok c) {pod : Pod}
    {spec : PodSpec} (hspec : pod.spec = some spec) (now : Timestamp) :
    (∃ name patch, mutate ⟨registry, keyPrefix⟩ r.fingerprint pod now = .ok (.patched name patch))
      ↔ ¬ c.Present pod spec
        ∧ Breaker.iterations ⟨keyPrefix, r⟩ pod.annotations < r.rule.maxIterations := by
  rcases Classical.em (c.Present pod spec) with hpresent | hlacking
  · rw [mutate_of_present keyPrefix now hs hr hc hspec hpresent]
    simp [hpresent]
  · rw [mutate_of_lacking keyPrefix now hs hr hc hspec hlacking]
    simp only [hlacking, not_false_eq_true, true_and]
    constructor
    · rintro ⟨name, patch, h⟩
      split at h
      · cases h
      · next bookkeeping hproceed =>
        exact ((Breaker.evaluate_eq_proceed_iff _ _ now bookkeeping).1 hproceed).1
    · intro hlt
      rw [(Breaker.evaluate_eq_proceed_iff _ _ now _).2 ⟨hlt, rfl⟩]
      exact ⟨_, _, rfl⟩

/-- **When a pod is patched again.**  The patch of a registered rule has been applied to a pod, and
the pod is admitted under the same fingerprint at some other time.  It is patched again exactly if a
container that was added lacks one of the rule's mounts or the breaker noted something else where the
rule annotates, and the counter is still below the limit; of a rule that is called by its own
fingerprint the counter always is, since the time stands in its place. -/
theorem patched_again_iff_of_admit? {rules : List Rule} {registry : Registry}
    (hbuild : Registry.build rules = .ok registry) {before after : Json}
    (hc : before.IsCanonical) {keyPrefix fingerprint : String} {now : Timestamp}
    (hadmitted : admit? ⟨registry, keyPrefix⟩ fingerprint now before = some after) :
    ∃ r ∈ registry.rules, r.fingerprint = fingerprint
      ∧ ∃ pod spec, Pod.ofJson? before = some pod ∧ pod.spec = some spec
      ∧ ∃ pod', Pod.ofJson? after = some pod' ∧ ∀ later,
        (∃ name patch, mutate ⟨registry, keyPrefix⟩ fingerprint pod' later
            = .ok (.patched name patch))
          ↔ ¬ (r.rule.MountsInNew spec ∧ r.rule.AnnotatesBeside
              (Breaker.bookkeeping ⟨keyPrefix, r⟩ (Breaker.count ⟨keyPrefix, r⟩ before) now))
            ∧ (r.rule.name = r.fingerprint
              ∨ (Breaker.count ⟨keyPrefix, r⟩ before).toNat + 1 < r.rule.maxIterations.toNat) := by
  have hs := Registry.sound_of_build hbuild
  obtain ⟨_, r, hr, rfl, hlt, c, hcontent, pod, spec, hpod, hspec, hafter⟩ :=
    exists_onPod_of_admit? hs hc hadmitted
  refine ⟨r, hr, rfl, pod, spec, hpod, hspec, _, hafter, fun later => ?_⟩
  rw [exists_mutate_eq_patched_iff keyPrefix hs hr hcontent (c.spec_onPod hspec _) later,
    Contribution.present_onPod_iff hcontent]
  exact and_congr_right' (Breaker.iterations_onto_lt_iff ⟨keyPrefix, r⟩ (hs.length_fingerprint hr)
    c.annotations hlt now pod.annotations)

/-- A rule without mounts adds its container once. -/
theorem not_patched_again_of_container :
    ∃ (registry : Registry) (after : Json) (pod : Pod),
      Registry.build [{ (default : Rule) with
          name := "a", maxIterations := 2
          containers := [{ (default : Rule.Container) with name := "side" }] }] = .ok registry
        ∧ admit? ⟨registry, "example.org"⟩ "ba9853ff82a98c93" .epoch
          (.obj [("metadata", .obj []),
            ("spec", .obj [("containers", .arr [.obj [("name", .str "app")]])])]) = some after
        ∧ Pod.ofJson? after = some pod
        ∧ ∀ later, ¬ ∃ name patch, mutate ⟨registry, "example.org"⟩ "ba9853ff82a98c93" pod later
          = .ok (.patched name patch) := by
  have hbuild : Registry.build [{ (default : Rule) with
      name := "a", maxIterations := 2
      containers := [{ (default : Rule.Container) with name := "side" }] }]
        = .ok ⟨[⟨"ba9853ff82a98c93", { (default : Rule) with
          name := "a", maxIterations := 2
          containers := [{ (default : Rule.Container) with name := "side" }] }⟩]⟩ := by
    decide +kernel
  have hadmitted : admit? ⟨⟨[⟨"ba9853ff82a98c93", { (default : Rule) with
      name := "a", maxIterations := 2
      containers := [{ (default : Rule.Container) with name := "side" }] }⟩]⟩,
        "example.org"⟩ "ba9853ff82a98c93" .epoch
      (.obj [("metadata", .obj []),
        ("spec", .obj [("containers", .arr [.obj [("name", .str "app")]])])])
      = some (.obj [("metadata", .obj [("annotations",
          .obj [("example.org/a", .str "1970-01-01T00:00:00Z"),
            ("example.org/ba9853ff82a98c93", .str "1")])]),
        ("spec", .obj [("containers", .arr [.obj [("name", .str "app")],
          .obj [("image", .str ""), ("name", .str "side")]])])]) := by
    decide +kernel
  obtain ⟨r, hr, _, _, spec, _, _, pod, hpod, hiff⟩ :=
    patched_again_iff_of_admit? hbuild (isCanonical_canonical (.obj [("metadata", .obj []),
      ("spec", .obj [("containers", .arr [.obj [("name", .str "app")]])])])) hadmitted
  obtain rfl := List.mem_singleton.1 hr
  refine ⟨_, _, pod, hbuild, hadmitted, hpod, fun later hpatched => ?_⟩
  refine ((hiff later).1 hpatched).1 ⟨fun _ _ m hm => ?_, fun name text hfind => ?_⟩
  · cases hm
  · cases hfind

/-- A container that was added lacks the mount of the rule, and the pod is patched again. -/
theorem patched_again_of_new_container :
    ∃ (registry : Registry) (before after : Json) (pod : Pod) (patch : Patch),
      Registry.build [{ (default : Rule) with
          name := "a", maxIterations := 2
          containers := [{ (default : Rule.Container) with name := "side" }]
          volumeMounts := [{ (default : Rule.VolumeMount) with name := "v", mountPath := "/v" }] }]
          = .ok registry
        ∧ before.IsCanonical
        ∧ admit? ⟨registry, "example.org"⟩ "a05bc04dad4cd94f" .epoch before = some after
        ∧ Pod.ofJson? after = some pod
        ∧ mutate ⟨registry, "example.org"⟩ "a05bc04dad4cd94f" pod .epoch
          = .ok (.patched "a" patch) :=
  ⟨⟨[⟨"a05bc04dad4cd94f", { (default : Rule) with
      name := "a", maxIterations := 2
      containers := [{ (default : Rule.Container) with name := "side" }]
      volumeMounts := [{ (default : Rule.VolumeMount) with name := "v", mountPath := "/v" }] }⟩]⟩,
    .canonical (.obj [("metadata", .obj []),
      ("spec", .obj [("containers", .arr [.obj [("name", .str "app")]])])]),
    .obj [("metadata", .obj [("annotations", .obj [("example.org/a", .str "1970-01-01T00:00:00Z"),
        ("example.org/a05bc04dad4cd94f", .str "1")])]),
      ("spec", .obj [("containers", .arr [.obj [("name", .str "app"),
          ("volumeMounts", .arr [.obj [("mountPath", .str "/v"), ("name", .str "v")]])],
        .obj [("image", .str ""), ("name", .str "side")]])])],
    ⟨none, some (.ofList [("example.org/a", "1970-01-01T00:00:00Z"),
      ("example.org/a05bc04dad4cd94f", "1")]),
      some ⟨[], [], [⟨"app", ["/v"]⟩, ⟨"side", []⟩], .absent, []⟩⟩,
    [.add ["spec", "containers", "1", "volumeMounts"]
        (.arr [.obj [("mountPath", .str "/v"), ("name", .str "v")]]),
      .replace ["metadata", "annotations", "example.org/a05bc04dad4cd94f"] (.str "2")],
    by decide +kernel, isCanonical_canonical _, by decide +kernel, by decide +kernel,
    by decide +kernel⟩

end Engine

end Sidecar
