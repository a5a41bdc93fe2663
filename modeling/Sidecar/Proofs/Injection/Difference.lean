/-
**The answer of the engine, told by what an injection would change.**

The engine never compares pods: it writes operations, asks whether there are any, and asks for the
annotations of the rule apart from them, since the breaker's annotations are to be written only if
something else is.  Told on documents it is one question.  Let the contribution of the rule be
injected without a trace of the breaker: there is nothing to inject exactly if the document stays as
it is.  If it does not, the counter alone decides between a patch and the end of the matter.

A document may come without metadata, or with a null in their place; the engine takes it as if its
metadata held nothing, and so does the comparison.

Main definitions:

* `Sidecar.Cluster.Pod.withMetadata` — a document with metadata, if only empty ones;
* `Sidecar.Contribution.Leaves` — **an injection leaves the pod as it is.**

Main results:

* `Sidecar.Contribution.present_of_onPod_eq` — a pod that is seen to stay as it is lacks nothing;
* `Sidecar.Contribution.leaves_iff` — **a pod is left as it is exactly if it lacks nothing**;
* `Sidecar.Engine.answer_iff` — **which answer the engine gives, and when.**
-/

import Sidecar.Proofs.Injection.Readmission
import Sidecar.Proofs.Validated

set_option autoImplicit false

namespace Sidecar

open Cluster Injection Json

/-! ### Documents without metadata -/

namespace Cluster.Pod

/-- The document with the metadata that it has, or else with empty ones. -/
def withMetadata (document : Json) : Json :=
  document.withMember "metadata" (some ((View.object? "metadata" document).getD (.obj [])))

variable {document : Json} {pod : Pod}

/-- A document that is read as a pod is an object. -/
theorem isObject_of_ofJson? (hpod : Pod.ofJson? document = some pod) :
    ∃ members, document = .obj members :=
  Shape.exists_members_of_accepts ((Pod.ofJson?_eq_some_iff document pod).1 hpod).1

theorem member?_withMetadata (hpod : Pod.ofJson? document = some pod) :
    (withMetadata document).member? "metadata"
      = some ((View.object? "metadata" document).getD (.obj [])) := by
  rw [withMetadata, member?_withMember_same (isObject_of_ofJson? hpod), Option.some_or]

theorem isCanonical_withMetadata (hc : document.IsCanonical) :
    (withMetadata document).IsCanonical := by
  refine hc.withMember _ (isCanonicalMember_some.2 ?_)
  cases hfound : View.object? "metadata" document with
  | none => exact .obj List.Pairwise.nil (by simp)
  | some value => exact hc.member? (View.object?_eq_some_iff.1 hfound).1

/-- **The same pod is read** of the document with metadata. -/
theorem ofJson?_withMetadata (hpod : Pod.ofJson? document = some pod) :
    Pod.ofJson? (withMetadata document) = some pod := by
  obtain ⟨hshape, rfl⟩ := (Pod.ofJson?_eq_some_iff document pod).1 hpod
  have hmember := member?_withMetadata hpod
  have hobject : ∃ members, (View.object? "metadata" document).getD (.obj []) = .obj members :=
    Contribution.isObject_getD "metadata" document
  have hmetadata : Shape.objectMeta.accepts
      ((View.object? "metadata" document).getD (.obj [])) = true := by
    cases hfound : View.object? "metadata" document with
    | none => exact Shape.accepts_object_nil
    | some value =>
        obtain ⟨hdata, members, rfl⟩ := View.object?_eq_some_iff.1 hfound
        exact Pod.accepts_metadata hshape hdata
  refine (Pod.ofJson?_eq_some_iff _ _).2 ⟨Shape.accepts_withMember hshape ?_, ?_⟩
  · simpa using Shape.acceptsMember_some hmetadata
  · -- the specification is as it was, and the metadata are those that a view takes there to be
    have hspec : (withMetadata document).member? "spec" = document.member? "spec" := by
      simp [withMetadata]
    rw [Pod.view, Pod.view, View.object?_congr hspec,
      View.object?_eq_some_iff.2 ⟨hmember, hobject⟩, Option.getD_some]

end Cluster.Pod

/-! ### What stays as it is -/

namespace StringMap

/-- A map that stays as it is when another is put over it has the entries of the other. -/
theorem within_of_onto_eq {desired : StringMap} {existing : Option StringMap}
    (h : desired.onto existing = existing) : desired.Within existing := by
  intro name text hfind
  have hfound := find?_onto desired existing name
  rwa [h, hfind, Option.some_or] at hfound

@[simp] theorem override_empty (m : StringMap) : m.override .empty = m := rfl

end StringMap

/-- A list that stays as it is when what is new is put behind it has all keys. -/
theorem Injection.mem_of_append_map_fresh_eq {α β : Type} [DecidableEq β] {key : α → β}
    {taken : List β} {xs : List α} (h : taken ++ (fresh key taken xs).map key = taken) :
    ∀ x ∈ xs, key x ∈ taken := by
  rw [List.append_right_eq_self, List.map_eq_nil_iff] at h
  exact (fresh_eq_nil_iff key taken xs).1 h

namespace Contribution

variable {rule : Rule} {c : Contribution} {pod : Pod} {spec : PodSpec}

/-- Containers that are seen to stay as they are have the mounts. -/
theorem mountPath_mem_of_map_mount_eq {mounts : List VolumeMount} {containers : List PodContainer}
    (h : containers.map (·.mount mounts) = containers) :
    ∀ k ∈ containers, ∀ m ∈ mounts, m.mountPath ∈ k.mountPaths := by
  intro k hk
  have hself : k.mount mounts = k := by
    have hmap : containers.map (·.mount mounts) = containers.map id := by rw [h, List.map_id]
    exact List.map_inj_left.1 hmap k hk
  exact mem_of_append_map_fresh_eq (congrArg PodContainer.mountPaths hself)

/-- An affinity that is seen to stay as it is when nodes are demanded demands some. -/
theorem exists_nodes_of_demand_eq {required : NodeSelector}
    (hterms : required.nodeSelectorTerms ≠ []) {affinity : PodAffinity}
    (h : affinity.demand required = affinity) :
    ∃ n, affinity = .nodes (n + 1) := by
  unfold PodAffinity.demand at h
  split at h
  · next n => exact ⟨n, rfl⟩
  · -- what is demanded has terms, so the affinity has as many
    obtain ⟨n, hn⟩ := Nat.exists_eq_succ_of_ne_zero (mt List.length_eq_zero_iff.1 hterms)
    exact ⟨n, h.symm.trans (congrArg PodAffinity.nodes hn)⟩

/-- **A pod that is seen to stay as it is lacks nothing.** -/
theorem present_of_onPod_eq (hcontent : rule.contribution = .ok c) (hspec : pod.spec = some spec)
    (h : c.onPod .empty pod = pod) : c.Present pod spec := by
  have hstays : c.onSpec spec = spec := by
    have hafter := c.spec_onPod hspec .empty
    rw [h, hspec] at hafter
    exact (Option.some.inj hafter).symm
  have hcontainers := congrArg (fun spec => spec.containers.map (·.name)) hstays
  rw [map_name_containers_onSpec] at hcontainers
  have hnew : fresh (·.name) (spec.containers.map (·.name)) c.containers = [] :=
    (fresh_eq_nil_iff ..).2 (mem_of_append_map_fresh_eq hcontainers)
  have hmounted := congrArg PodSpec.containers hstays
  rw [onSpec, hnew, List.map_nil, List.append_nil] at hmounted
  have hinit : spec.initContainers.map (·.mount c.volumeMounts) = spec.initContainers :=
    congrArg PodSpec.initContainers hstays
  have htolerations : spec.tolerations ++ (fresh id spec.tolerations c.tolerations).map id
      = spec.tolerations := by
    rw [List.map_id]
    exact congrArg PodSpec.tolerations hstays
  refine ⟨?_, ?_, ?_, ?_, ?_, ?_, ?_⟩
  · exact mem_of_append_map_fresh_eq (congrArg PodSpec.volumes hstays)
  · exact List.forall_mem_append.2
      ⟨mountPath_mem_of_map_mount_eq hinit, mountPath_mem_of_map_mount_eq hmounted⟩
  · exact mem_of_append_map_fresh_eq hcontainers
  · intro required hrequired
    have haffinity := congrArg PodSpec.affinity hstays
    rw [onSpec, hrequired] at haffinity
    exact exists_nodes_of_demand_eq
      (Rule.nodeSelectorTerms_ne_nil_of_contribution hcontent hrequired) haffinity
  · exact mem_of_append_map_fresh_eq htolerations
  · exact StringMap.within_of_onto_eq (congrArg Pod.labels h)
  · exact StringMap.within_of_onto_eq (congrArg Pod.annotations h)

/-- **The contribution leaves a pod as it is**: injected without the breaker's annotations, it
changes nothing in the document. -/
def Leaves (c : Contribution) (document : Json) : Prop :=
  c.inject .empty (Pod.withMetadata document) = Pod.withMetadata document

instance (c : Contribution) (document : Json) : Decidable (c.Leaves document) :=
  inferInstanceAs (Decidable (_ = _))

/-- The operations on the metadata of a pod that has all labels and annotations are none. -/
theorem metadataPatch_eq_nil (h : c.Present pod spec) : c.metadataPatch .empty pod = [] := by
  rw [metadataPatch, StringMap.override_empty, List.append_eq_nil_iff]
  exact ⟨Patch.mergeMap_eq_nil_iff.2 h.labels, Patch.mergeMap_eq_nil_iff.2 h.annotations⟩

/-- **A pod is left as it is exactly if it lacks nothing.** -/
theorem leaves_iff (hcontent : rule.contribution = .ok c) {document : Json}
    (hc : document.IsCanonical) (hpod : Pod.ofJson? document = some pod)
    (hspec : pod.spec = some spec) : c.Leaves document ↔ c.Present pod spec := by
  have hread := Pod.ofJson?_withMetadata hpod
  obtain ⟨members, hmembers⟩ := isObject_getD "metadata" document
  have hdata := (Pod.member?_withMetadata hpod).trans (congrArg some hmembers)
  constructor
  · intro h
    have hafter := c.ofJson?_inject .empty hread hspec hdata
    rw [h, hread] at hafter
    exact present_of_onPod_eq hcontent hspec (Option.some.inj hafter).symm
  · intro h
    -- the operations that would bring about the injection are none
    have hrun := c.run?_inject (Pod.isCanonical_withMetadata hc) hread hspec hdata .empty
    obtain ⟨hnone, _⟩ := List.append_eq_nil_iff.1 (c.present_iff.1 h).1
    rw [hnone, metadataPatch_eq_nil h] at hrun
    exact (Option.some.inj hrun).symm

end Contribution

namespace Engine

variable {registry : Registry}

/-- The engine says that no rule has a fingerprint exactly if none has, whatever the pod is. -/
theorem mutate_eq_unknownRule_iff (keyPrefix : String) (hs : registry.Sound) (fingerprint : String)
    (pod : Pod) (now : Timestamp) :
    mutate ⟨registry, keyPrefix⟩ fingerprint pod now = .ok .unknownRule
      ↔ ∀ r ∈ registry.rules, r.fingerprint ≠ fingerprint := by
  constructor
  · rintro h r hr rfl
    cases hspec : pod.spec with
    | none =>
        rw [(mutate_eq_error_iff keyPrefix hs hr pod now .missingSpec).2 ⟨hspec, rfl⟩] at h
        cases h
    | some spec =>
        obtain ⟨_, _, _, c, hcontent⟩ := Rule.validate_eq_ok_iff.1 (hs.valid r hr)
        rcases Classical.em (c.Present pod spec) with hpresent | hlacking
        · rw [mutate_of_present keyPrefix now hs hr hcontent hspec hpresent] at h
          cases h
        · rw [mutate_of_lacking keyPrefix now hs hr hcontent hspec hlacking] at h
          split at h <;> cases h
  · intro h
    have hnone : registry.resolve? fingerprint = none := by
      rw [Registry.resolve?_eq_none_iff]
      rintro hmem
      obtain ⟨r, hr, heq⟩ := List.mem_map.1 hmem
      exact h r hr heq
    simp only [mutate, hnone]

/-- **Which answer the engine gives, and when.**  That no rule has the fingerprint is said exactly
if no registered rule has it, whatever the pod is.  If one has, a missing specification is reported
exactly if there is none.  If there is one, nothing is to be injected exactly if the contribution of
the rule, injected without the breaker's annotations, leaves the document as it is, whatever the
counter says.  If it does not, the limit is reported with the counter exactly if the counter has
reached it, and a patch is given exactly if it has not. -/
theorem answer_iff {rules : List Rule} {registry : Registry}
    (hbuild : Registry.build rules = .ok registry) (keyPrefix fingerprint : String)
    {document : Json} (hc : document.IsCanonical) {pod : Pod}
    (hpod : Pod.ofJson? document = some pod) (now : Timestamp) :
    (mutate ⟨registry, keyPrefix⟩ fingerprint pod now = .ok .unknownRule
        ↔ ∀ r ∈ registry.rules, r.fingerprint ≠ fingerprint)
      ∧ ∀ r ∈ registry.rules, r.fingerprint = fingerprint →
        ∃ c, r.rule.contribution = .ok c
          ∧ (mutate ⟨registry, keyPrefix⟩ fingerprint pod now = .error .missingSpec
            ↔ pod.spec = none)
          ∧ (pod.spec ≠ none →
            (mutate ⟨registry, keyPrefix⟩ fingerprint pod now
                = .ok (.nothingToInject r.displayName)
              ↔ c.Leaves document)
            ∧ (¬ c.Leaves document →
              (∀ n, mutate ⟨registry, keyPrefix⟩ fingerprint pod now
                  = .ok (.iterationLimitReached r.displayName n)
                ↔ n = Breaker.iterations ⟨keyPrefix, r⟩ pod.annotations
                  ∧ r.rule.maxIterations ≤ n)
              ∧ ((∃ patch, mutate ⟨registry, keyPrefix⟩ fingerprint pod now
                  = .ok (.patched r.displayName patch))
                ↔ Breaker.iterations ⟨keyPrefix, r⟩ pod.annotations < r.rule.maxIterations))) := by
  have hs := Registry.sound_of_build hbuild
  refine ⟨mutate_eq_unknownRule_iff keyPrefix hs fingerprint pod now, ?_⟩
  rintro r hr rfl
  obtain ⟨_, _, _, c, hcontent⟩ := Rule.validate_eq_ok_iff.1 (hs.valid r hr)
  refine ⟨c, hcontent, by simp [mutate_eq_error_iff keyPrefix hs hr], fun hne => ?_⟩
  obtain ⟨spec, hspec⟩ := Option.ne_none_iff_exists'.1 hne
  have hleaves := Contribution.leaves_iff hcontent hc hpod hspec
  rcases Classical.em (c.Present pod spec) with hpresent | hlacking
  · rw [mutate_of_present keyPrefix now hs hr hcontent hspec hpresent]
    exact ⟨iff_of_true rfl (hleaves.2 hpresent),
      fun hchanged => absurd (hleaves.2 hpresent) hchanged⟩
  · rw [mutate_of_lacking keyPrefix now hs hr hcontent hspec hlacking]
    have hchanged := mt hleaves.1 hlacking
    -- the breaker decides, and each of its verdicts makes one answer
    cases hverdict : Breaker.evaluate ⟨keyPrefix, r⟩ pod.annotations now with
    | tripped n =>
        obtain ⟨hn, hlimit⟩ := (Breaker.evaluate_eq_tripped_iff _ _ now n).1 hverdict
        subst hn
        refine ⟨iff_of_false (by simp) hchanged, fun _ => ⟨fun m => ?_, ?_⟩⟩
        · constructor
          · intro h
            cases h
            exact ⟨rfl, hlimit⟩
          · rintro ⟨rfl, _⟩
            rfl
        · exact iff_of_false (by simp) (UInt32.not_lt.2 hlimit)
    | proceed bookkeeping =>
        obtain ⟨hlt, _⟩ := (Breaker.evaluate_eq_proceed_iff _ _ now bookkeeping).1 hverdict
        refine ⟨iff_of_false (by simp) hchanged, fun _ => ⟨fun m => ?_, ?_⟩⟩
        · refine iff_of_false (by simp) ?_
          rintro ⟨rfl, hlimit⟩
          exact UInt32.not_lt.2 hlimit hlt
        · exact iff_of_true ⟨_, rfl⟩ hlt

/-- A rule with a label, a container and a volume. -/
def webRule : Rule :=
  { (default : Rule) with
    name := "a"
    labels := .ofList [("tier", "web")]
    containers := [{ (default : Rule.Container) with name := "side", image := "proxy" }]
    volumes := [⟨"run", none, none, some default⟩] }

/-- The rule as it is registered. -/
def web : RegisteredRule := ⟨"b535157cb0397b9e", webRule⟩

/-- An item of a list of which the engine looks at nothing but the name. -/
def named (name : String) : Json := .obj [("name", .str name)]

/-- A pod with the label of the rule, and with a counter if one is given. -/
def webPod (counter : Option String) (containers volumes : List Json) : Json :=
  .obj [("metadata", .obj [
      ("annotations", .obj (counter.toList.map fun n => ("example.org/b535157cb0397b9e", .str n))),
      ("labels", .obj [("tier", .str "web")])]),
    ("spec", .obj [("containers", .arr containers), ("volumes", .arr volumes)])]

/-- **One part decides.**  The pod that has all parts of the rule is left alone although its counter
is past the limit; the one that lacks the container is patched, and the one that lacks the volume,
with such a counter, is given up.  A pod of which nothing is told is patched, and one without a
specification is refused; under another fingerprint there is no rule. -/
theorem answer_iff_of_counted :
    Registry.build [webRule] = .ok ⟨[web]⟩
      ∧ (∀ document ∈ [webPod (some "7") [named "side"] [named "run"],
          webPod none [named "app"] [named "run"], webPod (some "7") [named "side"] [],
          .obj [("spec", .obj [])], .obj [("metadata", .obj [])]],
        document.canonical = document ∧ Pod.ofJson? document = some (Pod.view document))
      ∧ mutate ⟨⟨[web]⟩, "example.org"⟩ web.fingerprint
          (Pod.view (webPod (some "7") [named "side"] [named "run"])) .epoch
        = .ok (.nothingToInject "a")
      ∧ (∃ patch, mutate ⟨⟨[web]⟩, "example.org"⟩ web.fingerprint
          (Pod.view (webPod none [named "app"] [named "run"])) .epoch = .ok (.patched "a" patch))
      ∧ mutate ⟨⟨[web]⟩, "example.org"⟩ web.fingerprint
          (Pod.view (webPod (some "7") [named "side"] [])) .epoch
        = .ok (.iterationLimitReached "a" 7)
      ∧ (∃ patch, mutate ⟨⟨[web]⟩, "example.org"⟩ web.fingerprint
          (Pod.view (.obj [("spec", .obj [])])) .epoch = .ok (.patched "a" patch))
      ∧ mutate ⟨⟨[web]⟩, "example.org"⟩ web.fingerprint
          (Pod.view (.obj [("metadata", .obj [])])) .epoch = .error .missingSpec
      ∧ mutate ⟨⟨[web]⟩, "example.org"⟩ "a"
          (Pod.view (.obj [("spec", .obj [])])) .epoch = .ok .unknownRule := by
  have hbuild : Registry.build [webRule] = .ok ⟨[web]⟩ := by decide +kernel
  have hpods : ∀ document ∈ [webPod (some "7") [named "side"] [named "run"],
      webPod none [named "app"] [named "run"], webPod (some "7") [named "side"] [],
      .obj [("spec", .obj [])], .obj [("metadata", .obj [])]],
      document.canonical = document ∧ Pod.ofJson? document = some (Pod.view document) := by
    decide +kernel
  have hcontent : webRule.contribution
      = .ok ⟨[⟨"run", none, none, some ⟨none, none⟩⟩], [],
          [⟨"side", some "proxy", none, none, none, none, none, none, none⟩], none, [],
          .ofList [("tier", "web")], .empty⟩ := rfl
  have hanswer := fun (document : Json)
      (h : document.canonical = document ∧ Pod.ofJson? document = some (Pod.view document)) =>
    (answer_iff hbuild "example.org" web.fingerprint (h.1 ▸ isCanonical_canonical document) h.2
      .epoch).2 web (List.mem_singleton.2 rfl) rfl
  obtain ⟨hcomplete, hcontainer, hvolume, hbare, hempty, -⟩ : _ ∧ _ ∧ _ ∧ _ ∧ _ ∧ _ := by
    simpa only [List.forall_mem_cons] using hpods
  refine ⟨hbuild, hpods, ?_, ?_, ?_, ?_, ?_, ?_⟩
  · obtain ⟨c, hc, -, h⟩ := hanswer _ hcomplete
    obtain rfl := Except.ok.inj (hcontent.symm.trans hc)
    exact (h (by decide +kernel)).1.2 (by decide +kernel)
  · obtain ⟨c, hc, -, h⟩ := hanswer _ hcontainer
    obtain rfl := Except.ok.inj (hcontent.symm.trans hc)
    exact ((h (by decide +kernel)).2 (by decide +kernel)).2.2 (by decide +kernel)
  · obtain ⟨c, hc, -, h⟩ := hanswer _ hvolume
    obtain rfl := Except.ok.inj (hcontent.symm.trans hc)
    exact (((h (by decide +kernel)).2 (by decide +kernel)).1 7).2 (by decide +kernel)
  · obtain ⟨c, hc, -, h⟩ := hanswer _ hbare
    obtain rfl := Except.ok.inj (hcontent.symm.trans hc)
    exact ((h (by decide +kernel)).2 (by decide +kernel)).2.2 (by decide +kernel)
  · obtain ⟨c, -, hmissing, -⟩ := hanswer _ hempty
    exact hmissing.2 (by decide +kernel)
  · exact (answer_iff hbuild "example.org" "a" (hbare.1 ▸ isCanonical_canonical _) hbare.2
      .epoch).1.2 (by decide +kernel)

end Engine

end Sidecar
