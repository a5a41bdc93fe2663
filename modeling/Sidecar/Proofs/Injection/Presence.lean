/-
**What a pod has of a rule, and what the engine answers.**

A stage of the injection writes nothing exactly if the pod has everything that the stage would
bring.  So whether the engine has anything to do can be asked of the pod and the contribution of
the rule alone, without writing operations: if the contribution is present there is nothing to
inject, whatever the counter says, and if not the breaker decides.

Main definitions:

* `Sidecar.StringMap.Within` — a map that may be absent has all entries of another;
* `Sidecar.Contribution.Present` — **the pod has all that the contribution brings**;
* `Sidecar.Contribution.patch` — the patch that brings it.

Main results:

* `Sidecar.Injection.fresh_eq_nil_iff`, `Sidecar.Injection.mem_map_fresh_iff` — what is new of a
  list;
* `Sidecar.Contribution.present_iff` — the stages write nothing exactly if nothing lacks;
* `Sidecar.Engine.mutate_of_present`, `Sidecar.Engine.mutate_of_lacking` — **the answers of the
  engine** for a pod with a specification.
-/

import Sidecar.Proofs.Breaker.Keys
import Sidecar.Proofs.Injection.Operations

set_option autoImplicit false

namespace Sidecar

open Cluster Json

/-! ### What is new of a list -/

namespace Injection

variable {α β : Type} [DecidableEq β] (key : α → β)

/-- Nothing is new exactly if all keys are taken. -/
theorem fresh_eq_nil_iff (taken : List β) (xs : List α) :
    fresh key taken xs = [] ↔ ∀ x ∈ xs, key x ∈ taken := by
  induction xs generalizing taken with
  | nil => simp
  | cons x xs ih =>
      rw [fresh, List.forall_mem_cons]
      split
      · next hx => simp [ih, hx]
      · next hx => simp [hx]

/-- The keys of what is new are those that are not taken. -/
theorem mem_map_fresh_iff (taken : List β) (xs : List α) (b : β) :
    b ∈ (fresh key taken xs).map key ↔ b ∈ xs.map key ∧ b ∉ taken := by
  induction xs generalizing taken with
  | nil => simp
  | cons x xs ih =>
      rw [fresh]
      split
      · next hx =>
        -- a taken key at the head is none of those looked for
        rw [ih, List.map_cons, List.mem_cons]
        constructor
        · rintro ⟨hmem, hnew⟩
          exact ⟨.inr hmem, hnew⟩
        · rintro ⟨rfl | hmem, hnew⟩
          · exact absurd hx hnew
          · exact ⟨hmem, hnew⟩
      · next hx =>
        rw [List.map_cons, List.mem_cons, ih, List.map_cons, List.mem_cons, List.mem_cons]
        constructor
        · rintro (rfl | ⟨hmem, hnew⟩)
          · exact ⟨.inl rfl, hx⟩
          · exact ⟨.inr hmem, fun hb => hnew (.inr hb)⟩
        · rintro ⟨rfl | hmem, hnew⟩
          · exact .inl rfl
          · rcases Classical.em (b = key x) with heq | hne
            · exact .inl heq
            · exact .inr ⟨hmem, fun hb => hb.elim hne hnew⟩

/-- What is new of a list stands in it. -/
theorem mem_of_mem_fresh {taken : List β} {xs : List α} {x : α} (h : x ∈ fresh key taken xs) :
    x ∈ xs := by
  induction xs generalizing taken with
  | nil => cases h
  | cons y ys ih =>
      rw [fresh] at h
      split at h
      · exact List.mem_cons_of_mem _ (ih h)
      · rcases List.mem_cons.1 h with rfl | h
        · exact List.mem_cons_self ..
        · exact List.mem_cons_of_mem _ (ih h)

end Injection

/-! ### Maps of texts -/

namespace StringMap

/-- The entries of a map are what is found in it. -/
theorem mem_entries_iff {m : StringMap} {name text : String} :
    (name, text) ∈ m.entries ↔ m.find? name = some text := by
  constructor
  · intro h
    obtain ⟨entries, hs⟩ := m
    change Entries.find? name entries = some text
    induction entries with
    | nil => cases h
    | cons e rest ih =>
        obtain ⟨k, v⟩ := e
        obtain ⟨hfirst, hrest⟩ := List.pairwise_cons.1 hs
        rw [Entries.find?_cons]
        rcases List.mem_cons.1 h with heq | hmem
        · obtain ⟨rfl, rfl⟩ := Prod.mk.inj heq
          exact if_pos rfl
        · -- names ascend, so a later entry has another name than the first
          rw [if_neg, ih hrest hmem]
          intro hname
          exact String.lt_irrefl _ (hname ▸ hfirst _ hmem)
  · exact Entries.mem_of_find?

/-- The map, if there is one, has all entries of the other. -/
def Within (desired : StringMap) (existing : Option StringMap) : Prop :=
  ∀ name text, desired.find? name = some text → existing.bind (·.find? name) = some text

theorem within_iff_entries {desired : StringMap} {existing : Option StringMap} :
    desired.Within existing
      ↔ ∀ e ∈ desired.entries, existing.bind (·.find? e.1) = some e.2 := by
  constructor
  · intro h e he
    exact h e.1 e.2 (mem_entries_iff.1 he)
  · intro h name text hfind
    exact h (name, text) (mem_entries_iff.2 hfind)

theorem within_of_isEmpty {desired : StringMap} (h : desired.isEmpty = true)
    (existing : Option StringMap) : desired.Within existing := by
  intro name text hfind
  rw [isEmpty_eq_false_of_find? hfind] at h
  cases h

/-- A map with entries is not within nothing. -/
theorem not_within_of_isEmpty {desired : StringMap} (h : desired.isEmpty = false)
    {existing : Option StringMap} (hnone : ∀ name, existing.bind (·.find? name) = none) :
    ¬ desired.Within existing := by
  intro hwithin
  cases hentries : desired.entries with
  | nil => simp [isEmpty, hentries] at h
  | cons e rest =>
      have hfind := within_iff_entries.1 hwithin e (hentries ▸ List.mem_cons_self ..)
      rw [hnone] at hfind
      cases hfind

end StringMap

/-! ### Patches that write nothing -/

namespace Json.Patch

theorem append_eq_nil_iff {base : Pointer} {length : Nat} {items : List Json} :
    append base length items = [] ↔ items = [] := by
  unfold append
  split
  · next h => simpa using h
  · next h =>
    have hne : items ≠ [] := by simpa using h
    split <;> simp [hne]

theorem under_eq_nil_iff {segment : String} {patch : Patch} :
    patch.under segment = [] ↔ patch = [] :=
  List.map_eq_nil_iff

/-- Merging writes nothing exactly if all entries wanted are there. -/
theorem mergeMap_eq_nil_iff {base : Pointer} {existing : Option StringMap} {desired : StringMap} :
    mergeMap base existing desired = [] ↔ desired.Within existing := by
  unfold mergeMap
  cases hd : desired.isEmpty with
  | true =>
      rw [if_pos rfl]
      exact iff_of_true rfl (StringMap.within_of_isEmpty hd _)
  | false =>
      rw [if_neg Bool.false_ne_true]
      cases existing with
      | none =>
          exact iff_of_false (List.cons_ne_nil _ _)
            (StringMap.not_within_of_isEmpty hd fun _ => rfl)
      | some existing =>
          simp only
          split
          · next he =>
            refine iff_of_false (List.cons_ne_nil _ _) (StringMap.not_within_of_isEmpty hd ?_)
            intro name
            rw [Option.bind_some, StringMap.find?, List.isEmpty_iff.1 he, Entries.find?_nil]
          · -- entry by entry: nothing is written for one exactly if it is there
            rw [List.flatMap_eq_nil_iff, StringMap.within_iff_entries]
            refine forall₂_congr fun e _ => ?_
            rw [Option.bind_some]
            cases existing.find? e.1 with
            | none => simp
            | some current =>
                simp only [Option.some.injEq]
                split <;> simp [*]

end Json.Patch

/-! ### What a pod has of a contribution -/

namespace Contribution

open Injection

variable (c : Contribution)

/-- **The pod has all that the contribution brings.** -/
structure Present (pod : Pod) (spec : PodSpec) : Prop where
  volumes : ∀ v ∈ c.volumes, v.name ∈ spec.volumes
  /-- Every container, those that run first included, mounts something at each of the paths. -/
  volumeMounts : ∀ k ∈ spec.initContainers ++ spec.containers, ∀ m ∈ c.volumeMounts,
    m.mountPath ∈ k.mountPaths
  containers : ∀ k ∈ c.containers, k.name ∈ spec.containers.map (·.name)
  /-- If nodes are to be demanded, the pod demands some. -/
  required : ∀ required, c.required = some required → ∃ n, spec.affinity = .nodes (n + 1)
  tolerations : ∀ t ∈ c.tolerations, t ∈ spec.tolerations
  labels : c.labels.Within pod.labels
  annotations : c.annotations.Within pod.annotations

theorem mountsPatch_eq_nil_iff {mounts : List VolumeMount} {containers : List PodContainer} :
    mountsPatch mounts containers = []
      ↔ ∀ k ∈ containers, ∀ m ∈ mounts, m.mountPath ∈ k.mountPaths := by
  have hone : ∀ k : PodContainer, mountPatch mounts k = []
      ↔ ∀ m ∈ mounts, m.mountPath ∈ k.mountPaths := by
    intro k
    rw [mountPatch, Patch.append_eq_nil_iff, List.map_eq_nil_iff, fresh_eq_nil_iff]
  simp only [mountsPatch, List.flatten_eq_nil_iff, List.forall_mem_map, Patch.under_eq_nil_iff,
    hone]
  constructor
  · intro h k hk
    obtain ⟨i, hi⟩ := List.mem_iff_getElem?.1 hk
    exact h (k, i) (List.mem_zipIdx_iff_getElem?.2 hi)
  · rintro h ⟨k, i⟩ hk
    exact h k (List.fst_mem_of_mem_zipIdx hk)

theorem requirePatch_eq_nil_iff {required : NodeSelector} {affinity : PodAffinity} :
    requirePatch required affinity = [] ↔ ∃ n, affinity = .nodes (n + 1) := by
  rcases affinity with _ | _ | _ | n <;> simp [requirePatch]

theorem affinityPatch_eq_nil_iff {affinity : PodAffinity} :
    c.affinityPatch affinity = []
      ↔ ∀ required, c.required = some required → ∃ n, affinity = .nodes (n + 1) := by
  unfold affinityPatch
  cases c.required with
  | none => simp
  | some required => simp [requirePatch_eq_nil_iff]

/-- The stages before the annotations write nothing exactly if nothing lacks of what they bring. -/
theorem present_iff {pod : Pod} {spec : PodSpec} :
    c.Present pod spec
      ↔ (c.specPatch spec).under "spec" ++ .mergeMap ["metadata", "labels"] pod.labels c.labels = []
        ∧ c.annotations.Within pod.annotations := by
  simp only [specPatch, List.append_eq_nil_iff, Patch.under_eq_nil_iff, Patch.append_eq_nil_iff,
    List.map_eq_nil_iff, Injection.fresh_eq_nil_iff, mountsPatch_eq_nil_iff,
    affinityPatch_eq_nil_iff, Patch.mergeMap_eq_nil_iff]
  constructor
  · intro h
    have hmounts := List.forall_mem_append.1 h.volumeMounts
    exact ⟨⟨⟨⟨⟨⟨h.volumes, hmounts⟩, h.containers⟩, h.required⟩, h.tolerations⟩, h.labels⟩,
      h.annotations⟩
  · rintro ⟨⟨⟨⟨⟨⟨hvolumes, hmounts⟩, hcontainers⟩, hrequired⟩, htolerations⟩, hlabels⟩, hannotations⟩
    exact ⟨hvolumes, List.forall_mem_append.2 hmounts, hcontainers, hrequired, htolerations,
      hlabels, hannotations⟩

/-- The operations that bring the contribution to a pod. -/
def patch (bookkeeping : StringMap) (pod : Pod) (spec : PodSpec) : Patch :=
  (c.specPatch spec).under "spec" ++ (c.metadataPatch bookkeeping pod).under "metadata"

end Contribution

/-! ### The answers of the engine -/

namespace Injection

/-- An annotation of the rule is pending exactly if not all are there. -/
theorem annotationsPending_eq_false_iff {rule : Rule} {pod : Pod} :
    annotationsPending rule pod = false ↔ rule.annotations.Within pod.annotations := by
  rw [annotationsPending, List.any_eq_false, StringMap.within_iff_entries]
  refine forall₂_congr fun e _ => ?_
  simp

end Injection

namespace Engine

/-- What is answered for a registered rule whose contribution is known. -/
theorem inject_of_contribution (engine : Engine) {r : RegisteredRule} {c : Contribution}
    (hc : r.rule.contribution = .ok c) (pod : Pod) (spec : PodSpec) (now : Timestamp) :
    engine.inject r pod spec now
      = .ok (if ((c.specPatch spec).under "spec"
            ++ .mergeMap ["metadata", "labels"] pod.labels c.labels).isEmpty
          && !Injection.annotationsPending r.rule pod then .nothingToInject r.displayName
        else match Breaker.evaluate ⟨engine.keyPrefix, r⟩ pod.annotations now with
          | .tripped n => .iterationLimitReached r.displayName n
          | .proceed bookkeeping => .patched r.displayName (c.patch bookkeeping pod spec)) := by
  have hannotations := (Rule.contribution_eq_ok_iff.1 hc).2.2.2.2.2.2
  have hpatch : ∀ bookkeeping, c.patch bookkeeping pod spec
      = (c.specPatch spec).under "spec" ++ .mergeMap ["metadata", "labels"] pod.labels c.labels
        ++ .mergeMap ["metadata", "annotations"] pod.annotations
          (r.rule.annotations.override bookkeeping) := by
    intro bookkeeping
    rw [Contribution.patch, Contribution.metadataPatch, Patch.under_append_patch,
      Patch.under_mergeMap, Patch.under_mergeMap, hannotations, List.append_assoc]
  simp only [inject, Injection.content_eq hc, bind, Except.bind, hpatch]
  split
  · rfl
  · cases Breaker.evaluate ⟨engine.keyPrefix, r⟩ pod.annotations now <;> rfl

section Registered

variable {registry : Registry} (keyPrefix : String) {r : RegisteredRule} {c : Contribution}
  {pod : Pod} {spec : PodSpec} (now : Timestamp) (hs : registry.Sound) (hr : r ∈ registry.rules)
  (hc : r.rule.contribution = .ok c) (hspec : pod.spec = some spec)

include hs hr hspec

/-- Under its fingerprint a registered rule is injected. -/
theorem mutate_eq_inject : mutate ⟨registry, keyPrefix⟩ r.fingerprint pod now
    = (inject ⟨registry, keyPrefix⟩ r pod spec now).mapError .rule := by
  simp only [mutate, (hs.resolve?_iff r.fingerprint r).2 ⟨hr, rfl⟩, hspec]

include hc

/-- **There is nothing to inject** if the pod has all of the contribution, whatever its counter. -/
theorem mutate_of_present (h : c.Present pod spec) :
    mutate ⟨registry, keyPrefix⟩ r.fingerprint pod now = .ok (.nothingToInject r.displayName) := by
  have hannotations := (Rule.contribution_eq_ok_iff.1 hc).2.2.2.2.2.2
  obtain ⟨hempty, hwithin⟩ := c.present_iff.1 h
  have hpending := Injection.annotationsPending_eq_false_iff.2 (hannotations ▸ hwithin)
  rw [mutate_eq_inject keyPrefix now hs hr hspec, inject_of_contribution _ hc, if_pos]
  · rfl
  · rw [hempty, hpending]
    rfl

/-- If something lacks, **the breaker decides**: the rule is stopped, or its patch is the answer. -/
theorem mutate_of_lacking (h : ¬ c.Present pod spec) :
    mutate ⟨registry, keyPrefix⟩ r.fingerprint pod now
      = .ok (match Breaker.evaluate ⟨keyPrefix, r⟩ pod.annotations now with
        | .tripped n => .iterationLimitReached r.displayName n
        | .proceed bookkeeping => .patched r.displayName (c.patch bookkeeping pod spec)) := by
  have hannotations := (Rule.contribution_eq_ok_iff.1 hc).2.2.2.2.2.2
  rw [mutate_eq_inject keyPrefix now hs hr hspec, inject_of_contribution _ hc, if_neg]
  · rfl
  · intro hnothing
    obtain ⟨hempty, hpending⟩ := Bool.and_eq_true_iff.1 hnothing
    rw [Bool.not_eq_true'] at hpending
    have hwithin := Injection.annotationsPending_eq_false_iff.1 hpending
    exact h (c.present_iff.2 ⟨List.isEmpty_iff.1 hempty, hannotations.symm ▸ hwithin⟩)

end Registered

end Engine

end Sidecar
