/-
**Rules that may come in any order.**

Which rule is asked for first, and how often each is, depends on the callers.  If no two rules bring
containers, volumes or mounts of one name or path, and at most one says anything about affinity, it
does not matter in the end: as soon as every rule answers that there is nothing to inject, the pod
is the same as after any other sequence of admissions, up to the order in which things were appended
and up to the annotations of the breaker.

The proof does not follow the sequences.  All of them keep one invariant, what the pod has gained
since the beginning; where every rule is satisfied, what was gained is complete; and two pods that
have gained everything have gained the same.

Main definitions:

* `Sidecar.Registry.Brings` — the contributions of registered rules;
* `Sidecar.Registry.Compatible` — rules that do not come into each other's way;
* `Sidecar.Engine.Leads` — sequences of admissions, **under any fingerprints and at any times**;
* `Sidecar.Engine.Settled` — every rule answers that there is nothing to inject.

Main results:

* `Sidecar.Engine.Admits.grown`, `Sidecar.Engine.Leads.grown` — what a pod has gained, after one
  admission more and after any sequence;
* `Sidecar.Registry.Compatible.brings` — the contributions of such rules leave nothing open;
* `Sidecar.Engine.alike_of_leads_of_settled` — **in the end the order does not matter.**
-/

import Mathlib.Logic.Relation
import Sidecar.Proofs.Injection.Alike

set_option autoImplicit false

namespace Sidecar

open Cluster Injection Json

/-! ### Compatible rules -/

namespace Registry

/-- The contributions of the rules that are registered. -/
def Brings (registry : Registry) (c : Contribution) : Prop :=
  ∃ r ∈ registry.rules, r.rule.contribution = .ok c

/-- No two rules have a key in common. -/
def Apart (registry : Registry) (keys : Rule → List String) : Prop :=
  registry.rules.Pairwise fun r s => ∀ key ∈ keys r.rule, key ∉ keys s.rule

instance (registry : Registry) (keys : Rule → List String) : Decidable (registry.Apart keys) :=
  inferInstanceAs (Decidable (registry.rules.Pairwise _))

/-- **Rules that do not come into each other's way**: no two have a container, a volume or a mount of
one name or path, and at most one says anything about affinity.  Of labels and annotations nothing
need be said: rules that disagree about one are never satisfied together. -/
structure Compatible (registry : Registry) : Prop where
  containers : registry.Apart fun rule => rule.containers.map (·.name)
  volumes : registry.Apart fun rule => rule.volumes.map (·.name)
  volumeMounts : registry.Apart fun rule => rule.volumeMounts.map (·.mountPath)
  affinity : registry.rules.Pairwise fun r s =>
    r.rule.affinity.all (·.isEmpty) = true ∨ s.rule.affinity.all (·.isEmpty) = true

instance (registry : Registry) : Decidable registry.Compatible :=
  decidable_of_iff
    ((registry.Apart fun rule => rule.containers.map (·.name))
      ∧ (registry.Apart fun rule => rule.volumes.map (·.name))
      ∧ (registry.Apart fun rule => rule.volumeMounts.map (·.mountPath))
      ∧ registry.rules.Pairwise fun r s =>
        r.rule.affinity.all (·.isEmpty) = true ∨ s.rule.affinity.all (·.isEmpty) = true)
    ⟨fun ⟨h1, h2, h3, h4⟩ => ⟨h1, h2, h3, h4⟩, fun ⟨h1, h2, h3, h4⟩ => ⟨h1, h2, h3, h4⟩⟩

variable {registry : Registry}

/-- What is brought for a key does not depend on the rule if no two have one in common. -/
theorem Apart.determined {keys : Rule → List String} (h : registry.Apart keys) {α : Type}
    {key : α → String} {offer : Contribution → List α}
    (hkeys : ∀ {rule : Rule} {c : Contribution}, rule.contribution = .ok c →
      (offer c).map key = keys rule) : Determined key registry.Brings offer := by
  refine determined_of_apart fun c c' hc hc' x hx y hy hkey => ?_
  obtain ⟨r, hr, hcontent⟩ := hc
  obtain ⟨s, hs, hcontent'⟩ := hc'
  by_cases hrs : r = s
  · subst hrs
    exact Except.ok.inj (hcontent.symm.trans hcontent')
  · have : Std.Symm fun r s : RegisteredRule => ∀ key ∈ keys r.rule, key ∉ keys s.rule :=
      ⟨fun _ _ hd _ hs hr => hd _ hr hs⟩
    have hdisjoint := List.Pairwise.forall h hr hs hrs
    have hkeyx : key x ∈ keys r.rule := hkeys hcontent ▸ List.mem_map_of_mem hx
    have hkeyy : key y ∈ keys s.rule := hkeys hcontent' ▸ List.mem_map_of_mem hy
    exact absurd (hkey ▸ hkeyy) (hdisjoint _ hkeyx)

/-- **The contributions of compatible rules leave nothing open.** -/
theorem Compatible.brings (h : registry.Compatible) : Contribution.Compatible registry.Brings where
  containers := h.containers.determined Rule.map_name_of_contribution
  volumes := h.volumes.determined fun hcontent =>
    Rule.map_eq_of_mapM (fun _ _ => Rule.Volume.name_of_toCluster)
      (Rule.contribution_eq_ok_iff.1 hcontent).1
  volumeMounts := h.volumeMounts.determined fun hcontent =>
    Rule.map_eq_of_mapM (fun _ _ => Rule.VolumeMount.mountPath_of_toCluster)
      (Rule.contribution_eq_ok_iff.1 hcontent).2.1
  required := by
    rintro c c' ⟨r, hr, hcontent⟩ ⟨s, hs, hcontent'⟩ required required' hrequired hrequired'
    -- a rule that demands nodes says something about affinity
    have hdemands : ∀ {rule : Rule} {c : Contribution} {required : NodeSelector},
        rule.contribution = .ok c → c.required = some required →
        ¬ rule.affinity.all (·.isEmpty) = true := by
      intro rule c required hcontent hrequired hempty
      obtain ⟨_, _, _, _, ⟨affinity, _, hdemanded⟩, _⟩ := Rule.contribution_eq_ok_iff.1 hcontent
      rw [if_pos hempty, hrequired] at hdemanded
      cases hdemanded
    by_cases hrs : r = s
    · subst hrs
      obtain rfl := Except.ok.inj (hcontent.symm.trans hcontent')
      exact Option.some.inj (hrequired.symm.trans hrequired')
    · have : Std.Symm fun r s : RegisteredRule =>
          r.rule.affinity.all (·.isEmpty) = true ∨ s.rule.affinity.all (·.isEmpty) = true :=
        ⟨fun _ _ => Or.symm⟩
      rcases h.affinity.forall hr hs hrs with hempty | hempty
      · exact absurd hempty (hdemands hcontent hrequired)
      · exact absurd hempty (hdemands hcontent' hrequired')

end Registry

/-! ### Sequences of admissions -/

namespace Engine

/-- **A sequence of admissions leads from one document to another**: under any fingerprints, in any
order and at any times, also while a rule is stopped. -/
def Leads (engine : Engine) : Json → Json → Prop :=
  Relation.ReflTransGen fun before after =>
    ∃ fingerprint now outcome, engine.Admits fingerprint now before outcome after

/-- **Every rule answers that there is nothing to inject.** -/
def Settled (engine : Engine) (document : Json) : Prop :=
  ∀ r ∈ engine.registry.rules, ∃ now,
    engine.Admits r.fingerprint now document (.nothingToInject r.displayName) document

/-- Patches that are applied one after another are such a sequence. -/
theorem leads_of_foldlM_admit? {engine : Engine} {steps : List (String × Timestamp)}
    {start last : Json}
    (h : steps.foldlM (fun document step => engine.admit? step.1 step.2 document) start
      = some last) : engine.Leads start last := by
  induction steps generalizing start with
  | nil =>
      obtain rfl := Option.some.inj h
      exact .refl
  | cons step steps ih =>
      rw [List.foldlM_cons] at h
      obtain ⟨next, hnext, hrest⟩ := Option.bind_eq_some_iff.1 h
      obtain ⟨pod, name, patch, hpod, hmutate, hrun⟩ := admit?_eq_some_iff.1 hnext
      exact .head ⟨step.1, step.2, _, pod, hpod, hmutate, hrun⟩ (ih hrest)

variable {registry : Registry} {keyPrefix : String}

/-- An admission leaves the document, or injects what a rule brings. -/
theorem Admits.eq_or_inject (hs : registry.Sound) {fingerprint : String} {now : Timestamp}
    {before after : Json} {outcome : Outcome} (hc : before.IsCanonical)
    (h : Admits ⟨registry, keyPrefix⟩ fingerprint now before outcome after) :
    after = before ∨ Admissible before
      ∧ ∃ r ∈ registry.rules, ∃ c, r.rule.contribution = .ok c
        ∧ ∃ n, after = c.inject (Breaker.bookkeeping ⟨keyPrefix, r⟩ n now) before := by
  obtain ⟨pod, hpod, hmutate, hrun⟩ := h
  cases outcome with
  | patched name patch =>
      obtain ⟨r, hr, _, _, c, hcontent, pod, spec, members, hpod, hspec, hdata, hafter⟩ :=
        exists_inject_of_admit? hs hc (admit?_eq_some_iff.2 ⟨pod, name, patch, hpod, hmutate, hrun⟩)
      exact .inr ⟨⟨hc, ⟨pod, spec, hpod, hspec⟩, members, hdata⟩, r, hr, c, hcontent, _, hafter⟩
  | unknownRule => exact .inl (Option.some.inj hrun).symm
  | nothingToInject name => exact .inl (Option.some.inj hrun).symm
  | iterationLimitReached name n => exact .inl (Option.some.inj hrun).symm

/-- **One admission more**: what the pod has gained since the beginning is still brought by rules. -/
theorem Admits.grown (hs : registry.Sound) {fingerprint : String} {now : Timestamp}
    {start before after : Json} {outcome : Outcome} (hstart : Admissible start)
    (hbefore : Admissible before)
    (hgrown : Contribution.Grown registry.Brings keyPrefix start before)
    (h : Admits ⟨registry, keyPrefix⟩ fingerprint now before outcome after) :
    Admissible after ∧ Contribution.Grown registry.Brings keyPrefix start after := by
  have hterms : ∀ c, registry.Brings c → ∀ required, c.required = some required →
      required.nodeSelectorTerms ≠ [] := by
    rintro c ⟨r, _, hcontent⟩ required hrequired
    exact Rule.nodeSelectorTerms_ne_nil_of_contribution hcontent hrequired
  rcases h.eq_or_inject hs hbefore.isCanonical with rfl | ⟨_, r, hr, c, hcontent, n, rfl⟩
  · exact ⟨hbefore, hgrown⟩
  · have hbrings : registry.Brings c := ⟨r, hr, hcontent⟩
    exact ⟨hbefore.inject c _, hgrown.inject (b := ⟨keyPrefix, r⟩) hterms hstart hbrings n now⟩

/-- **After a sequence of admissions** the pod is as in the beginning, or could be patched and has
gained what rules bring. -/
theorem Leads.grown (hs : registry.Sound) {start last : Json} (hc : start.IsCanonical)
    (h : Leads ⟨registry, keyPrefix⟩ start last) :
    last = start ∨ Admissible start ∧ Admissible last
      ∧ Contribution.Grown registry.Brings keyPrefix start last := by
  induction h with
  | refl => exact .inl rfl
  | tail _ hadmits ih =>
      obtain ⟨fingerprint, now, outcome, hadmits⟩ := hadmits
      rcases ih with rfl | ⟨hstart, hbefore, hgrown⟩
      · -- the first patch, if it is one, shows that the pod can be patched
        rcases hadmits.eq_or_inject hs hc with rfl | ⟨hstart, _⟩
        · exact .inl rfl
        · exact .inr ⟨hstart, hadmits.grown hs hstart hstart (.refl hstart)⟩
      · exact .inr ⟨hstart, hadmits.grown hs hstart hbefore hgrown⟩

/-- Where every rule answers that there is nothing to inject, all that they bring is there. -/
theorem Settled.presentIn (hs : registry.Sound) {document : Json} (hc : document.IsCanonical)
    (h : Settled ⟨registry, keyPrefix⟩ document) {c : Contribution} (hbrings : registry.Brings c) :
    c.PresentIn document := by
  obtain ⟨r, hr, hcontent⟩ := hbrings
  obtain ⟨now, hadmits⟩ := h r hr
  rcases hadmits.cases hs hr hcontent hc with ⟨hpresent, _⟩ | ⟨_, _, hout, _⟩ | ⟨_, hout, _⟩
  · exact hpresent
  · cases hout
  · cases hout

/-- **In the end the order does not matter.**  Two sequences of admissions, under any fingerprints,
in any order and at any times, begin with one pod and end where every rule answers that there is
nothing to inject.  If the rules are compatible, the two pods are the same, or alike: what was
appended to the volumes, the containers, the tolerations and the mounts of each container may be in
another order, and the annotations of the breaker may differ, but nothing else. -/
theorem alike_of_leads_of_settled {rules : List Rule} {registry : Registry}
    (hbuild : Registry.build rules = .ok registry) (hcompatible : registry.Compatible)
    {keyPrefix : String} {start x y : Json} (hc : start.IsCanonical)
    (hx : Leads ⟨registry, keyPrefix⟩ start x) (hy : Leads ⟨registry, keyPrefix⟩ start y)
    (hsettledx : Settled ⟨registry, keyPrefix⟩ x) (hsettledy : Settled ⟨registry, keyPrefix⟩ y) :
    x = y ∨ Contribution.AlikePods registry.Brings keyPrefix start x y := by
  have hs := Registry.sound_of_build hbuild
  have halike : Admissible start → ∀ {x y},
      Admissible x → Contribution.Grown registry.Brings keyPrefix start x →
      Settled ⟨registry, keyPrefix⟩ x → Admissible y →
      Contribution.Grown registry.Brings keyPrefix start y → Settled ⟨registry, keyPrefix⟩ y →
      Contribution.AlikePods registry.Brings keyPrefix start x y := by
    intro hstart x y hax hgrownx hsettledx hay hgrowny hsettledy
    exact hgrownx.alike hcompatible.brings hstart hgrowny hax hay
      (fun _ => hsettledx.presentIn hs hax.isCanonical)
      (fun _ => hsettledy.presentIn hs hay.isCanonical)
  rcases hx.grown hs hc with rfl | ⟨hstart, hax, hgrownx⟩
  · rcases hy.grown hs hc with rfl | ⟨hstart, hay, hgrowny⟩
    · exact .inl rfl
    · exact .inr (halike hstart hstart (.refl hstart) hsettledx hay hgrowny hsettledy)
  · rcases hy.grown hs hc with rfl | ⟨_, hay, hgrowny⟩
    · exact .inr (halike hstart hax hgrownx hsettledx hstart (.refl hstart) hsettledy)
    · exact .inr (halike hstart hax hgrownx hsettledx hay hgrowny hsettledy)

/-- One rule brings a container and another a mount, and both a volume.  If the mount comes first it
has to come again, for the container, and the volumes are in the other order. -/
theorem alike_of_container_and_mount :
    ∃ (registry : Registry) (start x y : Json),
      Registry.build [
          { (default : Rule) with
            name := "a", maxIterations := 3
            volumes := [{ (default : Rule.Volume) with name := "va" }]
            containers := [{ (default : Rule.Container) with name := "side" }] },
          { (default : Rule) with
            name := "b", maxIterations := 3
            volumes := [{ (default : Rule.Volume) with name := "vb" }]
            volumeMounts := [{ (default : Rule.VolumeMount) with
              name := "vb", mountPath := "/v" }] }] = .ok registry
        ∧ registry.Compatible
        ∧ Leads ⟨registry, "example.org"⟩ start x ∧ Settled ⟨registry, "example.org"⟩ x
        ∧ Leads ⟨registry, "example.org"⟩ start y ∧ Settled ⟨registry, "example.org"⟩ y
        ∧ x ≠ y ∧ Contribution.AlikePods registry.Brings "example.org" start x y := by
  obtain ⟨registry, start, x, y, hbuild, hcompatible, hx, hy, hsettled, hne⟩ :
      ∃ (registry : Registry) (start x y : Json),
        Registry.build [
            { (default : Rule) with
              name := "a", maxIterations := 3
              volumes := [{ (default : Rule.Volume) with name := "va" }]
              containers := [{ (default : Rule.Container) with name := "side" }] },
            { (default : Rule) with
              name := "b", maxIterations := 3
              volumes := [{ (default : Rule.Volume) with name := "vb" }]
              volumeMounts := [{ (default : Rule.VolumeMount) with
                name := "vb", mountPath := "/v" }] }] = .ok registry
          ∧ registry.Compatible
          ∧ [("996aee3469fe9b81", Timestamp.epoch), ("d1c9a5a9f9941f07", .epoch)].foldlM
            (fun document step => admit? ⟨registry, "example.org"⟩ step.1 step.2 document)
            (canonical start) = some x
          ∧ [("d1c9a5a9f9941f07", Timestamp.epoch), ("996aee3469fe9b81", .epoch),
              ("d1c9a5a9f9941f07", .epoch)].foldlM
            (fun document step => admit? ⟨registry, "example.org"⟩ step.1 step.2 document)
            (canonical start) = some y
          ∧ (∀ document ∈ [x, y], ∀ r ∈ registry.rules,
            (Pod.ofJson? document).map
                (mutate ⟨registry, "example.org"⟩ r.fingerprint · .epoch)
              = some (.ok (.nothingToInject r.displayName)))
          ∧ x ≠ y :=
    ⟨⟨[⟨"996aee3469fe9b81", { (default : Rule) with
          name := "a", maxIterations := 3
          volumes := [{ (default : Rule.Volume) with name := "va" }]
          containers := [{ (default : Rule.Container) with name := "side" }] }⟩,
        ⟨"d1c9a5a9f9941f07", { (default : Rule) with
          name := "b", maxIterations := 3
          volumes := [{ (default : Rule.Volume) with name := "vb" }]
          volumeMounts := [{ (default : Rule.VolumeMount) with
            name := "vb", mountPath := "/v" }] }⟩]⟩,
      .obj [("metadata", .obj []),
        ("spec", .obj [("containers", .arr [.obj [("name", .str "app")]])])],
      .obj [("metadata", .obj [("annotations", .obj [
          ("example.org/996aee3469fe9b81", .str "1"),
          ("example.org/a", .str "1970-01-01T00:00:00Z"),
          ("example.org/b", .str "1970-01-01T00:00:00Z"),
          ("example.org/d1c9a5a9f9941f07", .str "1")])]),
        ("spec", .obj [
          ("containers", .arr [
            .obj [("name", .str "app"),
              ("volumeMounts", .arr [.obj [("mountPath", .str "/v"), ("name", .str "vb")]])],
            .obj [("image", .str ""), ("name", .str "side"),
              ("volumeMounts", .arr [.obj [("mountPath", .str "/v"), ("name", .str "vb")]])]]),
          ("volumes", .arr [.obj [("name", .str "va")], .obj [("name", .str "vb")]])])],
      .obj [("metadata", .obj [("annotations", .obj [
          ("example.org/996aee3469fe9b81", .str "1"),
          ("example.org/a", .str "1970-01-01T00:00:00Z"),
          ("example.org/b", .str "1970-01-01T00:00:00Z"),
          ("example.org/d1c9a5a9f9941f07", .str "2")])]),
        ("spec", .obj [
          ("containers", .arr [
            .obj [("name", .str "app"),
              ("volumeMounts", .arr [.obj [("mountPath", .str "/v"), ("name", .str "vb")]])],
            .obj [("image", .str ""), ("name", .str "side"),
              ("volumeMounts", .arr [.obj [("mountPath", .str "/v"), ("name", .str "vb")]])]]),
          ("volumes", .arr [.obj [("name", .str "vb")], .obj [("name", .str "va")]])])],
      by decide +kernel, by decide +kernel, by decide +kernel, by decide +kernel,
      by decide +kernel, by decide +kernel⟩
  have hanswers : ∀ document ∈ [x, y], Settled ⟨registry, "example.org"⟩ document := by
    intro document hdocument r hr
    obtain ⟨pod, hpod, hmutate⟩ := Option.map_eq_some_iff.1 (hsettled document hdocument r hr)
    exact ⟨.epoch, pod, hpod, hmutate, rfl⟩
  have hsettledx := hanswers x (by simp)
  have hsettledy := hanswers y (by simp)
  have hleadsx := leads_of_foldlM_admit? hx
  have hleadsy := leads_of_foldlM_admit? hy
  refine ⟨registry, canonical start, x, y, hbuild, hcompatible, hleadsx, hsettledx, hleadsy,
    hsettledy, hne, ?_⟩
  exact (alike_of_leads_of_settled hbuild hcompatible (isCanonical_canonical start) hleadsx hleadsy
    hsettledx hsettledy).resolve_left hne

end Engine

end Sidecar
