/-
**What a registry that was built is like.**

`Sidecar.Registry.build` registers rule by rule and stops at the first that is not valid or whose
content is there already.  What holds of every registry it returns is an invariant of registering:
each rule is valid and stands under the fingerprint of its own content, and no fingerprint stands
twice.

Main definition: `Sidecar.Registry.Sound` — the invariant.

Main results:

* `Sidecar.Registry.register_eq_ok_iff` — when a rule is registered, and what that adds;
* `Sidecar.Registry.Sound.register`, `Sidecar.Registry.sound_of_build` — the invariant holds after
  one rule and after all;
* `Sidecar.Registry.Sound.resolve?_iff` — **a fingerprint leads to the one rule that stands under
  it.**
-/

import Mathlib.Data.List.Induction
import Mathlib.Data.List.Nodup
import Sidecar.Registry

set_option autoImplicit false

namespace Sidecar.Registry

/-- Every rule is valid and stands under its own fingerprint, and no fingerprint stands twice. -/
structure Sound (registry : Registry) : Prop where
  valid : ∀ r ∈ registry.rules, r.rule.validate = .ok ()
  fingerprint : ∀ r ∈ registry.rules, r.fingerprint = r.rule.fingerprint
  nodup : (registry.rules.map (·.fingerprint)).Nodup

/-- Nothing stands under a fingerprint exactly if no registered rule has it. -/
theorem resolve?_eq_none_iff (registry : Registry) (fingerprint : String) :
    registry.resolve? fingerprint = none ↔ fingerprint ∉ registry.rules.map (·.fingerprint) := by
  rw [resolve?, List.find?_eq_none]
  constructor
  · intro h hmem
    obtain ⟨r, hr, hfp⟩ := List.mem_map.1 hmem
    exact h r hr (beq_iff_eq.2 hfp)
  · intro h r hr hfp
    exact h (List.mem_map.2 ⟨r, hr, beq_iff_eq.1 hfp⟩)

/-- A rule is registered exactly if it is valid and its content is new; it comes last. -/
theorem register_eq_ok_iff (registry after : Registry) (rule : Rule) :
    registry.register rule = .ok after
      ↔ rule.validate = .ok () ∧ registry.resolve? rule.fingerprint = none
        ∧ after = ⟨registry.rules ++ [.ofRule rule]⟩ := by
  have hfingerprint : (RegisteredRule.ofRule rule).fingerprint = rule.fingerprint := rfl
  simp only [register, hfingerprint]
  cases hvalid : rule.validate with
  | error e =>
      constructor
      · intro h
        cases h
      · intro h
        cases h.1
  | ok u =>
      cases hfound : registry.resolve? rule.fingerprint with
      | some existing =>
          constructor
          · intro h
            cases h
          · intro h
            cases h.2.1
      | none =>
          constructor
          · intro h
            cases h
            exact ⟨rfl, rfl, rfl⟩
          · intro h
            rw [h.2.2]
            rfl

theorem sound_empty : Sound empty :=
  ⟨by simp [empty], by simp [empty], List.nodup_nil⟩

/-- Registering one rule keeps the invariant. -/
theorem Sound.register {registry after : Registry} {rule : Rule} (hs : registry.Sound)
    (h : registry.register rule = .ok after) : after.Sound := by
  obtain ⟨hvalid, hnew, rfl⟩ := (register_eq_ok_iff registry after rule).1 h
  have hmem : ∀ r, r ∈ registry.rules ++ [RegisteredRule.ofRule rule] →
      r ∈ registry.rules ∨ r = RegisteredRule.ofRule rule := by
    intro r hr
    rcases List.mem_append.1 hr with hr | hr
    · exact .inl hr
    · exact .inr (List.mem_singleton.1 hr)
  refine ⟨?_, ?_, ?_⟩
  · intro r hr
    rcases hmem r hr with hr | rfl
    · exact hs.valid r hr
    · exact hvalid
  · intro r hr
    rcases hmem r hr with hr | rfl
    · exact hs.fingerprint r hr
    · rfl
  · rw [List.map_append, List.map_singleton]
    refine List.nodup_append.2 ⟨hs.nodup, List.nodup_singleton _, ?_⟩
    intro a ha b hb heq
    obtain rfl := List.mem_singleton.1 hb
    subst heq
    exact (resolve?_eq_none_iff registry rule.fingerprint).1 hnew ha

/-- Registering a list of rules keeps the invariant. -/
theorem Sound.foldlM_register {rules : List Rule} :
    ∀ {registry after : Registry}, registry.Sound →
      rules.foldlM Registry.register registry = .ok after → after.Sound := by
  induction rules with
  | nil =>
      intro registry after hs h
      cases h
      exact hs
  | cons rule rules ih =>
      intro registry after hs h
      rw [List.foldlM_cons] at h
      cases hfirst : registry.register rule with
      | error e =>
          rw [hfirst] at h
          cases h
      | ok next =>
          rw [hfirst] at h
          exact ih (hs.register hfirst) h

/-- **Every registry that was built satisfies the invariant.** -/
theorem sound_of_build {rules : List Rule} {registry : Registry}
    (h : build rules = .ok registry) : registry.Sound :=
  sound_empty.foldlM_register h

/-- The rule found under a fingerprint is registered, and has it. -/
theorem mem_of_resolve? {registry : Registry} {fingerprint : String} {r : RegisteredRule}
    (h : registry.resolve? fingerprint = some r) :
    r ∈ registry.rules ∧ r.fingerprint = fingerprint :=
  ⟨List.mem_of_find?_eq_some h, by simpa using List.find?_some h⟩

/-- Two registered rules of one fingerprint are the same. -/
theorem Sound.eq_of_fingerprint_eq {registry : Registry} (hs : registry.Sound)
    {r s : RegisteredRule} (hr : r ∈ registry.rules) (hss : s ∈ registry.rules)
    (h : r.fingerprint = s.fingerprint) : r = s :=
  List.inj_on_of_nodup_map hs.nodup hr hss h

/-- **A fingerprint leads to the one rule that stands under it.** -/
theorem Sound.resolve?_iff {registry : Registry} (hs : registry.Sound) (fingerprint : String)
    (r : RegisteredRule) : registry.resolve? fingerprint = some r
      ↔ r ∈ registry.rules ∧ r.fingerprint = fingerprint := by
  refine ⟨mem_of_resolve?, ?_⟩
  rintro ⟨hr, rfl⟩
  cases hfound : registry.resolve? r.fingerprint with
  | none =>
      exact absurd (List.mem_map.2 ⟨r, hr, rfl⟩)
        ((resolve?_eq_none_iff registry r.fingerprint).1 hfound)
  | some s =>
      obtain ⟨hs', heq⟩ := mem_of_resolve? hfound
      rw [hs.eq_of_fingerprint_eq hs' hr heq]

/-- Some rules and one more are registered exactly if the one can be after the others. -/
theorem build_concat_eq_ok_iff {rules : List Rule} {rule : Rule} {after : Registry} :
    build (rules ++ [rule]) = .ok after
      ↔ ∃ before, build rules = .ok before ∧ before.register rule = .ok after := by
  rw [build_append]
  cases build rules with
  | error e =>
      constructor
      · intro h
        cases h
      · rintro ⟨before, h, _⟩
        cases h
  | ok before =>
      have hone : [rule].foldlM register before = before.register rule := by
        simp
      change [rule].foldlM register before = .ok after ↔ _
      rw [hone]
      constructor
      · intro h
        exact ⟨before, rfl, h⟩
      · rintro ⟨before', h, hafter⟩
        cases h
        exact hafter

/-- **Rules can be registered together** exactly if all are valid and their fingerprints differ;
they then stand in their order. -/
theorem build_eq_ok_iff {rules : List Rule} {registry : Registry} :
    build rules = .ok registry
      ↔ (∀ r ∈ rules, r.validate = .ok ()) ∧ (rules.map Rule.fingerprint).Nodup
        ∧ registry = ⟨rules.map RegisteredRule.ofRule⟩ := by
  induction rules using List.reverseRecOn generalizing registry with
  | nil =>
      have hempty : empty = registry ↔ registry = ⟨[]⟩ := eq_comm
      simpa using hempty
  | append_singleton rules rule ih =>
      simp only [build_concat_eq_ok_iff, ih, register_eq_ok_iff, resolve?_eq_none_iff]
      have hstored : ∀ rs : List Rule,
          (rs.map RegisteredRule.ofRule).map (·.fingerprint) = rs.map Rule.fingerprint := by
        intro rs
        rw [List.map_map]
        rfl
      rw [List.map_append, List.map_append, List.map_singleton, List.map_singleton,
        List.nodup_append]
      constructor
      · rintro ⟨before, ⟨hvalid, hnodup, rfl⟩, hrule, hnew, rfl⟩
        rw [hstored] at hnew
        refine ⟨?_, ⟨hnodup, List.nodup_singleton _, ?_⟩, rfl⟩
        · intro r hr
          rcases List.mem_append.1 hr with hr | hr
          · exact hvalid r hr
          · exact List.mem_singleton.1 hr ▸ hrule
        · intro a ha b hb heq
          exact hnew (List.mem_singleton.1 hb ▸ heq ▸ ha)
      · rintro ⟨hvalid, ⟨hnodup, _, hnew⟩, rfl⟩
        refine ⟨_, ⟨fun r hr => hvalid r (List.mem_append_left _ hr), hnodup, rfl⟩,
          hvalid rule (List.mem_append_right _ (List.mem_singleton.2 rfl)), ?_, rfl⟩
        rw [hstored]
        exact fun hmem => hnew _ hmem _ (List.mem_singleton.2 rfl) rfl

end Sidecar.Registry
