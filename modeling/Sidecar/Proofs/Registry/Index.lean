/-
**The index of a registry.**

A registry looks a rule up by going through its rules.  One that is asked at each admission rather
keeps a map beside them, from each fingerprint to the position of its rule, and looks there; it asks
the same map, while it is still being built, whether a fingerprint is taken.  Registering puts the
rule last and its position into the map, and as long as no fingerprint is registered twice the map
leads to the rules' positions and to nothing else.  So the two registries cannot be told apart.

Main definitions:

* `Sidecar.IndexedRegistry` — rules and the positions of their fingerprints;
* `Sidecar.IndexedRegistry.build`, `Sidecar.IndexedRegistry.resolve?` — how they are registered and
  found;
* `Sidecar.IndexedRegistry.Indexed` — **the positions are those of the rules**, the invariant.

Main results:

* `Sidecar.IndexedRegistry.Indexed.register` — the invariant holds after one rule more;
* `Sidecar.IndexedRegistry.Indexed.resolve?_eq` — **what is found by the index is what is found
  without**;
* `Sidecar.IndexedRegistry.map_toRegistry_build` — **rules are registered or refused alike.**
-/

import Sidecar.Proofs.Computation
import Sidecar.Proofs.Registered

set_option autoImplicit false

namespace Sidecar

/-- Registered rules in the order of the configuration, and the position of each under its
fingerprint. -/
structure IndexedRegistry where
  rules : List RegisteredRule
  positions : List (String × Nat)

namespace IndexedRegistry

/-- The registry without rules. -/
def empty : IndexedRegistry := ⟨[], []⟩

/-- The rule at the position under a fingerprint. -/
def resolve? (registry : IndexedRegistry) (fingerprint : String) : Option RegisteredRule :=
  (Entries.find? fingerprint registry.positions).bind (registry.rules[·]?)

/-- The registry with one rule more, unless that is not valid or there is one of the same
content. -/
def register (registry : IndexedRegistry) (rule : Rule) : Except RuleError IndexedRegistry := do
  let registered := RegisteredRule.ofRule rule
  rule.validate.mapError (.invalidRule registered.displayName)
  match registry.resolve? registered.fingerprint with
  | some existing =>
    throw (.duplicateFingerprint registered.fingerprint existing.displayName
      registered.displayName)
  | none =>
    pure ⟨registry.rules ++ [registered],
      Entries.insert registered.fingerprint registry.rules.length registry.positions⟩

/-- The registry of a list of rules. -/
def build (rules : List Rule) : Except RuleError IndexedRegistry :=
  rules.foldlM register empty

/-- The registry without the index. -/
def toRegistry (registry : IndexedRegistry) : Registry := ⟨registry.rules⟩

/-- **The positions are those of the rules**: what stands under a fingerprint is where the rule of
that fingerprint stands. -/
def Indexed (registry : IndexedRegistry) : Prop :=
  ∀ fingerprint i, Entries.find? fingerprint registry.positions = some i
    ↔ ∃ r, registry.rules[i]? = some r ∧ r.fingerprint = fingerprint

theorem indexed_empty : Indexed empty := by
  intro fingerprint i
  simp [empty]

variable {registry : IndexedRegistry}

/-- The rule that is found is the one at a position, of that fingerprint. -/
theorem Indexed.resolve?_eq_some_iff (h : registry.Indexed) {fingerprint : String}
    {r : RegisteredRule} : registry.resolve? fingerprint = some r
      ↔ r ∈ registry.rules ∧ r.fingerprint = fingerprint := by
  rw [resolve?, Option.bind_eq_some_iff]
  constructor
  · rintro ⟨i, hfind, hr⟩
    obtain ⟨s, hs, hfingerprint⟩ := (h fingerprint i).1 hfind
    obtain rfl := Option.some.inj (hs.symm.trans hr)
    exact ⟨List.mem_of_getElem? hr, hfingerprint⟩
  · rintro ⟨hmem, hfingerprint⟩
    obtain ⟨i, hr⟩ := List.mem_iff_getElem?.1 hmem
    exact ⟨i, (h fingerprint i).2 ⟨r, hr, hfingerprint⟩, hr⟩

/-- **What is found by the index is what is found without.** -/
theorem Indexed.resolve?_eq (h : registry.Indexed) (fingerprint : String) :
    registry.resolve? fingerprint = registry.toRegistry.resolve? fingerprint := by
  cases hfound : registry.toRegistry.resolve? fingerprint with
  | some r => exact h.resolve?_eq_some_iff.2 (Registry.mem_of_resolve? hfound)
  | none =>
      rw [Registry.resolve?_eq_none_iff] at hfound
      refine Option.eq_none_iff_forall_ne_some.2 fun r hr => hfound ?_
      obtain ⟨hmem, hfingerprint⟩ := h.resolve?_eq_some_iff.1 hr
      exact List.mem_map.2 ⟨r, hmem, hfingerprint⟩

/-- **Rules are registered or refused alike**, with the index and without. -/
theorem Indexed.map_toRegistry_register (h : registry.Indexed) (rule : Rule) :
    (registry.register rule).map toRegistry = registry.toRegistry.register rule := by
  simp only [register, Registry.register, h.resolve?_eq]
  cases rule.validate with
  | error cause => rfl
  | ok valid =>
      cases registry.toRegistry.resolve? (RegisteredRule.ofRule rule).fingerprint with
      | some existing => rfl
      | none => rfl

/-- At a position of a list and one item more stands what stood in the list, or the item behind. -/
theorem getElem?_concat_eq_some_iff {α : Type} {xs : List α} {x y : α} {i : Nat} :
    (xs ++ [x])[i]? = some y ↔ xs[i]? = some y ∨ i = xs.length ∧ x = y := by
  rcases Nat.lt_trichotomy i xs.length with hlt | rfl | hgt
  · simp [List.getElem?_append_left hlt, Nat.ne_of_lt hlt]
  · simp
  · rw [List.getElem?_eq_none (by simpa using Nat.succ_le_of_lt hgt),
      List.getElem?_eq_none (Nat.le_of_lt hgt)]
    simp [Nat.ne_of_gt hgt]

/-- A rule that is registered has a new fingerprint and comes last, its position with it. -/
theorem register_eq_ok {rule : Rule} {after : IndexedRegistry}
    (h : registry.register rule = .ok after) :
    registry.resolve? rule.fingerprint = none
      ∧ after = ⟨registry.rules ++ [.ofRule rule],
        Entries.insert rule.fingerprint registry.rules.length registry.positions⟩ := by
  have hfingerprint : (RegisteredRule.ofRule rule).fingerprint = rule.fingerprint := rfl
  simp only [register, hfingerprint] at h
  cases hvalid : rule.validate with
  | error cause =>
      rw [hvalid] at h
      cases h
  | ok valid =>
      rw [hvalid] at h
      cases hfound : registry.resolve? rule.fingerprint with
      | some existing =>
          rw [hfound] at h
          cases h
      | none =>
          rw [hfound] at h
          cases h
          exact ⟨rfl, rfl⟩

/-- **Registering one rule keeps the positions those of the rules.** -/
theorem Indexed.register (h : registry.Indexed) {rule : Rule} {after : IndexedRegistry}
    (hafter : registry.register rule = .ok after) : after.Indexed := by
  obtain ⟨hnew, rfl⟩ := register_eq_ok hafter
  -- no rule that was there has the fingerprint
  have hother : ∀ (i : Nat) (r : RegisteredRule), registry.rules[i]? = some r →
      r.fingerprint ≠ rule.fingerprint := by
    intro i r hr heq
    rw [h.resolve?_eq_some_iff.2 ⟨List.mem_of_getElem? hr, heq⟩] at hnew
    cases hnew
  intro fingerprint i
  simp only [Entries.find?_insert, getElem?_concat_eq_some_iff]
  split
  · next heq =>
    subst heq
    constructor
    · intro hi
      exact ⟨.ofRule rule, .inr ⟨(Option.some.inj hi).symm, rfl⟩, rfl⟩
    · rintro ⟨r, hr | ⟨rfl, _⟩, hfingerprint⟩
      · exact absurd hfingerprint (hother i r hr)
      · rfl
  · next hne =>
    rw [h fingerprint i]
    constructor
    · rintro ⟨r, hr, hfingerprint⟩
      exact ⟨r, .inl hr, hfingerprint⟩
    · rintro ⟨r, hr | ⟨_, rfl⟩, hfingerprint⟩
      · exact ⟨r, hr, hfingerprint⟩
      · exact absurd hfingerprint hne

/-- **Rules are registered or refused alike**, with the index and without, and the positions stay
those of the rules. -/
theorem Indexed.foldlM_register {rules : List Rule} :
    ∀ {registry : IndexedRegistry}, registry.Indexed →
      (rules.foldlM IndexedRegistry.register registry).map toRegistry
          = rules.foldlM Registry.register registry.toRegistry
        ∧ ∀ after, rules.foldlM IndexedRegistry.register registry = .ok after → after.Indexed := by
  induction rules with
  | nil =>
      intro registry h
      refine ⟨rfl, fun after hafter => ?_⟩
      cases hafter
      exact h
  | cons rule rules ih =>
      intro registry h
      rw [List.foldlM_cons, List.foldlM_cons, ← h.map_toRegistry_register]
      cases hfirst : registry.register rule with
      | error e =>
          refine ⟨rfl, fun after hafter => ?_⟩
          cases hafter
      | ok next => exact ih (h.register hfirst)

/-- **The index makes no difference to what is built.** -/
theorem map_toRegistry_build (rules : List Rule) :
    (build rules).map toRegistry = Registry.build rules :=
  (Indexed.foldlM_register indexed_empty).1

/-- **In a registry that was built the positions are those of the rules.** -/
theorem indexed_of_build {rules : List Rule} (h : build rules = .ok registry) : registry.Indexed :=
  (Indexed.foldlM_register indexed_empty).2 registry h

end IndexedRegistry

end Sidecar
