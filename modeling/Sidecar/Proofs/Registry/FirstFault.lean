/-
**When a registry is built, what it answers, and which rule is to blame when it is not.**

Rules are registered one after the other until one is refused, so the error is that of the first
rule that is not valid or has the fingerprint of an earlier one; all rules before it are valid and
have fingerprints of their own.  A rule that is neither valid nor new is refused as not valid.  Of
one that is valid but not new there is exactly one earlier rule that it repeats, since the earlier
ones differ, and the error tells both names.

Main definition: `Sidecar.Registry.Refused` — the rule at a position is refused.

Main results:

* `Sidecar.Registry.register_eq_error_iff` — why a rule is refused;
* `Sidecar.Registry.forall_not_refused_iff` — **no rule is refused exactly if all can be
  registered**;
* `Sidecar.Registry.build_eq_error_iff` — **which error is reported**;
* `Sidecar.Registry.built_or_refused` — what becomes of a list of rules.
-/

import Sidecar.Proofs.Registry.Index

set_option autoImplicit false

namespace Sidecar.Registry

/-- **The rule at a position is refused**: it is not valid, or one before it has its fingerprint. -/
def Refused (rules : List Rule) (i : Nat) : Prop :=
  ∃ rule, rules[i]? = some rule
    ∧ (rule.validate ≠ .ok ()
      ∨ ∃ j < i, ∃ earlier, rules[j]? = some earlier ∧ earlier.fingerprint = rule.fingerprint)

/-- Why a rule is refused: it is not valid, or else there is one of its fingerprint. -/
theorem register_eq_error_iff (registry : Registry) (rule : Rule) (e : RuleError) :
    registry.register rule = .error e
      ↔ (∃ cause, rule.validate = .error cause ∧ e = .invalidRule rule.displayName cause)
        ∨ (rule.validate = .ok () ∧ ∃ existing, registry.resolve? rule.fingerprint = some existing
          ∧ e = .duplicateFingerprint rule.fingerprint existing.displayName rule.displayName) := by
  have hfingerprint : (RegisteredRule.ofRule rule).fingerprint = rule.fingerprint := rfl
  simp only [register, hfingerprint, RegisteredRule.displayName_ofRule]
  cases hvalid : rule.validate with
  | error cause =>
      constructor
      · intro h
        cases h
        exact .inl ⟨cause, rfl, rfl⟩
      · rintro (⟨_, h, rfl⟩ | ⟨h, _⟩)
        · cases h
          rfl
        · cases h
  | ok valid =>
      cases hfound : registry.resolve? rule.fingerprint with
      | some existing =>
          constructor
          · intro h
            cases h
            exact .inr ⟨rfl, existing, rfl, rfl⟩
          · rintro (⟨_, h, _⟩ | ⟨_, _, h, rfl⟩)
            · cases h
            · cases h
              rfl
      | none =>
          constructor
          · intro h
            cases h
          · rintro (⟨_, h, _⟩ | ⟨_, _, h, _⟩)
            · cases h
            · cases h

section Positions

variable {before after : List Rule} {rule : Rule}

/-- A rule that stands somewhere has as many before it as its position tells. -/
theorem exists_append_of_getElem? {rules : List Rule} {i : Nat} (h : rules[i]? = some rule) :
    ∃ before after, rules = before ++ rule :: after ∧ before.length = i := by
  obtain ⟨hi, rfl⟩ := List.getElem?_eq_some_iff.1 h
  refine ⟨rules.take i, rules.drop (i + 1), ?_, List.length_take_of_le (Nat.le_of_lt hi)⟩
  rw [← List.drop_eq_getElem_cons hi, List.take_append_drop]

/-- A rule behind others is refused exactly if it is not valid or has the fingerprint of one. -/
theorem refused_length_iff :
    Refused (before ++ rule :: after) before.length
      ↔ rule.validate ≠ .ok () ∨ rule.fingerprint ∈ before.map Rule.fingerprint := by
  have hrule : (before ++ rule :: after)[before.length]? = some rule := by simp
  constructor
  · rintro ⟨r, hr, hfault⟩
    obtain rfl := Option.some.inj (hrule.symm.trans hr)
    rcases hfault with hinvalid | ⟨j, hj, earlier, hearlier, hsame⟩
    · exact .inl hinvalid
    · rw [List.getElem?_append_left hj] at hearlier
      exact .inr (List.mem_map.2 ⟨earlier, List.mem_of_getElem? hearlier, hsame⟩)
  · rintro (hinvalid | hmem)
    · exact ⟨rule, hrule, .inl hinvalid⟩
    · obtain ⟨earlier, hmem, hsame⟩ := List.mem_map.1 hmem
      obtain ⟨j, hearlier⟩ := List.mem_iff_getElem?.1 hmem
      have hj := (List.getElem?_eq_some_iff.1 hearlier).1
      have hwhole : (before ++ rule :: after)[j]? = some earlier :=
        (List.getElem?_append_left hj).trans hearlier
      exact ⟨rule, hrule, .inr ⟨j, hj, earlier, hwhole, hsame⟩⟩

/-- **Rules at the head of a list are not refused exactly if all are valid and their fingerprints
differ.** -/
theorem forall_not_refused_iff (before : List Rule) {after : List Rule} :
    (∀ i < before.length, ¬ Refused (before ++ after) i)
      ↔ (∀ r ∈ before, r.validate = .ok ()) ∧ (before.map Rule.fingerprint).Nodup := by
  induction before using List.reverseRecOn generalizing after with
  | nil => simp
  | append_singleton before rule ih =>
      rw [List.length_append, List.length_singleton, Nat.forall_lt_succ_right, List.append_assoc,
        List.singleton_append, ih, refused_length_iff, List.map_append, List.map_singleton,
        List.nodup_append, List.forall_mem_append]
      simp only [List.mem_singleton, forall_eq, ne_eq, not_or, not_not, List.nodup_singleton,
        true_and]
      constructor
      · rintro ⟨⟨hvalid, hnodup⟩, hrule, hnew⟩
        exact ⟨⟨hvalid, hrule⟩, hnodup, fun f hf heq => hnew (heq ▸ hf)⟩
      · rintro ⟨⟨hvalid, hrule⟩, hnodup, hnew⟩
        exact ⟨⟨hvalid, hnodup⟩, hrule, fun hmem => hnew _ hmem rfl⟩

/-- Of rules whose fingerprints differ one stands at a fingerprint's only position. -/
theorem position_unique {rules : List Rule} (hnodup : (rules.map Rule.fingerprint).Nodup)
    {i j : Nat} {r s : Rule} (hr : rules[i]? = some r) (hs : rules[j]? = some s)
    (hsame : r.fingerprint = s.fingerprint) : i = j := by
  have hi := (List.getElem?_eq_some_iff.1 hr).1
  refine (List.getElem?_inj (by rwa [List.length_map]) hnodup).1 ?_
  rw [List.getElem?_map, List.getElem?_map, hr, hs, Option.map_some, Option.map_some, hsame]

end Positions

variable {rules : List Rule} {registry : Registry}

/-- In a registry that was built a fingerprint leads to the rule that has it. -/
theorem resolve?_eq_some_iff_of_build (hbuild : build rules = .ok registry) {fingerprint : String}
    {r : RegisteredRule} : registry.resolve? fingerprint = some r
      ↔ ∃ rule ∈ rules, rule.fingerprint = fingerprint ∧ r = .ofRule rule := by
  obtain ⟨_, _, hrules⟩ := build_eq_ok_iff.1 hbuild
  rw [(sound_of_build hbuild).resolve?_iff, hrules, List.mem_map]
  constructor
  · rintro ⟨⟨rule, hrule, rfl⟩, hfingerprint⟩
    exact ⟨rule, hrule, hfingerprint, rfl⟩
  · rintro ⟨rule, hrule, hfingerprint, rfl⟩
    exact ⟨⟨rule, hrule, rfl⟩, hfingerprint⟩

/-- **Which error is reported**: that of the first rule that is refused.  If it is not valid, the
error says so; if it is, exactly one earlier rule has its fingerprint, and the error names both. -/
theorem build_eq_error_iff {e : RuleError} :
    build rules = .error e
      ↔ ∃ i rule, rules[i]? = some rule ∧ (∀ j < i, ¬ Refused rules j)
        ∧ ((∃ cause, rule.validate = .error cause ∧ e = .invalidRule rule.displayName cause)
          ∨ (rule.validate = .ok ()
            ∧ ∃ j < i, ∃ earlier, rules[j]? = some earlier
              ∧ earlier.fingerprint = rule.fingerprint
              ∧ (∀ k < i, ∀ other, rules[k]? = some other →
                other.fingerprint = rule.fingerprint → k = j)
              ∧ e = .duplicateFingerprint rule.fingerprint earlier.displayName
                rule.displayName)) := by
  rw [build, foldlM_eq_error_iff]
  constructor
  · rintro ⟨before, rule, after, mid, rfl, hbefore, hlast⟩
    obtain ⟨hvalid, hnodup, _⟩ := build_eq_ok_iff.1 hbefore
    refine ⟨before.length, rule, by simp, (forall_not_refused_iff before).2 ⟨hvalid, hnodup⟩, ?_⟩
    rcases (register_eq_error_iff mid rule e).1 hlast with hinvalid | ⟨hrule, existing, hfound, rfl⟩
    · exact .inl hinvalid
    · obtain ⟨earlier, hmem, hsame, rfl⟩ := (resolve?_eq_some_iff_of_build hbefore).1 hfound
      obtain ⟨j, hearlier⟩ := List.mem_iff_getElem?.1 hmem
      have hj := (List.getElem?_eq_some_iff.1 hearlier).1
      refine .inr ⟨hrule, j, hj, earlier, ?_, hsame, fun k hk other hother hfp => ?_, rfl⟩
      · rwa [List.getElem?_append_left hj]
      · rw [List.getElem?_append_left hk] at hother
        exact position_unique hnodup hother hearlier (hfp.trans hsame.symm)
  · rintro ⟨i, rule, hrule, hfirst, hcause⟩
    obtain ⟨before, after, rfl, rfl⟩ := exists_append_of_getElem? hrule
    obtain ⟨hvalid, hnodup⟩ := (forall_not_refused_iff before).1 hfirst
    have hbefore : build before = .ok ⟨before.map .ofRule⟩ :=
      build_eq_ok_iff.2 ⟨hvalid, hnodup, rfl⟩
    refine ⟨before, rule, after, _, rfl, hbefore, (register_eq_error_iff _ rule e).2 ?_⟩
    rcases hcause with hinvalid | ⟨hrule, j, hj, earlier, hearlier, hsame, _, rfl⟩
    · exact .inl hinvalid
    · rw [List.getElem?_append_left hj] at hearlier
      exact .inr ⟨hrule, .ofRule earlier, (resolve?_eq_some_iff_of_build hbefore).2
        ⟨earlier, List.mem_of_getElem? hearlier, hsame, rfl⟩, rfl⟩

/-- **What becomes of a list of rules.**  They are registered exactly if all are valid and no two
have one fingerprint.  The registry then lists them in their order, each under its own fingerprint;
a fingerprint leads to the rule at a position exactly if it is that rule's, and any other text to
none; and with an index of positions beside the rules the same are found.  If they are not
registered, the error is that of the first rule that is refused: that it is not valid, and why, even
if it has the fingerprint of an earlier one as well; or that it has, with the names of the one
earlier rule and its own. -/
theorem built_or_refused (rules : List Rule) :
    ((∃ registry, build rules = .ok registry)
        ↔ (∀ rule ∈ rules, rule.validate = .ok ()) ∧ (rules.map Rule.fingerprint).Nodup)
      ∧ (∀ registry, build rules = .ok registry →
        registry.rules = rules.map .ofRule
          ∧ (∀ (i : Nat) rule, rules[i]? = some rule → ∀ fingerprint,
            registry.resolve? fingerprint = some (.ofRule rule) ↔ fingerprint = rule.fingerprint)
          ∧ (∀ fingerprint, registry.resolve? fingerprint = none
            ↔ ∀ rule ∈ rules, fingerprint ≠ rule.fingerprint)
          ∧ ∃ indexed, IndexedRegistry.build rules = .ok indexed ∧ indexed.toRegistry = registry
            ∧ ∀ fingerprint, indexed.resolve? fingerprint = registry.resolve? fingerprint)
      ∧ ∀ e, build rules = .error e
        ↔ ∃ i rule, rules[i]? = some rule ∧ (∀ j < i, ¬ Refused rules j)
          ∧ ((∃ cause, rule.validate = .error cause ∧ e = .invalidRule rule.displayName cause)
            ∨ (rule.validate = .ok ()
              ∧ ∃ j < i, ∃ earlier, rules[j]? = some earlier
                ∧ earlier.fingerprint = rule.fingerprint
                ∧ (∀ k < i, ∀ other, rules[k]? = some other →
                  other.fingerprint = rule.fingerprint → k = j)
                ∧ e = .duplicateFingerprint rule.fingerprint earlier.displayName
                  rule.displayName)) := by
  refine ⟨?_, fun registry hbuild => ⟨?_, ?_, ?_, ?_⟩, fun e => build_eq_error_iff⟩
  · constructor
    · rintro ⟨registry, hbuild⟩
      obtain ⟨hvalid, hnodup, _⟩ := build_eq_ok_iff.1 hbuild
      exact ⟨hvalid, hnodup⟩
    · rintro ⟨hvalid, hnodup⟩
      exact ⟨_, build_eq_ok_iff.2 ⟨hvalid, hnodup, rfl⟩⟩
  · rw [(build_eq_ok_iff.1 hbuild).2.2]
  · intro i rule hrule fingerprint
    rw [resolve?_eq_some_iff_of_build hbuild]
    constructor
    · rintro ⟨other, _, rfl, hsame⟩
      exact (congrArg RegisteredRule.fingerprint hsame).symm
    · rintro rfl
      exact ⟨rule, List.mem_of_getElem? hrule, rfl, rfl⟩
  · intro fingerprint
    rw [Option.eq_none_iff_forall_ne_some]
    constructor
    · rintro h rule hrule rfl
      exact h _ ((resolve?_eq_some_iff_of_build hbuild).2 ⟨rule, hrule, rfl, rfl⟩)
    · rintro h r hr
      obtain ⟨rule, hrule, rfl, _⟩ := (resolve?_eq_some_iff_of_build hbuild).1 hr
      exact h rule hrule rfl
  · have hmap := IndexedRegistry.map_toRegistry_build rules
    rw [hbuild] at hmap
    cases hindexed : IndexedRegistry.build rules with
    | error e =>
        rw [hindexed] at hmap
        cases hmap
    | ok indexed =>
        rw [hindexed] at hmap
        cases hmap
        exact ⟨indexed, rfl, rfl, (IndexedRegistry.indexed_of_build hindexed).resolve?_eq⟩

/-- Two rules with labels of their own are registered.  A third with the labels of the first is
refused for the first; one of a name that cannot be is refused for that, though it has these labels
too. -/
theorem built_or_refused_of_labels :
    (∃ registry, build [{ (default : Rule) with name := "a", labels := .ofList [("tier", "web")] },
        { (default : Rule) with name := "b", labels := .ofList [("tier", "db")] }] = .ok registry)
      ∧ build [{ (default : Rule) with name := "a", labels := .ofList [("tier", "web")] },
          { (default : Rule) with name := "b", labels := .ofList [("tier", "db")] },
          { (default : Rule) with name := "c", labels := .ofList [("tier", "web")] }]
        = .error (.duplicateFingerprint "c09d159ee4164b09" "a" "c")
      ∧ build [{ (default : Rule) with name := "a", labels := .ofList [("tier", "web")] },
          { (default : Rule) with name := "-", labels := .ofList [("tier", "web")] }]
        = .error (.invalidRule "-" (.invalidName "-")) := by
  refine ⟨(built_or_refused _).1.2 ⟨by decide +kernel, by decide +kernel⟩,
    ((built_or_refused _).2.2 _).2 ⟨2, _, rfl, ?_, .inr ⟨by decide +kernel, 0, by decide, _, rfl,
      by decide +kernel, ?_, by decide +kernel⟩⟩,
    ((built_or_refused _).2.2 _).2 ⟨1, _, rfl, ?_, .inl ⟨.invalidName "-",
      by decide +kernel, by decide +kernel⟩⟩⟩
  · exact (forall_not_refused_iff [_, _]).2 ⟨by decide +kernel, by decide +kernel⟩
  · intro k hk other hother hsame
    match k, hk with
    | 0, _ => rfl
    | 1, _ =>
        obtain rfl := Option.some.inj hother
        exact absurd hsame (by decide +kernel)
  · exact (forall_not_refused_iff [_]).2 ⟨by decide +kernel, by decide +kernel⟩

end Sidecar.Registry
