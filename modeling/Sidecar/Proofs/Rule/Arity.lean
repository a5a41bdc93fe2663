/-
**The requirements of valid rules.**

Requirements stand in the two label selectors of a rule and in each term of its affinity.
Validation converts them all, so every one of them has an operator of its kind of selector, and as
many values as its operator takes if that is a test of membership or of existence.  The two
operators that compare numbers take one value, but how many they have is looked at nowhere.

Main definitions:

* `Sidecar.Rule.Requirement.HasArity` — a requirement has as many values as its operator takes;
* `Sidecar.Rule.SelectorKind.Accepts` — what is checked of a requirement;
* `Sidecar.Rule.placedRequirements`, `Sidecar.Rule.withoutRequirements` — the requirements of a
  rule, and the rest of it.

Main results:

* `Sidecar.Rule.LabelSelector.exists_toCluster_iff`, `Sidecar.Rule.Affinity.exists_toCluster_iff` —
  a selector and an affinity convert exactly if all their requirements are accepted;
* `Sidecar.Rule.validate_eq_ok_iff_requirements` — **a rule is valid exactly if its requirements are
  accepted and the rest is valid**;
* `Sidecar.Rule.arity_of_requirements` — **what is true of the values of every requirement**;
* `Sidecar.Rule.valid_of_two_bounds` — a valid rule with two values to compare with.
-/

import Sidecar.Proofs.Rule.Conversion

set_option autoImplicit false

namespace Sidecar.Rule

/-! ### Arities -/

/-- The operators that test whether a value is one of some. -/
def memberships : List String := ["In", "NotIn"]

/-- The operators that test whether there is a value. -/
def existences : List String := ["Exists", "DoesNotExist"]

/-- The operators that compare numbers. -/
def comparisons : List String := ["Gt", "Lt"]

/-- The requirement has as many values as its operator takes. -/
structure Requirement.HasArity (q : Requirement) : Prop where
  membership : q.operator ∈ memberships → 1 ≤ q.values.length
  existence : q.operator ∈ existences → q.values.length = 0
  comparison : q.operator ∈ comparisons → q.values.length = 1

/-- The operator is one of the selector's, and has values if it tests membership and none if it
tests existence. -/
structure SelectorKind.Accepts (kind : SelectorKind) (q : Requirement) : Prop where
  operator : q.operator ∈ kind.operators
  membership : q.operator ∈ memberships → 1 ≤ q.values.length
  existence : q.operator ∈ existences → q.values.length = 0

/-- An accepted requirement can only fail to have its arity if it compares. -/
theorem SelectorKind.Accepts.hasArity_iff {kind : SelectorKind} {q : Requirement}
    (h : kind.Accepts q) : q.HasArity ↔ (q.operator ∈ comparisons → q.values.length = 1) :=
  ⟨fun hq => hq.comparison, fun hcompares => ⟨h.membership, h.existence, hcompares⟩⟩

/-! ### What converts -/

theorem Requirement.fitsArity_iff {q : Requirement} :
    q.fitsArity = true ↔ (q.operator ∈ memberships → 1 ≤ q.values.length)
      ∧ (q.operator ∈ existences → q.values.length = 0) := by
  have hapart : ∀ operator ∈ memberships, operator ∉ existences := by decide
  unfold fitsArity
  change (if q.operator ∈ memberships then _ else if q.operator ∈ existences then _ else _) = _ ↔ _
  by_cases hmembership : q.operator ∈ memberships
  · have hexistence := hapart _ hmembership
    rw [if_pos hmembership]
    simp only [hmembership, hexistence, forall_const, false_implies, and_true, Bool.not_eq_true',
      List.isEmpty_eq_false_iff, Nat.one_le_iff_ne_zero, ne_eq, List.length_eq_zero_iff]
  · rw [if_neg hmembership]
    by_cases hexistence : q.operator ∈ existences
    · rw [if_pos hexistence]
      simp only [hmembership, hexistence, forall_const, false_implies, true_and,
        List.isEmpty_iff, List.length_eq_zero_iff]
    · rw [if_neg hexistence]
      simp only [hmembership, hexistence, false_implies, and_true]

/-- A requirement converts exactly if it is accepted. -/
theorem Requirement.exists_toCluster_iff {kind : SelectorKind} {q : Requirement} :
    (∃ c, toCluster kind q = .ok c) ↔ kind.Accepts q := by
  simp only [toCluster_eq_ok_iff, fitsArity_iff]
  constructor
  · rintro ⟨_, hoperator, ⟨hmembership, hexistence⟩, _⟩
    exact ⟨hoperator, hmembership, hexistence⟩
  · intro h
    exact ⟨_, h.operator, ⟨h.membership, h.existence⟩, rfl⟩

/-- A label selector converts exactly if its requirements are accepted. -/
theorem LabelSelector.exists_toCluster_iff {s : LabelSelector} :
    (∃ c, s.toCluster = .ok c) ↔ ∀ q ∈ s.matchExpressions, SelectorKind.label.Accepts q := by
  unfold toCluster
  rw [exists_bind_pure_eq_ok_iff, exists_mapM_eq_ok_iff]
  simp only [Requirement.exists_toCluster_iff]

/-- The requirements of a term. -/
def NodeSelectorTerm.requirements (t : NodeSelectorTerm) : List Requirement :=
  t.matchExpressions ++ t.matchFields

/-- A term converts exactly if its requirements are accepted. -/
theorem NodeSelectorTerm.exists_toCluster_iff {t : NodeSelectorTerm} :
    (∃ c, t.toCluster = .ok c) ↔ ∀ q ∈ t.requirements, SelectorKind.node.Accepts q := by
  simp only [requirements, List.forall_mem_append, ← Requirement.exists_toCluster_iff,
    ← exists_mapM_eq_ok_iff, toCluster, bind_eq_ok_iff, pure_eq_ok_iff]
  constructor
  · rintro ⟨_, expressions, hexpressions, fields, hfields, _⟩
    exact ⟨⟨expressions, hexpressions⟩, fields, hfields⟩
  · rintro ⟨⟨expressions, hexpressions⟩, fields, hfields⟩
    exact ⟨_, expressions, hexpressions, fields, hfields, rfl⟩

theorem NodeSelector.exists_toCluster_iff {s : NodeSelector} :
    (∃ c, s.toCluster = .ok c) ↔ ∀ t ∈ s.nodeSelectorTerms, ∃ c, t.toCluster = .ok c := by
  unfold toCluster
  rw [exists_bind_pure_eq_ok_iff, exists_mapM_eq_ok_iff]

theorem NodeAffinity.exists_toCluster_iff {a : NodeAffinity} :
    (∃ c, a.toCluster = .ok c) ↔ ∀ s ∈ a.required, ∃ c, s.toCluster = .ok c := by
  unfold toCluster
  rw [exists_bind_pure_eq_ok_iff, exists_mapM_option_eq_ok_iff]

/-- An affinity converts exactly if the requirements of its terms are accepted. -/
theorem Affinity.exists_toCluster_iff {a : Affinity} :
    (∃ c, a.toCluster = .ok c)
      ↔ ∀ t ∈ a.terms, ∀ q ∈ t.requirements, SelectorKind.node.Accepts q := by
  unfold toCluster
  rw [exists_bind_pure_eq_ok_iff, exists_mapM_option_eq_ok_iff]
  simp only [NodeAffinity.exists_toCluster_iff, NodeSelector.exists_toCluster_iff,
    NodeSelectorTerm.exists_toCluster_iff, terms]
  cases hnode : a.nodeAffinity with
  | none => simp
  | some nodes =>
      cases hselector : nodes.required with
      | none => simp [hselector]
      | some selector => simp [hselector]

/-! ### Rules -/

/-- The requirements of a rule, each with the kind of selector that it stands in. -/
def placedRequirements (r : Rule) : List (SelectorKind × Requirement) :=
  ((r.labelSelector.toList ++ r.namespaceSelector.toList).flatMap
      fun s => s.matchExpressions.map (.label, ·))
    ++ (r.affinity.toList.flatMap Affinity.terms).flatMap fun t => t.requirements.map (.node, ·)

/-- The rule without the parts that have requirements. -/
def withoutRequirements (r : Rule) : Rule :=
  { r with labelSelector := none, namespaceSelector := none, affinity := none }

/-- All requirements of a rule are accepted exactly if those of each part are. -/
theorem forall_requirements_iff {r : Rule} :
    (∀ p ∈ r.placedRequirements, p.1.Accepts p.2)
      ↔ (∀ s ∈ r.labelSelector, ∃ c, s.toCluster = .ok c)
        ∧ (∀ s ∈ r.namespaceSelector, ∃ c, s.toCluster = .ok c)
        ∧ ∀ a ∈ r.affinity, ∃ c, a.toCluster = .ok c := by
  simp only [LabelSelector.exists_toCluster_iff, Affinity.exists_toCluster_iff,
    placedRequirements, List.mem_append, List.mem_flatMap, List.mem_map, Option.mem_toList,
    Option.mem_def]
  constructor
  · intro h
    refine ⟨?_, ?_, ?_⟩
    · intro s hs q hq
      exact h (.label, q) (.inl ⟨s, .inl hs, q, hq, rfl⟩)
    · intro s hs q hq
      exact h (.label, q) (.inl ⟨s, .inr hs, q, hq, rfl⟩)
    · intro a ha t ht q hq
      exact h (.node, q) (.inr ⟨t, ⟨a, ha, ht⟩, q, hq, rfl⟩)
  · rintro ⟨hobjects, hnamespaces, haffinity⟩
    rintro _ (⟨s, hs | hs, q, hq, rfl⟩ | ⟨t, ⟨a, ha, ht⟩, q, hq, rfl⟩)
    · exact hobjects s hs q hq
    · exact hnamespaces s hs q hq
    · exact haffinity a ha t ht q hq

/-- **A rule is valid exactly if its requirements are accepted and the rest of it is valid.** -/
theorem validate_eq_ok_iff_requirements {r : Rule} :
    r.validate = .ok ()
      ↔ r.withoutRequirements.validate = .ok () ∧ ∀ p ∈ r.placedRequirements, p.1.Accepts p.2 := by
  rw [forall_requirements_iff]
  simp only [validate_eq_ok_iff, exists_contribution_iff, ← exists_mapM_option_eq_ok_iff]
  constructor
  · rintro ⟨hname, hobjects, hnamespaces, affinity, haffinity, hparts⟩
    exact ⟨⟨hname, ⟨none, rfl⟩, ⟨none, rfl⟩, none, rfl, hparts⟩, hobjects, hnamespaces, affinity,
      haffinity⟩
  · rintro ⟨⟨hname, _, _, _, _, hparts⟩, hobjects, hnamespaces, affinity, haffinity⟩
    exact ⟨hname, hobjects, hnamespaces, affinity, haffinity, hparts⟩

/-- **What is true of the values of every requirement.**  A rule is valid exactly if the rest of it
is valid and each requirement has an operator of its kind of selector, at least one value if that
tests membership and none if that tests existence.  So each requirement of a valid rule has an
operator that its kind allows, and has its arity exactly if it does not compare numbers or has one
value. -/
theorem arity_of_requirements (r : Rule) :
    (r.validate = .ok ()
        ↔ r.withoutRequirements.validate = .ok () ∧ ∀ p ∈ r.placedRequirements, p.1.Accepts p.2)
      ∧ (r.validate = .ok () → ∀ p ∈ r.placedRequirements, p.2.operator ∈ p.1.operators
        ∧ (p.2.HasArity ↔ (p.2.operator ∈ comparisons → p.2.values.length = 1))) := by
  refine ⟨validate_eq_ok_iff_requirements, ?_⟩
  intro hvalid p hp
  have haccepted := (validate_eq_ok_iff_requirements.1 hvalid).2 p hp
  exact ⟨haccepted.operator, haccepted.hasArity_iff⟩

/-- A rule with a requirement of each kind, all of which have their arity. -/
theorem arity_of_requirements_of_four :
    ∃ r : Rule, r.validate = .ok () ∧ r.placedRequirements.length = 4
      ∧ ∀ p ∈ r.placedRequirements, p.2.HasArity := by
  let r : Rule := { (default : Rule) with
    labelSelector := some ⟨.empty, [⟨"tier", "In", ["front", "back"]⟩]⟩
    namespaceSelector := some ⟨.empty, [⟨"team", "DoesNotExist", []⟩]⟩
    affinity := some ⟨some ⟨some ⟨[⟨[⟨"cores", "Gt", ["2"]⟩],
      [⟨"metadata.name", "NotIn", ["a"]⟩]⟩]⟩⟩⟩ }
  have hvalid : r.validate = .ok () := by
    decide +kernel
  have hcompares : ∀ p ∈ r.placedRequirements,
      p.2.operator ∈ comparisons → p.2.values.length = 1 := by
    decide
  exact ⟨r, hvalid, rfl, fun p hp =>
    ((arity_of_requirements r).2 hvalid p hp).2.2 (hcompares p hp)⟩

/-- A rule that demands more cores than two values, and a name below none, is valid. -/
theorem valid_of_two_bounds :
    ∃ r : Rule, r.validate = .ok ()
      ∧ r.placedRequirements
        = [(.node, ⟨"cores", "Gt", ["2", "4"]⟩), (.node, ⟨"metadata.name", "Lt", []⟩)]
      ∧ ∀ p ∈ r.placedRequirements, ¬ p.2.HasArity := by
  let r : Rule := { (default : Rule) with
    affinity := some ⟨some ⟨some ⟨[⟨[⟨"cores", "Gt", ["2", "4"]⟩],
      [⟨"metadata.name", "Lt", []⟩]⟩]⟩⟩⟩ }
  have hvalid : r.validate = .ok () := by
    decide +kernel
  have hcompares : ∀ p ∈ r.placedRequirements,
      p.2.operator ∈ comparisons ∧ p.2.values.length ≠ 1 := by
    decide
  exact ⟨r, hvalid, rfl, fun p hp h => (hcompares p hp).2 (h.comparison (hcompares p hp).1)⟩

end Sidecar.Rule
