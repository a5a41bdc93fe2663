/-
**The registry of rules.**

Rules are registered in the order of the configuration, each under its fingerprint.  A rule that is
not valid, or whose content is that of an earlier one, is refused.

Main definitions:

* `Sidecar.RegisteredRule` — a rule with its fingerprint;
* `Sidecar.Registry` — the rules in order;
* `Sidecar.Registry.build` — the registry of a list of rules, or the first thing wrong with it;
* `Sidecar.Registry.resolve?` — the rule under a fingerprint.

Main result: `Sidecar.Registry.build_append` — registering goes rule by rule.
-/

import Sidecar.Rule.Basic

set_option autoImplicit false

namespace Sidecar

/-- A rule with its fingerprint. -/
structure RegisteredRule where
  fingerprint : String
  rule : Rule
deriving DecidableEq, Inhabited

namespace RegisteredRule

/-- The rule with the fingerprint of its content. -/
def ofRule (rule : Rule) : RegisteredRule :=
  ⟨rule.fingerprint, rule⟩

/-- The name under which the rule is reported. -/
def displayName (r : RegisteredRule) : String :=
  if r.rule.name.isEmpty then r.fingerprint else r.rule.name

@[simp] theorem displayName_ofRule (rule : Rule) : (ofRule rule).displayName = rule.displayName :=
  rfl

end RegisteredRule

/-- Registered rules in the order of the configuration. -/
structure Registry where
  rules : List RegisteredRule
deriving DecidableEq, Inhabited

namespace Registry

/-- The registry without rules. -/
def empty : Registry := ⟨[]⟩

/-- The rule under a fingerprint. -/
def resolve? (registry : Registry) (fingerprint : String) : Option RegisteredRule :=
  registry.rules.find? (·.fingerprint == fingerprint)

/-- The registry with one rule more, unless that is not valid or there is one of the same
content. -/
def register (registry : Registry) (rule : Rule) : Except RuleError Registry := do
  let registered := RegisteredRule.ofRule rule
  rule.validate.mapError (.invalidRule registered.displayName)
  match registry.resolve? registered.fingerprint with
  | some existing =>
    throw (.duplicateFingerprint registered.fingerprint existing.displayName
      registered.displayName)
  | none => pure ⟨registry.rules ++ [registered]⟩

/-- The registry of a list of rules. -/
def build (rules : List Rule) : Except RuleError Registry :=
  rules.foldlM register empty

@[simp] theorem build_nil : build [] = .ok empty := rfl

/-- The registry of two lists is that of the first with the rules of the second registered. -/
theorem build_append (rules more : List Rule) :
    build (rules ++ more) = build rules >>= fun registry => more.foldlM register registry := by
  simp [build, List.foldlM_append]

end Registry

end Sidecar
