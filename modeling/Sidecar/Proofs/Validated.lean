/-
**What validation rules out.**

Rules are validated once, when the registry is built; what they are converted to is thrown away.
Later each part is converted again, those of a rule's content when a pod is admitted and the
selectors when the webhooks are registered.  None of these later conversions can fail, and no
pointer that the engine builds is refused, whatever the keys of labels and annotations are; so once
a registry is built the only error left is that a pod has no specification.

Main results:

* `Sidecar.Engine.mutate_eq_error_iff`, `Sidecar.Engine.mutateWith_eq_error_iff` — **when the engine
  has no answer**, without and with a reader of pointers;
* `Sidecar.Registration.exists_desired` — the webhooks can be described;
* `Sidecar.Registration.reconcile_action_ne_selector` — no selector keeps them from being
  registered;
* `Sidecar.Registry.no_failure_of_build` — **all that cannot fail once a registry is built.**
-/

import Sidecar.Proofs.Injection.Pointers
import Sidecar.Proofs.Injection.Presence
import Sidecar.Registration

set_option autoImplicit false

namespace Sidecar

open Cluster Json Rule

namespace Engine

/-- **For a registered rule the engine has no answer exactly if the pod has no specification**, and
it says so. -/
theorem mutate_eq_error_iff {registry : Registry} (keyPrefix : String) (hs : registry.Sound)
    {r : RegisteredRule} (hr : r ∈ registry.rules) (pod : Pod) (now : Timestamp)
    (error : InjectionError) :
    mutate ⟨registry, keyPrefix⟩ r.fingerprint pod now = .error error
      ↔ pod.spec = none ∧ error = .missingSpec := by
  cases hspec : pod.spec with
  | none =>
      simp only [mutate, (hs.resolve?_iff r.fingerprint r).2 ⟨hr, rfl⟩, hspec, Except.error.injEq,
        true_and]
      exact eq_comm
  | some spec =>
      obtain ⟨_, _, _, c, hcontent⟩ := validate_eq_ok_iff.1 (hs.valid r hr)
      -- whatever the pod has of the contribution, there is an answer
      have hanswer : ∃ outcome, mutate ⟨registry, keyPrefix⟩ r.fingerprint pod now = .ok outcome := by
        rcases Classical.em (c.Present pod spec) with hpresent | hlacking
        · exact ⟨_, mutate_of_present keyPrefix now hs hr hcontent hspec hpresent⟩
        · exact ⟨_, mutate_of_lacking keyPrefix now hs hr hcontent hspec hlacking⟩
      obtain ⟨outcome, hanswer⟩ := hanswer
      rw [hanswer]
      simp

/-- If a reader accepts all that is well formed, no pointer is refused, and a pod without a
specification is the only error. -/
theorem mutateWith_eq_error_iff {registry : Registry} (keyPrefix : String) (hs : registry.Sound)
    {reader : Pointer.Reader} (hreader : ∀ text, Pointer.WellFormed text → reader text = none)
    {r : RegisteredRule} (hr : r ∈ registry.rules) (pod : Pod) (now : Timestamp)
    (error : MutationError) :
    mutateWith ⟨registry, keyPrefix⟩ reader r.fingerprint pod now = .error error
      ↔ pod.spec = none ∧ error = .injection .missingSpec := by
  rw [mutateWith_eq hreader, mapError_eq_error_iff]
  constructor
  · rintro ⟨cause, hcause, rfl⟩
    obtain ⟨hspec, rfl⟩ := (mutate_eq_error_iff keyPrefix hs hr pod now cause).1 hcause
    exact ⟨hspec, rfl⟩
  · rintro ⟨hspec, rfl⟩
    exact ⟨_, (mutate_eq_error_iff keyPrefix hs hr pod now _).2 ⟨hspec, rfl⟩, rfl⟩

end Engine

namespace Registration

/-- The webhook of a valid rule can be described. -/
theorem exists_webhook (registration : Registration) {r : RegisteredRule}
    (hvalid : r.rule.validate = .ok ()) : ∃ webhook, registration.webhook r = .ok webhook := by
  obtain ⟨_, ⟨objects, hobjects⟩, ⟨namespaces, hnamespaces⟩, _⟩ := validate_eq_ok_iff.1 hvalid
  simp only [webhook, bind_eq_ok_iff, mapError_eq_ok_iff, pure_eq_ok_iff]
  exact ⟨_, objects, hobjects, namespaces, hnamespaces, rfl⟩

/-- **The configuration can be described** for every registry of valid rules. -/
theorem exists_desired (registration : Registration) (hs : registration.registry.Sound) :
    ∃ configuration, registration.desired = .ok configuration := by
  obtain ⟨webhooks, hwebhooks⟩ := exists_mapM_eq_ok_iff.2 fun r hr =>
    registration.exists_webhook (hs.valid r hr)
  exact ⟨_, bind_eq_ok_iff.2 ⟨webhooks, hwebhooks, rfl⟩⟩

/-- **Registration does not fail for a selector**, whatever the calls of the store do. -/
theorem reconcile_action_ne_selector (registration : Registration)
    (hs : registration.registry.Sound) (fault : StoreCall → Option String) (store : Store)
    (rule : String) (cause : RuleError) :
    (registration.reconcile fault store).action ≠ .error (.selector rule cause) := by
  obtain ⟨configuration, hdesired⟩ := registration.exists_desired hs
  unfold reconcile reconcileIn
  simp only [hdesired]
  split
  · simp
  · split <;> simp

end Registration

namespace Registry

/-- **What cannot fail once a registry is built.**  Let a reader accept all texts that are pointers:
those that are empty or start with a slash, and have each tilde followed by a zero or a one.  For
each registered rule, at every time, the engine whose pointers are read answers as the one without a
reader does; for a pod without a specification it says that there is none, and it has no other
error, neither for a conversion nor for a pointer.  And whatever the settings are, the webhooks of
the rules can be described, and no selector keeps them from being registered. -/
theorem no_failure_of_build {rules : List Rule} {registry : Registry}
    (hbuild : build rules = .ok registry) {reader : Pointer.Reader}
    (hreader : ∀ text, Pointer.WellFormed text → reader text = none) :
    (∀ r ∈ registry.rules, ∀ keyPrefix pod now,
        Engine.mutateWith ⟨registry, keyPrefix⟩ reader r.fingerprint pod now
            = (Engine.mutate ⟨registry, keyPrefix⟩ r.fingerprint pod now).mapError .injection
          ∧ ∀ error, Engine.mutateWith ⟨registry, keyPrefix⟩ reader r.fingerprint pod now
              = .error error
            ↔ pod.spec = none ∧ error = .injection .missingSpec)
      ∧ ∀ service server caBundle,
        (∃ configuration,
            (Registration.mk registry service server caBundle).desired = .ok configuration)
          ∧ ∀ fault store rule cause,
            ((Registration.mk registry service server caBundle).reconcile fault store).action
              ≠ .error (.selector rule cause) := by
  have hs := sound_of_build hbuild
  refine ⟨?_, ?_⟩
  · intro r hr keyPrefix pod now
    exact ⟨Engine.mutateWith_eq hreader _ _ _ _,
      Engine.mutateWith_eq_error_iff keyPrefix hs hreader hr pod now⟩
  · intro service server caBundle
    exact ⟨Registration.exists_desired _ hs, Registration.reconcile_action_ne_selector _ hs⟩

/-- A rule with selectors, a container with a port and a label whose name has a slash and a tilde,
and the strictest reader: a pod without a specification is an error, and one with labels is not. -/
theorem no_failure_of_build_of_one :
    ∃ registry : Registry,
      build [{ (default : Rule) with
          name := "a"
          labelSelector := some ⟨.ofList [("app", "web")], [⟨"tier", "In", ["front"]⟩]⟩
          namespaceSelector := some ⟨.empty, [⟨"team", "Exists", []⟩]⟩
          labels := .ofList [("a/b~c", "d")]
          containers := [{ (default : Rule.Container) with
            name := "side", ports := [{ (default : Rule.ContainerPort) with
              name := "http", containerPort := 8080 }] }] }] = .ok registry
        ∧ (∀ now error,
          Engine.mutateWith ⟨registry, "example.org"⟩ .strict "47ad5c9f467f8829"
            ⟨none, none, none⟩ now = .error error ↔ error = .injection .missingSpec)
        ∧ (∀ now error,
          Engine.mutateWith ⟨registry, "example.org"⟩ .strict "47ad5c9f467f8829"
            ⟨some (.ofList [("e~", "f")]), none, some ⟨[], [], [⟨"app", []⟩], .absent, []⟩⟩ now
              ≠ .error error)
        ∧ ∃ configuration,
          (Registration.mk registry {} {} "certificate").desired = .ok configuration := by
  obtain ⟨registry, hbuild, r, hr, hfingerprint⟩ : ∃ registry : Registry,
      build [{ (default : Rule) with
          name := "a"
          labelSelector := some ⟨.ofList [("app", "web")], [⟨"tier", "In", ["front"]⟩]⟩
          namespaceSelector := some ⟨.empty, [⟨"team", "Exists", []⟩]⟩
          labels := .ofList [("a/b~c", "d")]
          containers := [{ (default : Rule.Container) with
            name := "side", ports := [{ (default : Rule.ContainerPort) with
              name := "http", containerPort := 8080 }] }] }] = .ok registry
        ∧ ∃ r ∈ registry.rules, r.fingerprint = "47ad5c9f467f8829" :=
    ⟨⟨[.ofRule { (default : Rule) with
        name := "a"
        labelSelector := some ⟨.ofList [("app", "web")], [⟨"tier", "In", ["front"]⟩]⟩
        namespaceSelector := some ⟨.empty, [⟨"team", "Exists", []⟩]⟩
        labels := .ofList [("a/b~c", "d")]
        containers := [{ (default : Rule.Container) with
          name := "side", ports := [{ (default : Rule.ContainerPort) with
            name := "http", containerPort := 8080 }] }] }]⟩,
      by decide +kernel, _, List.mem_singleton.2 rfl, by decide +kernel⟩
  obtain ⟨hmutate, hregistration⟩ := no_failure_of_build hbuild
    (fun text => Pointer.Reader.strict_eq_none_iff.2)
  rw [← hfingerprint]
  refine ⟨registry, hbuild, fun now error => ?_, fun now error herror => ?_,
    (hregistration _ _ _).1⟩
  · rw [(hmutate r hr _ _ _).2]
    simp
  · cases (((hmutate r hr _ _ _).2 error).1 herror).1

end Registry

end Sidecar
