/-
**A pod that is admitted again and again.**

Whoever admits a pod many times under one fingerprint, each patch being applied before the next
admission, sees at most two patches.  The first brings what the pod lacks; the second, if any, the
mounts for the containers that the first has added; then all is there.  From the first answer on
that is no patch nothing changes any more, neither the answer nor the pod.

Main definitions:

* `Sidecar.Outcome.run?` — what an answer makes of a document;
* `Sidecar.Engine.Admits` — one admission;
* `Sidecar.Engine.Admissible` — documents of pods that can be patched;
* `Sidecar.Engine.Admissions` — **an endless sequence of admissions under one fingerprint.**

Main results:

* `Sidecar.Engine.Admits.cases` — what one admission can be;
* `Sidecar.Engine.exists_admissions` — pods can be admitted endlessly;
* `Sidecar.Engine.Admissions.isCanonical` — every document of a sequence is canonical;
* `Sidecar.Engine.Admissions.eq_of_le` — **after an answer that is no patch nothing changes**;
* `Sidecar.Engine.Admissions.presentIn_of_patched_twice` — after two patches all is there;
* `Sidecar.Engine.admissions_settle` — **how a sequence of admissions ends.**
-/

import Sidecar.Proofs.Injection.Readmission

set_option autoImplicit false

namespace Sidecar

open Cluster Injection Json

/-! ### One admission -/

namespace Outcome

/-- What an answer makes of a document: a patch is applied, and any other answer leaves it. -/
def run? : Outcome → Json → Option Json
  | .patched _ patch, document => patch.run? document
  | _, document => some document

/-- Whether the answer is a patch. -/
def isPatched : Outcome → Bool
  | .patched _ _ => true
  | _ => false

end Outcome

/-- The pod that a document describes has all that the contribution brings. -/
def Contribution.PresentIn (c : Contribution) (document : Json) : Prop :=
  ∃ pod spec, Pod.ofJson? document = some pod ∧ pod.spec = some spec ∧ c.Present pod spec

namespace Engine

/-- The pod of a document is admitted under a fingerprint: the engine gives the answer, and the
answer leaves behind the second document. -/
def Admits (engine : Engine) (fingerprint : String) (now : Timestamp) (before : Json)
    (outcome : Outcome) (after : Json) : Prop :=
  ∃ pod, Pod.ofJson? before = some pod ∧ engine.mutate fingerprint pod now = .ok outcome
    ∧ outcome.run? before = some after

/-- A canonical document of a pod that has a specification and metadata. -/
structure Admissible (document : Json) : Prop where
  isCanonical : document.IsCanonical
  exists_spec : ∃ pod spec, Pod.ofJson? document = some pod ∧ pod.spec = some spec
  exists_metadata : ∃ members, document.member? "metadata" = some (.obj members)

/-- A pod that can be patched can be patched again when something has been injected. -/
theorem Admissible.inject {document : Json} (h : Admissible document) (c : Contribution)
    (bookkeeping : StringMap) : Admissible (c.inject bookkeeping document) := by
  obtain ⟨hc, ⟨pod, spec, hpod, hspec⟩, members, hdata⟩ := h
  obtain ⟨_, hmember, _⟩ := c.run?_under_specPatch hc hpod hspec
  obtain ⟨fields, hfields⟩ := c.isObject_metadata bookkeeping ⟨members, rfl⟩
  exact ⟨c.isCanonical_inject bookkeeping hc, ⟨_, c.onSpec spec,
      c.ofJson?_inject bookkeeping hpod hspec hdata, c.spec_onPod hspec _⟩,
    fields, hfields ▸ (c.member?_inject bookkeeping hmember hdata).2⟩

section Registered

variable {registry : Registry} {keyPrefix : String} {r : RegisteredRule} {c : Contribution}

/-- **What one admission can be**: there is nothing to inject, or the rule is stopped, and the
document stays; or the patch of the rule is applied. -/
theorem Admits.cases (hs : registry.Sound) (hr : r ∈ registry.rules)
    (hcontent : r.rule.contribution = .ok c) {now : Timestamp} {before after : Json}
    {outcome : Outcome} (hc : before.IsCanonical)
    (h : Admits ⟨registry, keyPrefix⟩ r.fingerprint now before outcome after) :
    (c.PresentIn before ∧ outcome = .nothingToInject r.displayName ∧ after = before)
      ∨ (¬ c.PresentIn before ∧ r.rule.maxIterations ≤ Breaker.count ⟨keyPrefix, r⟩ before
        ∧ outcome = .iterationLimitReached r.displayName (Breaker.count ⟨keyPrefix, r⟩ before)
        ∧ after = before)
      ∨ (¬ c.PresentIn before ∧ outcome.isPatched = true
        ∧ Breaker.count ⟨keyPrefix, r⟩ before < r.rule.maxIterations ∧ after.IsCanonical
        ∧ ∃ pod spec, Pod.ofJson? before = some pod ∧ pod.spec = some spec
          ∧ Pod.ofJson? after = some (c.onPod (Breaker.bookkeeping ⟨keyPrefix, r⟩
            (Breaker.count ⟨keyPrefix, r⟩ before) now) pod)) := by
  obtain ⟨pod, hpod, hmutate, hrun⟩ := h
  have hcount := Breaker.count_eq_iterations ⟨keyPrefix, r⟩ hpod
  cases hspec : pod.spec with
  | none =>
      simp only [mutate, (hs.resolve?_iff r.fingerprint r).2 ⟨hr, rfl⟩, hspec] at hmutate
      cases hmutate
  | some spec =>
      have hpresent_iff : c.PresentIn before ↔ c.Present pod spec := by
        constructor
        · rintro ⟨pod', spec', hpod', hspec', hpresent⟩
          obtain rfl := Option.some.inj (hpod.symm.trans hpod')
          obtain rfl := Option.some.inj (hspec.symm.trans hspec')
          exact hpresent
        · exact fun hpresent => ⟨pod, spec, hpod, hspec, hpresent⟩
      rw [hpresent_iff]
      rcases Classical.em (c.Present pod spec) with hpresent | hlacking
      · rw [mutate_of_present keyPrefix now hs hr hcontent hspec hpresent] at hmutate
        obtain rfl := Except.ok.inj hmutate
        exact .inl ⟨hpresent, rfl, (Option.some.inj hrun).symm⟩
      · have hanswer := mutate_of_lacking keyPrefix now hs hr hcontent hspec hlacking
        refine .inr ?_
        cases hverdict : Breaker.evaluate ⟨keyPrefix, r⟩ pod.annotations now with
        | tripped n =>
            obtain ⟨hn, hle⟩ := (Breaker.evaluate_eq_tripped_iff _ _ _ n).1 hverdict
            rw [hverdict] at hanswer
            obtain rfl := Except.ok.inj (hanswer.symm.trans hmutate)
            rw [hcount, hn]
            exact .inl ⟨hlacking, hle, rfl, (Option.some.inj hrun).symm⟩
        | proceed bookkeeping =>
            rw [hverdict] at hanswer
            obtain rfl := Except.ok.inj (hanswer.symm.trans hmutate)
            obtain ⟨hcanonical, r', hr', hfingerprint, hlt, c', hcontent', pod', spec', hpod',
              hspec', hafter⟩ := exists_onPod_of_admit? hs hc
                (admit?_eq_some_iff.2 ⟨pod, _, _, hpod, hmutate, hrun⟩)
            -- the rule and its contribution are those given
            obtain rfl := hs.eq_of_fingerprint_eq hr' hr hfingerprint
            obtain rfl := Except.ok.inj (hcontent.symm.trans hcontent')
            exact .inr ⟨hlacking, rfl, hlt, hcanonical, pod', spec', hpod', hspec', hafter⟩

/-- A pod with a specification and metadata can be admitted at any time, whatever stands in it, and
is such a pod again. -/
theorem exists_admits (keyPrefix : String) (hs : registry.Sound) (hr : r ∈ registry.rules)
    (now : Timestamp) {before : Json} (h : Admissible before) :
    ∃ outcome after, Admits ⟨registry, keyPrefix⟩ r.fingerprint now before outcome after
      ∧ Admissible after := by
  have ⟨hc, ⟨pod, spec, hpod, hspec⟩, members, hdata⟩ := h
  obtain ⟨_, _, _, c, hcontent⟩ := Rule.validate_eq_ok_iff.1 (hs.valid r hr)
  rcases Classical.em (c.Present pod spec) with hpresent | hlacking
  · exact ⟨_, before, ⟨pod, hpod, mutate_of_present keyPrefix now hs hr hcontent hspec hpresent, rfl⟩,
      h⟩
  · have hanswer := mutate_of_lacking keyPrefix now hs hr hcontent hspec hlacking
    cases hverdict : Breaker.evaluate ⟨keyPrefix, r⟩ pod.annotations now with
    | tripped n =>
        rw [hverdict] at hanswer
        exact ⟨_, before, ⟨pod, hpod, hanswer, rfl⟩, h⟩
    | proceed bookkeeping =>
        rw [hverdict] at hanswer
        have hrun := c.run?_inject hc hpod hspec hdata bookkeeping
        exact ⟨_, c.inject bookkeeping before, ⟨pod, hpod, hanswer, hrun⟩,
          h.inject c bookkeeping⟩

end Registered

/-! ### Sequences of admissions -/

/-- **An endless sequence of admissions under one fingerprint**: what one leaves behind is admitted
next. -/
structure Admissions (engine : Engine) (fingerprint : String) where
  times : Nat → Timestamp
  documents : Nat → Json
  outcomes : Nat → Outcome
  admits : ∀ n, engine.Admits fingerprint (times n) (documents n) (outcomes n) (documents (n + 1))

namespace Admissions

section Registered

variable {registry : Registry} {keyPrefix : String} {r : RegisteredRule} {c : Contribution}
  (hs : registry.Sound) (hr : r ∈ registry.rules) (hcontent : r.rule.contribution = .ok c)
  (s : Admissions ⟨registry, keyPrefix⟩ r.fingerprint) (hstart : (s.documents 0).IsCanonical)

include hs hr hcontent hstart

/-- **Every document of a sequence is canonical** if the first is. -/
theorem isCanonical (n : Nat) : (s.documents n).IsCanonical := by
  induction n with
  | zero => exact hstart
  | succ n ih =>
      rcases (s.admits n).cases hs hr hcontent ih with ⟨_, _, heq⟩ | ⟨_, _, _, heq⟩ |
        ⟨_, _, _, hcanonical, _⟩
      · rwa [heq]
      · rwa [heq]
      · exact hcanonical

/-- After an answer that is no patch the next admission is the same. -/
theorem succ_eq {n : Nat} (hn : (s.outcomes n).isPatched = false) :
    s.outcomes (n + 1) = s.outcomes n ∧ s.documents (n + 1) = s.documents n := by
  have hc := s.isCanonical hs hr hcontent hstart
  have hnext := (s.admits (n + 1)).cases hs hr hcontent (hc (n + 1))
  rcases (s.admits n).cases hs hr hcontent (hc n) with
    ⟨hpresent, hout, heq⟩ | ⟨hlacking, hle, hout, heq⟩ | ⟨_, hpatched, _⟩
  · -- all is there, and stays there
    rw [heq] at hnext
    rcases hnext with ⟨_, hout', _⟩ | ⟨hlacking, _⟩ | ⟨hlacking, _⟩
    · exact ⟨hout'.trans hout.symm, heq⟩
    · exact absurd hpresent hlacking
    · exact absurd hpresent hlacking
  · -- the counter is at the limit, and stays there
    rw [heq] at hnext
    rcases hnext with ⟨hpresent, _⟩ | ⟨_, _, hout', _⟩ | ⟨_, _, hlt, _⟩
    · exact absurd hpresent hlacking
    · exact ⟨hout'.trans hout.symm, heq⟩
    · exact absurd hle (UInt32.not_le.2 hlt)
  · rw [hn] at hpatched
    cases hpatched

/-- **After an answer that is no patch nothing changes**, neither the answer nor the pod. -/
theorem eq_of_le {m : Nat} (hm : (s.outcomes m).isPatched = false) {n : Nat} (hmn : m ≤ n) :
    s.outcomes n = s.outcomes m ∧ s.documents n = s.documents m := by
  induction n, hmn using Nat.le_induction with
  | base => exact ⟨rfl, rfl⟩
  | succ n _ ih =>
      obtain ⟨hout, hdocument⟩ := s.succ_eq hs hr hcontent hstart (ih.1 ▸ hm)
      exact ⟨hout.trans ih.1, hdocument.trans ih.2⟩

/-- If the answers before a first one that is no patch are patches, no others are. -/
theorem isPatched_iff_lt {m : Nat} (hm : (s.outcomes m).isPatched = false)
    (hbefore : ∀ n < m, (s.outcomes n).isPatched = true) (n : Nat) :
    (s.outcomes n).isPatched = true ↔ n < m := by
  refine ⟨fun hn => Nat.lt_of_not_le fun hmn => ?_, hbefore n⟩
  rw [(s.eq_of_le hs hr hcontent hstart hm hmn).1, hm] at hn
  cases hn

/-- If all is there, there is nothing to inject. -/
theorem outcome_of_presentIn {n : Nat} (h : c.PresentIn (s.documents n)) :
    s.outcomes n = .nothingToInject r.displayName := by
  rcases (s.admits n).cases hs hr hcontent (s.isCanonical hs hr hcontent hstart n) with
    ⟨_, hout, _⟩ | ⟨hlacking, _⟩ | ⟨hlacking, _⟩
  · exact hout
  · exact absurd h hlacking
  · exact absurd h hlacking

/-- An answer that is no patch says that there is nothing to inject, if the counter is below the
limit. -/
theorem outcome_of_count_lt {n : Nat} (hn : (s.outcomes n).isPatched = false)
    (hlt : Breaker.count ⟨keyPrefix, r⟩ (s.documents n) < r.rule.maxIterations) :
    s.outcomes n = .nothingToInject r.displayName := by
  rcases (s.admits n).cases hs hr hcontent (s.isCanonical hs hr hcontent hstart n) with
    ⟨_, hout, _⟩ | ⟨_, hle, _⟩ | ⟨_, hpatched, _⟩
  · exact hout
  · exact absurd hle (UInt32.not_le.2 hlt)
  · rw [hn] at hpatched
    cases hpatched

/-- What a patch leaves behind is the pod with the contribution, and the counter is at most one
higher. -/
theorem exists_onPod_of_patched {n : Nat} (hn : (s.outcomes n).isPatched = true) :
    (Breaker.count ⟨keyPrefix, r⟩ (s.documents (n + 1))).toNat
        ≤ (Breaker.count ⟨keyPrefix, r⟩ (s.documents n)).toNat + 1
      ∧ ∃ pod spec, Pod.ofJson? (s.documents n) = some pod ∧ pod.spec = some spec
        ∧ Pod.ofJson? (s.documents (n + 1)) = some (c.onPod (Breaker.bookkeeping ⟨keyPrefix, r⟩
          (Breaker.count ⟨keyPrefix, r⟩ (s.documents n)) (s.times n)) pod) := by
  rcases (s.admits n).cases hs hr hcontent (s.isCanonical hs hr hcontent hstart n) with
    ⟨_, hout, _⟩ | ⟨_, _, hout, _⟩ | ⟨_, _, hlt, _, pod, spec, hpod, hspec, hafter⟩
  · rw [hout] at hn
    cases hn
  · rw [hout] at hn
    cases hn
  · refine ⟨?_, pod, spec, hpod, hspec, hafter⟩
    rw [Breaker.count_eq_iterations _ hafter, Contribution.onPod, Breaker.iterations_onto]
    split
    · exact Nat.zero_le _
    · exact (Breaker.toNat_next_of_lt hlt).le

/-- After a patch all is there if the containers that it added have the rule's mounts and the breaker
contradicts no annotation. -/
theorem presentIn_of_patched {n : Nat} (hn : (s.outcomes n).isPatched = true)
    (hbeside : ∀ i now, r.rule.AnnotatesBeside (Breaker.bookkeeping ⟨keyPrefix, r⟩ i now))
    (hmounts : ∀ pod spec, Pod.ofJson? (s.documents n) = some pod → pod.spec = some spec →
      r.rule.MountsInNew spec) : c.PresentIn (s.documents (n + 1)) := by
  obtain ⟨_, pod, spec, hpod, hspec, hafter⟩ :=
    s.exists_onPod_of_patched hs hr hcontent hstart hn
  exact ⟨_, c.onSpec spec, hafter, c.spec_onPod hspec _,
    (Contribution.present_onPod_iff hcontent _).2 ⟨hmounts pod spec hpod hspec, hbeside _ _⟩⟩

/-- **After two patches all is there**: the first has added the containers, and the second finds none
to add. -/
theorem presentIn_of_patched_twice {n : Nat} (hn : (s.outcomes n).isPatched = true)
    (hn' : (s.outcomes (n + 1)).isPatched = true)
    (hbeside : ∀ i now, r.rule.AnnotatesBeside (Breaker.bookkeeping ⟨keyPrefix, r⟩ i now)) :
    c.PresentIn (s.documents (n + 2)) := by
  refine s.presentIn_of_patched hs hr hcontent hstart hn' hbeside fun pod spec hpod hspec => ?_
  obtain ⟨_, pod', spec', _, hspec', hafter⟩ :=
    s.exists_onPod_of_patched hs hr hcontent hstart hn
  obtain rfl := Option.some.inj (hpod.symm.trans hafter)
  obtain rfl := Option.some.inj ((c.spec_onPod hspec' _).symm.trans hspec)
  -- all containers of the rule are there by name, so none is new
  have hnone : fresh (·.name) ((c.onSpec spec').containers.map (·.name)) r.rule.containers = [] := by
    refine (fresh_eq_nil_iff _ _ _).2 fun k hk => ?_
    have hname : k.name ∈ c.containers.map (·.name) := by
      rw [Rule.map_name_of_contribution hcontent]
      exact List.mem_map.2 ⟨k, hk, rfl⟩
    obtain ⟨w, hw, hkw⟩ := List.mem_map.1 hname
    rw [Contribution.map_name_containers_onSpec, ← hkw]
    exact Contribution.mem_append_map_fresh hw
  intro k hk
  rw [hnone] at hk
  cases hk

end Registered

end Admissions

/-- **A pod with a specification and metadata can be admitted endlessly**, at whatever times. -/
theorem exists_admissions {registry : Registry} (keyPrefix : String) (hs : registry.Sound)
    {r : RegisteredRule} (hr : r ∈ registry.rules) (times : Nat → Timestamp) {start : Json}
    (h : Admissible start) :
    ∃ s : Admissions ⟨registry, keyPrefix⟩ r.fingerprint,
      s.times = times ∧ s.documents 0 = start := by
  have hstep : ∀ (now : Timestamp) (before : Subtype Admissible),
      ∃ (outcome : Outcome) (after : Subtype Admissible),
        Admits ⟨registry, keyPrefix⟩ r.fingerprint now before.1 outcome after.1 := by
    intro now before
    obtain ⟨outcome, after, hadmits, hafter⟩ := exists_admits keyPrefix hs hr now before.2
    exact ⟨outcome, ⟨after, hafter⟩, hadmits⟩
  choose outcome next hnext using hstep
  -- each document is what the admission before it leaves behind
  have documents : ∃ d : Nat → Subtype Admissible, d 0 = ⟨start, h⟩
      ∧ ∀ n, d (n + 1) = next (times n) (d n) :=
    ⟨fun n => n.rec ⟨start, h⟩ fun n d => next (times n) d, rfl, fun _ => rfl⟩
  obtain ⟨d, hzero, hsucc⟩ := documents
  refine ⟨⟨times, fun n => (d n).1, fun n => outcome (times n) (d n), fun n => ?_⟩, rfl, ?_⟩
  · rw [hsucc]
    exact hnext (times n) (d n)
  · exact congrArg Subtype.val hzero

/-- The breaker contradicts no annotation of a rule that uses neither of its names. -/
theorem annotatesBeside_of_find?_eq_none {keyPrefix : String} {r : RegisteredRule}
    (hcounter : r.rule.annotations.find? (Breaker.counterKey ⟨keyPrefix, r⟩) = none)
    (htime : r.rule.annotations.find? (Breaker.timestampKey ⟨keyPrefix, r⟩) = none) (n : UInt32)
    (now : Timestamp) : r.rule.AnnotatesBeside (Breaker.bookkeeping ⟨keyPrefix, r⟩ n now) := by
  intro name text hfind other hother
  rw [Breaker.find?_bookkeeping] at hother
  split at hother
  · next heq =>
    rw [← heq, htime] at hfind
    cases hfind
  · split at hother
    · next heq =>
      rw [← heq, hcounter] at hfind
      cases hfind
    · cases hother

/-- **How a sequence of admissions ends.**  A registered rule does not annotate by the names of the
breaker, and a pod is admitted under its fingerprint again and again, at whatever times.  At first
there are patches: at most two, and at most one if the rule adds no containers or has no mounts or
each of its containers has a mount at each of their paths.  From the first answer that is no patch
the answer and the pod stay the same; and if the counter stood two or more below the limit at the
start, that answer is that there is nothing to inject. -/
theorem admissions_settle {rules : List Rule} {registry : Registry}
    (hbuild : Registry.build rules = .ok registry) {keyPrefix : String} {r : RegisteredRule}
    (hr : r ∈ registry.rules)
    (hcounter : r.rule.annotations.find? (Breaker.counterKey ⟨keyPrefix, r⟩) = none)
    (htime : r.rule.annotations.find? (Breaker.timestampKey ⟨keyPrefix, r⟩) = none)
    (s : Admissions ⟨registry, keyPrefix⟩ r.fingerprint)
    (hstart : (s.documents 0).IsCanonical) :
    ∃ m ≤ 2, (∀ n, (s.outcomes n).isPatched = true ↔ n < m)
      ∧ (r.rule.containers = [] ∨ r.rule.volumeMounts = []
          ∨ (∀ k ∈ r.rule.containers, ∀ mount ∈ r.rule.volumeMounts,
            mount.mountPath ∈ k.volumeMounts.map (·.mountPath)) → m ≤ 1)
      ∧ (∀ n ≥ m, s.outcomes n = s.outcomes m ∧ s.documents n = s.documents m)
      ∧ ((Breaker.count ⟨keyPrefix, r⟩ (s.documents 0)).toNat + 2 ≤ r.rule.maxIterations.toNat →
        s.outcomes m = .nothingToInject r.displayName) := by
  have hs := Registry.sound_of_build hbuild
  obtain ⟨_, _, _, c, hcontent⟩ := Rule.validate_eq_ok_iff.1 (hs.valid r hr)
  have hbeside := annotatesBeside_of_find?_eq_none hcounter htime
  have hstays : ∀ {m}, (s.outcomes m).isPatched = false → ∀ n ≥ m,
      s.outcomes n = s.outcomes m ∧ s.documents n = s.documents m :=
    fun hm n hmn => s.eq_of_le hs hr hcontent hstart hm hmn
  cases hfirst : (s.outcomes 0).isPatched with
  | false =>
      refine ⟨0, by omega, s.isPatched_iff_lt hs hr hcontent hstart hfirst (by simp),
        fun _ => by omega, hstays hfirst, fun hlimit => ?_⟩
      exact s.outcome_of_count_lt hs hr hcontent hstart hfirst
        (UInt32.lt_iff_toNat_lt.2 (by omega))
  | true =>
      have hcount : (Breaker.count ⟨keyPrefix, r⟩ (s.documents 1)).toNat
          ≤ (Breaker.count ⟨keyPrefix, r⟩ (s.documents 0)).toNat + 1 :=
        (s.exists_onPod_of_patched hs hr hcontent hstart hfirst).1
      cases hsecond : (s.outcomes 1).isPatched with
      | false =>
          refine ⟨1, by omega, s.isPatched_iff_lt hs hr hcontent hstart hsecond (by simp [hfirst]),
            fun _ => by omega, hstays hsecond, fun hlimit => ?_⟩
          exact s.outcome_of_count_lt hs hr hcontent hstart hsecond
            (UInt32.lt_iff_toNat_lt.2 (by omega))
      | true =>
          have hpresent := s.presentIn_of_patched_twice hs hr hcontent hstart hfirst hsecond hbeside
          have hthird := s.outcome_of_presentIn hs hr hcontent hstart hpresent
          have hsettled : (s.outcomes 2).isPatched = false := by
            rw [hthird]
            rfl
          have hbefore : ∀ n < 2, (s.outcomes n).isPatched = true := by
            intro n hn
            rcases Nat.lt_succ_iff_lt_or_eq.1 hn with hn | rfl
            · rwa [Nat.lt_one_iff.1 hn]
            · exact hsecond
          refine ⟨2, by omega, s.isPatched_iff_lt hs hr hcontent hstart hsettled hbefore,
            fun hmounts => ?_, hstays hsettled, fun _ => hthird⟩
          -- with such mounts all would have been there after the first patch
          have hnew : ∀ spec, r.rule.MountsInNew spec := by
            intro spec k hk m hm
            have hkr := mem_of_mem_fresh _ hk
            rcases hmounts with hnil | hnil | hmounts
            · rw [hnil] at hkr
              cases hkr
            · rw [hnil] at hm
              cases hm
            · exact hmounts k hkr m hm
          have hearly := s.presentIn_of_patched hs hr hcontent hstart hfirst hbeside
            fun _ spec _ _ => hnew spec
          rw [s.outcome_of_presentIn hs hr hcontent hstart hearly] at hsecond
          cases hsecond

/-- A rule adds a container, mounts into it when the pod comes again, and is done. -/
theorem admissions_settle_after_two :
    ∃ (registry : Registry) (r : RegisteredRule)
      (s : Admissions ⟨registry, "example.org"⟩ r.fingerprint),
      Registry.build [{ (default : Rule) with
          name := "a", maxIterations := 3
          containers := [{ (default : Rule.Container) with name := "side" }]
          volumeMounts := [{ (default : Rule.VolumeMount) with name := "v", mountPath := "/v" }] }]
          = .ok registry
        ∧ r ∈ registry.rules
        ∧ (s.outcomes 0).isPatched = true ∧ (s.outcomes 1).isPatched = true
        ∧ s.outcomes 2 = .nothingToInject r.displayName := by
  obtain ⟨registry, hbuild, r, hr, hcounter, htime, first, second, third, p, q, hcount, h0, h1, h2⟩ :
      ∃ registry : Registry,
        Registry.build [{ (default : Rule) with
            name := "a", maxIterations := 3
            containers := [{ (default : Rule.Container) with name := "side" }]
            volumeMounts := [{ (default : Rule.VolumeMount) with name := "v", mountPath := "/v" }] }]
            = .ok registry
          ∧ ∃ r ∈ registry.rules,
            r.rule.annotations.find? (Breaker.counterKey ⟨"example.org", r⟩) = none
          ∧ r.rule.annotations.find? (Breaker.timestampKey ⟨"example.org", r⟩) = none
          ∧ ∃ first second third p q,
            (Breaker.count ⟨"example.org", r⟩ (canonical first)).toNat + 2
              ≤ r.rule.maxIterations.toNat
            ∧ Admits ⟨registry, "example.org"⟩ r.fingerprint .epoch (canonical first)
              (.patched "a" p) second
            ∧ Admits ⟨registry, "example.org"⟩ r.fingerprint .epoch second (.patched "a" q) third
            ∧ Admits ⟨registry, "example.org"⟩ r.fingerprint .epoch third
              (.nothingToInject r.displayName) third :=
    ⟨⟨[⟨"fb812c3bb472b9f5", { (default : Rule) with
        name := "a", maxIterations := 3
        containers := [{ (default : Rule.Container) with name := "side" }]
        volumeMounts := [{ (default : Rule.VolumeMount) with name := "v", mountPath := "/v" }] }⟩]⟩,
      by decide +kernel, _, List.mem_singleton.2 rfl, rfl, rfl,
      .obj [("metadata", .obj []),
        ("spec", .obj [("containers", .arr [.obj [("name", .str "app")]])])],
      .obj [("metadata", .obj [("annotations", .obj [("example.org/a", .str "1970-01-01T00:00:00Z"),
          ("example.org/fb812c3bb472b9f5", .str "1")])]),
        ("spec", .obj [("containers", .arr [.obj [("name", .str "app"),
            ("volumeMounts", .arr [.obj [("mountPath", .str "/v"), ("name", .str "v")]])],
          .obj [("image", .str ""), ("name", .str "side")]])])],
      .obj [("metadata", .obj [("annotations", .obj [("example.org/a", .str "1970-01-01T00:00:00Z"),
          ("example.org/fb812c3bb472b9f5", .str "2")])]),
        ("spec", .obj [("containers", .arr [.obj [("name", .str "app"),
            ("volumeMounts", .arr [.obj [("mountPath", .str "/v"), ("name", .str "v")]])],
          .obj [("image", .str ""), ("name", .str "side"),
            ("volumeMounts", .arr [.obj [("mountPath", .str "/v"), ("name", .str "v")]])]])])],
      [.add ["spec", "containers", "0", "volumeMounts"]
          (.arr [.obj [("mountPath", .str "/v"), ("name", .str "v")]]),
        .add ["spec", "containers", "-"] (.obj [("image", .str ""), ("name", .str "side")]),
        .add ["metadata", "annotations"] (.obj [("example.org/a", .str "1970-01-01T00:00:00Z"),
          ("example.org/fb812c3bb472b9f5", .str "1")])],
      [.add ["spec", "containers", "1", "volumeMounts"]
          (.arr [.obj [("mountPath", .str "/v"), ("name", .str "v")]]),
        .replace ["metadata", "annotations", "example.org/fb812c3bb472b9f5"] (.str "2")],
      by decide +kernel,
      ⟨⟨none, none, some ⟨[], [], [⟨"app", []⟩], .absent, []⟩⟩, by decide +kernel,
        by decide +kernel, by decide +kernel⟩,
      ⟨⟨none, some (.ofList [("example.org/a", "1970-01-01T00:00:00Z"),
          ("example.org/fb812c3bb472b9f5", "1")]),
        some ⟨[], [], [⟨"app", ["/v"]⟩, ⟨"side", []⟩], .absent, []⟩⟩, by decide +kernel,
        by decide +kernel, by decide +kernel⟩,
      ⟨⟨none, some (.ofList [("example.org/a", "1970-01-01T00:00:00Z"),
          ("example.org/fb812c3bb472b9f5", "2")]),
        some ⟨[], [], [⟨"app", ["/v"]⟩, ⟨"side", ["/v"]⟩], .absent, []⟩⟩, by decide +kernel,
        by decide +kernel, rfl⟩⟩
  obtain ⟨s, hstart, hfirst, hsecond⟩ :
      ∃ s : Admissions ⟨registry, "example.org"⟩ r.fingerprint, s.documents 0 = canonical first
        ∧ s.outcomes 0 = .patched "a" p ∧ s.outcomes 1 = .patched "a" q :=
    ⟨⟨fun _ => .epoch, fun | 0 => canonical first | 1 => second | _ => third,
      fun | 0 => .patched "a" p | 1 => .patched "a" q | _ => .nothingToInject r.displayName,
      fun | 0 => h0 | 1 => h1 | _ + 2 => h2⟩, rfl, rfl, rfl⟩
  obtain ⟨m, hm, hpatched, _, _, hlast⟩ := admissions_settle hbuild hr hcounter htime s
    (hstart ▸ isCanonical_canonical first)
  have hone : 1 < m := (hpatched 1).1 (by rw [hsecond]; rfl)
  obtain rfl : m = 2 := by omega
  refine ⟨registry, r, s, hbuild, hr, by rw [hfirst]; rfl, by rw [hsecond]; rfl, hlast ?_⟩
  rw [hstart]
  exact hcount

end Engine

end Sidecar
