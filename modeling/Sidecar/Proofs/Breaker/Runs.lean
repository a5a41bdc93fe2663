/-
**Counters over runs.**

A pod can be admitted many times, for any of the registered rules in any order, and between two
admissions others may edit it.  As long as they leave the annotations of the breaker alone, and no
rule writes there by its own annotations or is called by a fingerprint, each counter counts what it
should: an applied patch of a rule raises the rule's counter by one and touches no other.  Since no
patch is made once the counter has reached the limit, the number of patches in a run is bounded,
however long the run is.

Main definitions:

* `Sidecar.Engine.admit?` — the document that an admission leaves behind, if its patch applies;
* `Sidecar.Breaker.count` — the counter of a rule on a document;
* `Sidecar.Engine.Step`, `Sidecar.Engine.Run` — one step of a pod's life, and a run of them with the
  fingerprints of the patches applied.

Main results:

* `Sidecar.Engine.exists_inject_of_admit?` — what an applied patch has done;
* `Sidecar.Engine.count_of_admit?` — **one patch raises one counter by one**;
* `Sidecar.Engine.Run.counted` — after a run each counter has been raised by the patches of its
  rule, and not beyond the limit;
* `Sidecar.Engine.applied_le_of_run` — **the bounds on the patches of a run.**
-/

import Mathlib.Algebra.BigOperators.Group.Finset.Basic
import Mathlib.Algebra.GroupWithZero.Nat
import Mathlib.Algebra.Order.BigOperators.Group.List
import Mathlib.Algebra.Order.Group.Nat
import Sidecar.Proofs.Breaker.Keys
import Sidecar.Proofs.Injection.Reference

set_option autoImplicit false

namespace Sidecar

open Cluster Json

/-! ### Annotations of a document -/

/-- What is annotated under a name. -/
def annotation? (key : String) (document : Json) : Option String :=
  (Pod.view document).annotations.bind (·.find? key)

/-- The annotations stand in the metadata. -/
theorem annotation?_of_object? {document data : Json}
    (h : View.object? "metadata" document = some data) (key : String) :
    annotation? key document = (View.map? "annotations" data).bind (·.find? key) := by
  simp only [annotation?, Pod.view, h, Option.getD_some]

/-- The counter of a rule on a document. -/
def Breaker.count (b : Breaker) (document : Json) : UInt32 :=
  b.iterations (Pod.view document).annotations

/-- It is the one that the breaker reads of the pod that the document describes. -/
theorem Breaker.count_eq_iterations (b : Breaker) {document : Json} {pod : Pod}
    (hpod : Pod.ofJson? document = some pod) :
    b.count document = b.iterations pod.annotations := by
  rw [((Pod.ofJson?_eq_some_iff document pod).1 hpod).2, count]

/-- A counter depends on its own annotation alone. -/
theorem Breaker.count_congr {b : Breaker} {before after : Json}
    (h : annotation? b.counterKey after = annotation? b.counterKey before) :
    b.count after = b.count before := by
  unfold count iterations
  unfold annotation? at h
  rw [h]

/-- A counter that is annotated as a number is that number. -/
theorem Breaker.count_of_annotation? {b : Breaker} {document : Json} {n : UInt32}
    (h : annotation? b.counterKey document = some (toString n.toNat)) : b.count document = n := by
  unfold count iterations
  unfold annotation? at h
  rw [h, Option.bind_some, parseCount_trim_toString, Option.getD_some]

namespace Contribution

variable {c : Contribution} {bookkeeping : StringMap}

/-- **The annotations after an injection** are those of the rule and the breaker, and beside them
what was there. -/
theorem annotation?_inject {document : Json} {members : List (String × Json)}
    (hdata : document.member? "metadata" = some (.obj members))
    (hne : (c.annotations.override bookkeeping).isEmpty = false) (key : String) :
    annotation? key (c.inject bookkeeping document)
      = ((c.annotations.override bookkeeping).find? key).or (annotation? key document) := by
  obtain ⟨entries, rfl⟩ := exists_members_of_member? hdata
  -- the metadata that is set is an object, its annotations are the map that is merged
  obtain ⟨fields, hfields⟩ := exists_members_withMember members "labels"
    (merged "labels" c.labels (.obj members))
  have hmetadata : c.metadata bookkeeping (.obj members)
      = (obj fields).withMember "annotations"
        (some (stringMap (((View.map? "annotations" (.obj members)).getD .empty).override
          (c.annotations.override bookkeeping)))) := by
    rw [metadata, hfields, merged, if_neg (Bool.eq_false_iff.1 hne)]
  obtain ⟨outer, houter⟩ := exists_members_withMember entries "spec"
    (((obj entries).member? "spec").map c.specification)
  have hset : (c.inject bookkeeping (.obj entries)).member? "metadata"
      = some (c.metadata bookkeeping (.obj members)) := by
    rw [inject, houter, hdata, Option.map_some, member?_withMember_self]
  have hbefore : View.object? "metadata" (.obj entries) = some (.obj members) :=
    View.object?_eq_some_iff.2 ⟨hdata, members, rfl⟩
  have hafter := View.object?_eq_some_iff.2 ⟨hset, _, hmetadata.trans (withMember_obj_some ..)⟩
  rw [annotation?_of_object? hbefore, annotation?_of_object? hafter, hmetadata,
    View.map?_of_member? (member?_withMember_self fields "annotations" _), Option.bind_some,
    StringMap.find?_override]
  cases View.map? "annotations" (.obj members) with
  | none => rfl
  | some existing => rfl

end Contribution

namespace Engine

/-- The document that an admission under a fingerprint leaves behind, if the engine answers with a
patch and the patch applies. -/
def admit? (engine : Engine) (fingerprint : String) (now : Timestamp) (document : Json) :
    Option Json :=
  match Pod.ofJson? document with
  | none => none
  | some pod =>
    match engine.mutate fingerprint pod now with
    | .ok (.patched _ patch) => patch.run? document
    | _ => none

theorem admit?_eq_some_iff {engine : Engine} {fingerprint : String} {now : Timestamp}
    {document after : Json} : engine.admit? fingerprint now document = some after
      ↔ ∃ pod name patch, Pod.ofJson? document = some pod
        ∧ engine.mutate fingerprint pod now = .ok (.patched name patch)
        ∧ patch.run? document = some after := by
  unfold admit?
  constructor
  · intro h
    split at h
    · cases h
    · next pod hpod =>
      split at h
      · next name patch hmutate => exact ⟨pod, name, patch, hpod, hmutate, h⟩
      · cases h
  · rintro ⟨pod, name, patch, hpod, hmutate, hrun⟩
    simp only [hpod, hmutate, hrun]

section Registered

variable {registry : Registry} {keyPrefix : String}

/-- A patch that applies found metadata to annotate. -/
theorem exists_metadata_of_run? {c : Contribution} {bookkeeping : StringMap} {document after : Json}
    (hc : document.IsCanonical) {pod : Pod} (hpod : Pod.ofJson? document = some pod)
    {view : PodSpec} (hview : pod.spec = some view)
    (hne : (c.annotations.override bookkeeping).isEmpty = false)
    (h : Patch.run? ((c.specPatch view).under "spec"
      ++ (c.metadataPatch bookkeeping pod).under "metadata") document = some after) :
    ∃ members, document.member? "metadata" = some (.obj members) := by
  obtain ⟨spec, hspec, hfirst⟩ := c.run?_under_specPatch hc hpod hview
  obtain ⟨hshape, rfl⟩ := (Pod.ofJson?_eq_some_iff document pod).1 hpod
  rw [Patch.run?_append, hfirst, Option.bind_some] at h
  cases hobject : View.object? "metadata" document with
  | some data =>
      obtain ⟨hmember, members, rfl⟩ := View.object?_eq_some_iff.1 hobject
      exact ⟨members, hmember⟩
  | none =>
      -- without metadata there is nothing to add the annotations to
      exfalso
      obtain ⟨entries, rfl⟩ := exists_members_of_member? hspec
      have hmetadata : (obj entries).member? "metadata" = none
          ∨ (obj entries).member? "metadata" = some .null := by
        have haccepts := Shape.acceptsMember_of_accepts hshape
          (by simp : ("metadata", Shape.objectMeta) ∈ _)
        rcases Shape.acceptsMember_object haccepts with hmember | hmember | ⟨members, hmember⟩
        · exact .inl hmember
        · exact .inr hmember
        · rw [View.object?_eq_some_iff.2 ⟨hmember, members, rfl⟩] at hobject
          cases hobject
      have hne' : c.metadataPatch bookkeeping (Pod.view (.obj entries)) ≠ [] := by
        simp [Contribution.metadataPatch, Pod.view, hobject, Patch.mergeMap, hne, View.map?,
          member?]
      rw [withMember_obj_some, Patch.run?_under_eq_none (c.writesBelow_metadataPatch _ _) hne'] at h
      · cases h
      · rwa [← withMember_obj_some, member?_withMember_of_ne _ (by simp)]

/-- **What an applied patch has done**: it is that of a registered rule whose counter was below its
limit, and it has brought about what the reference gives. -/
theorem exists_inject_of_admit? (hs : registry.Sound) {before after : Json}
    (hc : before.IsCanonical) {fingerprint : String} {now : Timestamp}
    (h : admit? ⟨registry, keyPrefix⟩ fingerprint now before = some after) :
    ∃ r ∈ registry.rules, r.fingerprint = fingerprint
      ∧ Breaker.count ⟨keyPrefix, r⟩ before < r.rule.maxIterations
      ∧ ∃ c, r.rule.contribution = .ok c
      ∧ ∃ pod spec members, Pod.ofJson? before = some pod ∧ pod.spec = some spec
        ∧ before.member? "metadata" = some (.obj members)
        ∧ after = c.inject (Breaker.bookkeeping ⟨keyPrefix, r⟩
          (Breaker.count ⟨keyPrefix, r⟩ before) now) before := by
  obtain ⟨pod, name, patch, hpod, hmutate, hrun⟩ := admit?_eq_some_iff.1 h
  obtain ⟨r, hr, hfingerprint, c, hcontent, bookkeeping, hproceed, spec, hspec, rfl⟩ :=
    exists_contribution_of_mutate hs hmutate
  obtain ⟨hlt, rfl⟩ := (Breaker.evaluate_eq_proceed_iff _ _ now bookkeeping).1 hproceed
  rw [← Breaker.count_eq_iterations _ hpod] at hlt hrun
  -- the time at least is annotated, so there is metadata
  have htime : (c.annotations.override (Breaker.bookkeeping ⟨keyPrefix, r⟩
      (Breaker.count ⟨keyPrefix, r⟩ before) now)).find? (Breaker.timestampKey ⟨keyPrefix, r⟩)
        = some now.roundToSecond.render := by
    rw [StringMap.find?_override, Breaker.find?_bookkeeping, if_pos rfl, Option.some_or]
  obtain ⟨members, hdata⟩ := exists_metadata_of_run? hc hpod hspec
    (StringMap.isEmpty_eq_false_of_find? htime) hrun
  have hafter := Option.some.inj (hrun.symm.trans (c.run?_inject hc hpod hspec hdata _))
  exact ⟨r, hr, hfingerprint, hlt, c, hcontent, pod, spec, members, hpod, hspec, hdata, hafter⟩

/-- What a rule brings in holds its next count. -/
theorem find?_override_own (keyPrefix : String) (hs : registry.Sound) (hapart : registry.NamesApart)
    {r : RegisteredRule} (hr : r ∈ registry.rules) (annotations : StringMap) (n : UInt32)
    (now : Timestamp) :
    (annotations.override (Breaker.bookkeeping ⟨keyPrefix, r⟩ n now)).find?
        (Breaker.counterKey ⟨keyPrefix, r⟩)
      = some (toString (Breaker.next n).toNat) := by
  have htime := (Breaker.timestampKey_ne_counterKey_iff keyPrefix hs).2 hapart r hr r hr
  rw [StringMap.find?_override, Breaker.find?_bookkeeping, if_neg htime, if_pos rfl, Option.some_or]

/-- It holds no other count. -/
theorem find?_override_other (keyPrefix : String) (hs : registry.Sound)
    (hapart : registry.NamesApart) {r s : RegisteredRule} (hr : r ∈ registry.rules)
    (hsr : s ∈ registry.rules) (hne : s ≠ r)
    {annotations : StringMap}
    (hannotations : annotations.find? (Breaker.counterKey ⟨keyPrefix, s⟩) = none) (n : UInt32)
    (now : Timestamp) :
    (annotations.override (Breaker.bookkeeping ⟨keyPrefix, r⟩ n now)).find?
      (Breaker.counterKey ⟨keyPrefix, s⟩) = none := by
  have htime := (Breaker.timestampKey_ne_counterKey_iff keyPrefix hs).2 hapart r hr s hsr
  have hkey : Breaker.counterKey ⟨keyPrefix, r⟩ ≠ Breaker.counterKey ⟨keyPrefix, s⟩ := by
    intro h
    exact hne (hs.eq_of_fingerprint_eq hsr hr ((Breaker.counterKey_inj keyPrefix r s).1 h).symm)
  rw [StringMap.find?_override, Breaker.find?_bookkeeping, if_neg htime, if_neg hkey,
    Option.none_or, hannotations]

/-- **One patch raises one counter by one**: that of the rule under the fingerprint, which was below
its limit. -/
theorem count_of_admit? (hs : registry.Sound) (hapart : registry.NamesApart)
    (hannotations : ∀ r ∈ registry.rules, ∀ rest,
      r.rule.annotations.find? (keyPrefix ++ "/" ++ rest) = none)
    {before after : Json} (hc : before.IsCanonical) {fingerprint : String} {now : Timestamp}
    (h : admit? ⟨registry, keyPrefix⟩ fingerprint now before = some after) :
    after.IsCanonical ∧ ∃ r ∈ registry.rules, r.fingerprint = fingerprint
      ∧ Breaker.count ⟨keyPrefix, r⟩ before < r.rule.maxIterations
      ∧ Breaker.count ⟨keyPrefix, r⟩ after = Breaker.next (Breaker.count ⟨keyPrefix, r⟩ before)
      ∧ ∀ s ∈ registry.rules, s ≠ r →
        Breaker.count ⟨keyPrefix, s⟩ after = Breaker.count ⟨keyPrefix, s⟩ before := by
  obtain ⟨r, hr, hfingerprint, hlt, c, hcontent, _, _, _, _, _, hdata, rfl⟩ :=
    exists_inject_of_admit? hs hc h
  have hrule : c.annotations = r.rule.annotations :=
    (Rule.contribution_eq_ok_iff.1 hcontent).2.2.2.2.2.2
  have hown := find?_override_own keyPrefix hs hapart hr c.annotations
    (Breaker.count ⟨keyPrefix, r⟩ before) now
  have hne := StringMap.isEmpty_eq_false_of_find? hown
  refine ⟨c.isCanonical_inject _ hc, r, hr, hfingerprint, hlt, ?_, ?_⟩
  · refine Breaker.count_of_annotation? ((Contribution.annotation?_inject hdata hne _).trans ?_)
    exact congrArg (Option.or · _) hown
  · intro s hsr hsne
    have hother := find?_override_other keyPrefix hs hapart hr hsr hsne
      (hrule ▸ hannotations r hr s.fingerprint) (Breaker.count ⟨keyPrefix, r⟩ before) now
    refine Breaker.count_congr ((Contribution.annotation?_inject hdata hne _).trans ?_)
    exact (congrArg (Option.or · _) hother).trans (Option.none_or ..)

end Registered

/-! ### Runs -/

/-- One step of a pod's life; a patch that is applied is noted by its fingerprint. -/
inductive Step (engine : Engine) (before : Json) : Option String → Json → Prop
  /-- The patch for a fingerprint is applied. -/
  | admitted {fingerprint : String} {now : Timestamp} {after : Json} :
      engine.admit? fingerprint now before = some after →
      Step engine before (some fingerprint) after
  /-- An admission changes nothing. -/
  | declined {fingerprint : String} {now : Timestamp} :
      engine.admit? fingerprint now before = none → Step engine before none before
  /-- Somebody edits the pod, but not the annotations of the breaker. -/
  | edited {after : Json} : after.IsCanonical →
      (∀ rest, annotation? (engine.keyPrefix ++ "/" ++ rest) after
        = annotation? (engine.keyPrefix ++ "/" ++ rest) before) → Step engine before none after

/-- A run from a document, with the fingerprints of the patches applied, the last one first. -/
inductive Run (engine : Engine) (start : Json) : List String → Json → Prop
  | start : Run engine start [] start
  | step {applied : List String} {before after : Json} {patched : Option String} :
      Run engine start applied before → Step engine before patched after →
      Run engine start (patched.toList ++ applied) after

/-- The invariant of runs: each counter has been raised by the patches of its rule, and not beyond
the limit. -/
structure Counted (engine : Engine) (start : Json) (applied : List String) (document : Json) :
    Prop where
  isCanonical : document.IsCanonical
  registered : ∀ fingerprint ∈ applied, fingerprint ∈ engine.registry.rules.map (·.fingerprint)
  raised : ∀ r ∈ engine.registry.rules,
    (Breaker.count ⟨engine.keyPrefix, r⟩ document).toNat
      = (Breaker.count ⟨engine.keyPrefix, r⟩ start).toNat + applied.count r.fingerprint
  limited : ∀ r ∈ engine.registry.rules, r.fingerprint ∈ applied →
    (Breaker.count ⟨engine.keyPrefix, r⟩ document).toNat ≤ r.rule.maxIterations.toNat

theorem counted_start {engine : Engine} {start : Json} (hc : start.IsCanonical) :
    engine.Counted start [] start :=
  ⟨hc, by simp, by simp, by simp⟩

/-- No rule writes to the annotations of the breaker by its own. -/
def Reserved (engine : Engine) : Prop :=
  ∀ r ∈ engine.registry.rules, ∀ rest,
    r.rule.annotations.find? (engine.keyPrefix ++ "/" ++ rest) = none

section Registered

variable {engine : Engine} {start : Json}

/-- **One step keeps the invariant.** -/
theorem Counted.step (hs : engine.registry.Sound) (hapart : engine.registry.NamesApart)
    (hreserved : engine.Reserved) {applied : List String} {before after : Json}
    {patched : Option String} (h : engine.Counted start applied before)
    (hstep : engine.Step before patched after) :
    engine.Counted start (patched.toList ++ applied) after := by
  cases hstep with
  | @admitted fingerprint now _ hadmit =>
      -- one rule's counter goes up by one and stays within the limit, all others stay as they are
      obtain ⟨hc, r, hr, rfl, hlt, hnext, hothers⟩ :=
        count_of_admit? hs hapart hreserved h.isCanonical hadmit
      have hraised := Breaker.toNat_next_of_lt hlt
      rw [← hnext] at hraised
      have hlimit := UInt32.lt_iff_toNat_lt.1 hlt
      refine ⟨hc, ?_, ?_, ?_⟩
      · intro fingerprint hmem
        rcases List.mem_cons.1 hmem with rfl | hmem
        · exact List.mem_map.2 ⟨r, hr, rfl⟩
        · exact h.registered fingerprint hmem
      · intro s hsr
        have hbefore := h.raised s hsr
        rcases Classical.em (s = r) with rfl | hne
        · simp only [Option.toList_some, List.singleton_append, List.count_cons_self]
          omega
        · have hfp : r.fingerprint ≠ s.fingerprint := fun heq =>
            hne (hs.eq_of_fingerprint_eq hsr hr heq.symm)
          simp only [Option.toList_some, List.singleton_append, List.count_cons_of_ne hfp]
          rw [hothers s hsr hne, hbefore]
      · intro s hsr hmem
        rcases Classical.em (s = r) with rfl | hne
        · omega
        · have hfp : s.fingerprint ≠ r.fingerprint := fun heq =>
            hne (hs.eq_of_fingerprint_eq hsr hr heq)
          rw [hothers s hsr hne]
          exact h.limited s hsr (List.mem_of_ne_of_mem hfp hmem)
  | declined _ => exact h
  | edited hc hkept =>
      -- counters are read from annotations that the edit keeps
      have hsame : ∀ r : RegisteredRule, Breaker.count ⟨engine.keyPrefix, r⟩ after
          = Breaker.count ⟨engine.keyPrefix, r⟩ before :=
        fun r => Breaker.count_congr (hkept r.fingerprint)
      refine ⟨hc, h.registered, ?_, ?_⟩
      · intro r hr
        rw [hsame r]
        exact h.raised r hr
      · intro r hr hmem
        rw [hsame r]
        exact h.limited r hr hmem

/-- **A run keeps the invariant.** -/
theorem Run.counted (hs : engine.registry.Sound) (hapart : engine.registry.NamesApart)
    (hreserved : engine.Reserved) (hc : start.IsCanonical) {applied : List String} {last : Json}
    (hrun : engine.Run start applied last) : engine.Counted start applied last := by
  induction hrun with
  | start => exact counted_start hc
  | step _ hstep ih => exact ih.step hs hapart hreserved hstep

/-- What is left of the limit bounds the patches of a rule. -/
theorem Counted.count_le {applied : List String} {last : Json}
    (h : engine.Counted start applied last) {r : RegisteredRule} (hr : r ∈ engine.registry.rules) :
    applied.count r.fingerprint
      ≤ r.rule.maxIterations.toNat - (Breaker.count ⟨engine.keyPrefix, r⟩ start).toNat := by
  rcases Classical.em (r.fingerprint ∈ applied) with hmem | hmem
  · have hraised := h.raised r hr
    have hlimited := h.limited r hr hmem
    omega
  · rw [List.count_eq_zero.2 hmem]
    exact Nat.zero_le _

end Registered

/-- A list of names among different ones is as long as it counts of each. -/
theorem length_eq_sum_count {names applied : List String} (hn : names.Nodup)
    (h : ∀ name ∈ applied, name ∈ names) :
    applied.length = (names.map fun name => applied.count name).sum := by
  have hcard := Multiset.sum_count_eq_card (s := names.toFinset) (m := (applied : Multiset String))
    fun name hmem => List.mem_toFinset.2 (h name hmem)
  rw [List.sum_toFinset _ hn] at hcard
  simp only [Multiset.coe_card, Multiset.coe_count] at hcard
  exact hcard.symm

/-- The patches of a run are no more than all limits together. -/
theorem Counted.length_le {engine : Engine} {start last : Json} {applied : List String}
    (hs : engine.registry.Sound) (h : engine.Counted start applied last) :
    applied.length ≤ (engine.registry.rules.map fun r => r.rule.maxIterations.toNat).sum := by
  rw [length_eq_sum_count hs.nodup h.registered, List.map_map]
  refine List.sum_le_sum fun r hr => ?_
  exact Nat.le_trans (h.count_le hr) (Nat.sub_le _ _)

/-- **The bounds on the patches of a run.**  Take the registry of any list of rules, none of them
called by a fingerprint or annotating below the prefix of the breaker, and any run from any
document.  The counter of each rule has been raised by the number of patches of the rule, which is
at most what was left of the limit at the start; where a further patch would be made, the next count
is greater by one; and all patches together are no more than all limits together. -/
theorem applied_le_of_run {rules : List Rule} {registry : Registry}
    (hbuild : Registry.build rules = .ok registry) {keyPrefix : String}
    (hapart : registry.NamesApart) (hreserved : Reserved ⟨registry, keyPrefix⟩) {start last : Json}
    (hc : start.IsCanonical) {applied : List String}
    (hrun : Run ⟨registry, keyPrefix⟩ start applied last) :
    (∀ r ∈ registry.rules,
      (Breaker.count ⟨keyPrefix, r⟩ last).toNat
          = (Breaker.count ⟨keyPrefix, r⟩ start).toNat + applied.count r.fingerprint
        ∧ applied.count r.fingerprint
          ≤ r.rule.maxIterations.toNat - (Breaker.count ⟨keyPrefix, r⟩ start).toNat
        ∧ ∀ now after, admit? ⟨registry, keyPrefix⟩ r.fingerprint now last = some after →
          (Breaker.next (Breaker.count ⟨keyPrefix, r⟩ last)).toNat
            = (Breaker.count ⟨keyPrefix, r⟩ last).toNat + 1)
      ∧ applied.length ≤ (registry.rules.map fun r => r.rule.maxIterations.toNat).sum := by
  have hs := Registry.sound_of_build hbuild
  have hcounted := hrun.counted hs hapart hreserved hc
  refine ⟨fun r hr => ⟨hcounted.raised r hr, hcounted.count_le hr, ?_⟩, hcounted.length_le hs⟩
  intro now after hadmit
  obtain ⟨_, s, hsr, hfp, hlt, _, _⟩ :=
    count_of_admit? hs hapart hreserved hcounted.isCanonical hadmit
  obtain rfl := hs.eq_of_fingerprint_eq hsr hr hfp
  exact Breaker.toNat_next_of_lt hlt

/-- A rule that sets a label of its name. -/
def labelRule (name : String) (limit : UInt32) : Rule :=
  { (default : Rule) with
    name
    maxIterations := limit
    labels := .ofList [(name, "on")] }

/-- An engine with two such rules. -/
def labeller : Engine :=
  ⟨⟨[⟨"9224e321b26fbec5", labelRule "a" 3⟩, ⟨"a40b9cc7f4a4b5b9", labelRule "b" 1⟩]⟩, "example.org"⟩

/-- A pod with the two counters, the times of the rules that have changed it, and some labels. -/
def labelled (a b : String) (times labels : List String) : Json :=
  let annotations := times.map fun name => ("example.org/" ++ name, "1970-01-01T00:00:00Z")
  .obj [("metadata", .obj [
      ("annotations", stringMap (.ofList ([("example.org/9224e321b26fbec5", a),
        ("example.org/a40b9cc7f4a4b5b9", b)] ++ annotations))),
      ("labels", stringMap (.ofList (labels.map fun name => (name, "on"))))]),
    ("spec", .obj [])]

/-- To set and to remove labels leaves the annotations as they are. -/
theorem Step.relabelled {engine : Engine} {a b : String} {times before : List String}
    (after : List String) (hc : (labelled a b times after).canonical = labelled a b times after) :
    engine.Step (labelled a b times before) none (labelled a b times after) :=
  .edited (hc ▸ isCanonical_canonical _) fun _ => rfl

/-- The one rule has changed the pod once and may do so three times, the counter of the other is no
number.  Each rule sets its label and somebody removes the labels; the first does so again and they
are removed again; then the breaker of the first rule trips. -/
theorem applied_le_of_run_of_two :
    Registry.build [labelRule "a" 3, labelRule "b" 1] = .ok labeller.registry
      ∧ labeller.registry.NamesApart ∧ labeller.Reserved
      ∧ labeller.Run (labelled "1" "many" [] [])
        ["9224e321b26fbec5", "a40b9cc7f4a4b5b9", "9224e321b26fbec5"]
        (labelled "3" "1" ["a", "b"] [])
      ∧ labeller.mutate "9224e321b26fbec5" (Pod.view (labelled "3" "1" ["a", "b"] [])) .epoch
        = .ok (.iterationLimitReached "a" 3)
      ∧ (labeller.registry.rules.map fun r =>
          (Breaker.count ⟨"example.org", r⟩ (labelled "1" "many" [] []),
            Breaker.count ⟨"example.org", r⟩ (labelled "3" "1" ["a", "b"] [])))
        = [(1, 3), (0, 1)]
      ∧ (∀ r ∈ labeller.registry.rules,
        ["9224e321b26fbec5", "a40b9cc7f4a4b5b9", "9224e321b26fbec5"].count r.fingerprint
          ≤ r.rule.maxIterations.toNat
            - (Breaker.count ⟨"example.org", r⟩ (labelled "1" "many" [] [])).toNat)
      ∧ ["9224e321b26fbec5", "a40b9cc7f4a4b5b9", "9224e321b26fbec5"].length
        ≤ (labeller.registry.rules.map fun r => r.rule.maxIterations.toNat).sum := by
  have hbuild : Registry.build [labelRule "a" 3, labelRule "b" 1] = .ok labeller.registry := by
    decide +kernel
  have hapart : labeller.registry.NamesApart := by
    unfold Registry.NamesApart
    decide +kernel
  have hreserved : labeller.Reserved := by
    intro r hr rest
    rcases List.mem_pair.1 hr with rfl | rfl <;> rfl
  have hc : (labelled "1" "many" [] []).IsCanonical :=
    isCanonical_canonical (labelled "1" "many" [] [])
  have hfirst : labeller.admit? "9224e321b26fbec5" .epoch (labelled "1" "many" [] [])
      = some (labelled "2" "many" ["a"] ["a"]) := by decide +kernel
  have hother : labeller.admit? "a40b9cc7f4a4b5b9" .epoch (labelled "2" "many" ["a"] ["a"])
      = some (labelled "2" "1" ["a", "b"] ["a", "b"]) := by decide +kernel
  have hsecond : labeller.admit? "9224e321b26fbec5" .epoch (labelled "2" "1" ["a", "b"] [])
      = some (labelled "3" "1" ["a", "b"] ["a"]) := by decide +kernel
  have hlast : labeller.admit? "9224e321b26fbec5" .epoch (labelled "3" "1" ["a", "b"] [])
      = none := by decide +kernel
  have hrun : labeller.Run (labelled "1" "many" [] [])
      ["9224e321b26fbec5", "a40b9cc7f4a4b5b9", "9224e321b26fbec5"]
      (labelled "3" "1" ["a", "b"] []) :=
    Run.start
    |>.step (.admitted hfirst)
    |>.step (.admitted hother)
    |>.step (.relabelled [] (by decide +kernel))
    |>.step (.admitted hsecond)
    |>.step (.relabelled [] (by decide +kernel))
    |>.step (.declined hlast)
  have hbounds := applied_le_of_run hbuild hapart hreserved hc hrun
  exact ⟨hbuild, hapart, hreserved, hrun, by decide +kernel, by decide +kernel,
    fun r hr => (hbounds.1 r hr).2.1, hbounds.2⟩

end Engine

end Sidecar
