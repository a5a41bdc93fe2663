/-
**What a rule declares in the metadata, and what arrives there.**

The labels of a rule have a map of their own, and a patch that has been applied has set each of
them.  The annotations of a rule share theirs with the notes of the breaker, which are put over
them: under the name where the breaker notes the time, and under that where it counts, what the rule
declares is lost unless it is what the breaker would write.  Everywhere else it arrives, whatever
stood there before.

Main definition: `Sidecar.Breaker.Agrees` — an annotation is not written over with another text.

Main results:

* `Sidecar.Breaker.agrees_of_foreign` — **outside the breaker's domain nothing is lost**;
* `Sidecar.Contribution.find?_annotations_onPod_iff` — which annotations an injection leaves behind;
* `Sidecar.Engine.delivered_iff_of_admit?` — **what an applied patch delivers**;
* `Sidecar.Engine.annotation_lost_of_own_name` — a rule that annotates under its own name.
-/

import Sidecar.Proofs.Injection.Readmission

set_option autoImplicit false

namespace Sidecar

open Cluster Injection Json

/-! ### The notes of the breaker -/

namespace Breaker

variable (b : Breaker) (n : UInt32) (now : Timestamp)

/-- **An annotation agrees with what the breaker notes after a change**: under the name of the time
it is the time, and under that of the counter the next count.  Where the two names are one, the time
stands. -/
def Agrees (name text : String) : Prop :=
  (name = b.timestampKey → text = now.roundToSecond.render)
    ∧ (name = b.counterKey → name ≠ b.timestampKey → text = toString (next n).toNat)

/-- It agrees exactly if the breaker has nothing else to note under its name. -/
theorem agrees_iff {name text : String} :
    b.Agrees n now name text
      ↔ ∀ other, (b.bookkeeping n now).find? name = some other → other = text := by
  rw [find?_bookkeeping]
  constructor
  · rintro ⟨htime, hcount⟩ other h
    split at h
    · next heq => exact (Option.some.inj h).symm.trans (htime heq.symm).symm
    · next hne =>
      split at h
      · next heq => exact (Option.some.inj h).symm.trans (hcount heq.symm (Ne.symm hne)).symm
      · cases h
  · intro h
    constructor
    · rintro rfl
      exact (h _ (if_pos rfl)).symm
    · rintro rfl hne
      exact (h _ ((if_neg (Ne.symm hne)).trans (if_pos rfl))).symm

/-- **Outside the breaker's domain nothing is lost**: an annotation whose name does not begin with
the prefix and a slash agrees. -/
theorem agrees_of_foreign {name text : String} (h : ∀ rest, name ≠ b.keyPrefix ++ "/" ++ rest) :
    b.Agrees n now name text := by
  constructor
  · intro htime
    unfold timestampKey at htime
    split at htime
    · rw [String.append_assoc] at htime
      exact absurd htime (h _)
    · exact absurd htime (h _)
  · intro hcount
    exact absurd hcount (h _)

end Breaker

/-! ### The metadata of a pod after an injection -/

namespace Contribution

variable (c : Contribution)

/-- **A pod has an annotation of a contribution that was injected exactly if that agrees with the
breaker's notes.** -/
theorem find?_annotations_onPod_iff (b : Breaker) (n : UInt32) (now : Timestamp) (pod : Pod)
    {name text : String} (h : c.annotations.find? name = some text) :
    (c.onPod (b.bookkeeping n now) pod).annotations.bind (·.find? name) = some text
      ↔ b.Agrees n now name text := by
  rw [Breaker.agrees_iff]
  exact StringMap.find?_onto_override_iff h pod.annotations

end Contribution

/-! ### The metadata of a pod after an admission -/

namespace Engine

/-- **What an applied patch delivers.**  A registered rule's patch has been applied to a pod.  Then
the pod has each label that the rule declares, and it has an annotation that the rule declares
exactly if this agrees with what the breaker notes after the change: it stands neither where the
breaker notes the time nor where it counts, or it is the text that the breaker writes there. -/
theorem delivered_iff_of_admit? {rules : List Rule} {registry : Registry}
    (hbuild : Registry.build rules = .ok registry) {r : RegisteredRule} (hr : r ∈ registry.rules)
    {keyPrefix : String} {before after : Json} (hc : before.IsCanonical) {now : Timestamp}
    (hadmitted : admit? ⟨registry, keyPrefix⟩ r.fingerprint now before = some after) :
    ∃ pod, Pod.ofJson? after = some pod
      ∧ (∀ name text, r.rule.labels.find? name = some text →
        pod.labels.bind (·.find? name) = some text)
      ∧ ∀ name text, r.rule.annotations.find? name = some text →
        (pod.annotations.bind (·.find? name) = some text
          ↔ Breaker.Agrees ⟨keyPrefix, r⟩ (Breaker.count ⟨keyPrefix, r⟩ before) now name text) := by
  have hs := Registry.sound_of_build hbuild
  obtain ⟨_, s, hsr, hsame, _, c, hcontent, pod, spec, _, _, hafter⟩ :=
    exists_onPod_of_admit? hs hc hadmitted
  obtain rfl := hs.eq_of_fingerprint_eq hsr hr hsame
  obtain ⟨_, _, _, _, _, hlabels, hannotations⟩ := Rule.contribution_eq_ok_iff.1 hcontent
  refine ⟨_, hafter, ?_, fun name text hdeclared => ?_⟩
  · rw [← hlabels]
    exact Contribution.within_onto c.labels pod.labels
  · rw [← hannotations] at hdeclared
    exact c.find?_annotations_onPod_iff _ _ now pod hdeclared

/-- A label and an annotation that stood on a pod with other texts are replaced by those of a rule;
what the rule annotates under its own name is not there. -/
theorem delivered_of_label_and_note :
    ∃ (registry : Registry) (after : Json) (pod : Pod),
      Registry.build [{ (default : Rule) with
          name := "a", labels := .ofList [("tier", "web")]
          annotations := .ofList [("note", "kept"), ("example.org/a", "x")] }] = .ok registry
        ∧ admit? ⟨registry, "example.org"⟩ "ac69c2ca974c22f1" .epoch
          (.obj [("metadata", .obj [("annotations", .obj [("note", .str "old")]),
              ("labels", .obj [("tier", .str "db")])]),
            ("spec", .obj [])]) = some after
        ∧ Pod.ofJson? after = some pod
        ∧ pod.labels.bind (·.find? "tier") = some "web"
        ∧ pod.annotations.bind (·.find? "note") = some "kept"
        ∧ pod.annotations.bind (·.find? "example.org/a") ≠ some "x" := by
  have hbuild : Registry.build [{ (default : Rule) with
      name := "a", labels := .ofList [("tier", "web")]
      annotations := .ofList [("note", "kept"), ("example.org/a", "x")] }]
        = .ok ⟨[⟨"ac69c2ca974c22f1", { (default : Rule) with
          name := "a", labels := .ofList [("tier", "web")]
          annotations := .ofList [("note", "kept"), ("example.org/a", "x")] }⟩]⟩ := by
    decide +kernel
  have hadmitted : admit? ⟨⟨[⟨"ac69c2ca974c22f1", { (default : Rule) with
      name := "a", labels := .ofList [("tier", "web")]
      annotations := .ofList [("note", "kept"), ("example.org/a", "x")] }⟩]⟩,
        "example.org"⟩ "ac69c2ca974c22f1" .epoch
      (.obj [("metadata", .obj [("annotations", .obj [("note", .str "old")]),
          ("labels", .obj [("tier", .str "db")])]),
        ("spec", .obj [])])
      = some (.obj [("metadata", .obj [("annotations",
            .obj [("example.org/a", .str "1970-01-01T00:00:00Z"),
              ("example.org/ac69c2ca974c22f1", .str "1"), ("note", .str "kept")]),
          ("labels", .obj [("tier", .str "web")])]),
        ("spec", .obj [])]) := by
    decide +kernel
  obtain ⟨pod, hpod, hlabels, hannotations⟩ := delivered_iff_of_admit? hbuild
    (List.mem_singleton.2 rfl) (isCanonical_canonical
      (.obj [("metadata", .obj [("annotations", .obj [("note", .str "old")]),
          ("labels", .obj [("tier", .str "db")])]),
        ("spec", .obj [])])) hadmitted
  refine ⟨_, _, pod, hbuild, hadmitted, hpod, hlabels _ _ (by decide +kernel), ?_, ?_⟩
  · refine (hannotations "note" "kept" (by decide +kernel)).2
      (Breaker.agrees_of_foreign _ 0 .epoch fun rest h => ?_)
    simpa using congrArg (·.toList.head?) h
  · intro hkept
    have htime := ((hannotations "example.org/a" "x" (by decide +kernel)).1 hkept).1
    exact absurd (htime (by decide +kernel)) (by decide +kernel)

/-- What a rule annotates under the prefix and its own name is lost: the breaker's time stands
there, and the rule is patched in again. -/
theorem annotation_lost_of_own_name :
    ∃ (registry : Registry) (before after : Json) (pod : Pod),
      Registry.build [{ (default : Rule) with
          name := "a", maxIterations := 2
          annotations := .ofList [("example.org/a", "x")] }] = .ok registry
        ∧ before.IsCanonical
        ∧ admit? ⟨registry, "example.org"⟩ "408dbeaf01ac33d1" .epoch before = some after
        ∧ Pod.ofJson? after = some pod
        ∧ pod.annotations.bind (·.find? "example.org/a") = some "1970-01-01T00:00:00Z"
        ∧ (admit? ⟨registry, "example.org"⟩ "408dbeaf01ac33d1" .epoch after).isSome = true :=
  ⟨⟨[⟨"408dbeaf01ac33d1", { (default : Rule) with
      name := "a", maxIterations := 2
      annotations := .ofList [("example.org/a", "x")] }⟩]⟩,
    .canonical (.obj [("metadata", .obj []), ("spec", .obj [])]),
    .obj [("metadata", .obj [("annotations", .obj [("example.org/408dbeaf01ac33d1", .str "1"),
        ("example.org/a", .str "1970-01-01T00:00:00Z")])]), ("spec", .obj [])],
    ⟨none, some (.ofList [("example.org/a", "1970-01-01T00:00:00Z"),
      ("example.org/408dbeaf01ac33d1", "1")]), some ⟨[], [], [], .absent, []⟩⟩,
    by decide +kernel, isCanonical_canonical _, by decide +kernel, by decide +kernel,
    by decide +kernel, by decide +kernel⟩

end Engine

end Sidecar
