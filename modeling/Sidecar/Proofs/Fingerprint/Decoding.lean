/-
**Reading a rule back from its bytes.**

Of a rule without blanks all that is fed can be read back, field by field and however deep it
stands.  Blanks are the texts and the elements that feed nothing, where they stand in a list; names
and texts of maps may be empty, numbers may have any bytes, and what is absent is told from what is
there without content.

Main definitions:

* `Sidecar.Rule.texts`, `Sidecar.Rule.requirements`, `Sidecar.Rule.terms`, `Sidecar.Rule.items`,
  `Sidecar.Rule.mounts` — what stands in the lists of a rule, at whatever depth;
* `Sidecar.Rule.WithoutBlanks` — nothing in these lists is blank;
* `Sidecar.Rule.ofFeed?` — **the decoder.**

Main results:

* `Sidecar.Rule.WithoutBlanks.solid` — such a rule is solid;
* `Sidecar.Rule.ofFeed?_feed` — **the decoder gives back every field but the name.**
-/

import Sidecar.Proofs.Fingerprint.Rules

set_option autoImplicit false

namespace Sidecar

namespace Rule

/-! ### What stands in the lists of a rule -/

section Lists

variable (r : Rule)

/-- The selectors of objects and of namespaces. -/
def selectors : List LabelSelector :=
  r.labelSelector.toList ++ r.namespaceSelector.toList

/-- The terms of the node selector. -/
def terms : List NodeSelectorTerm :=
  r.affinity.toList.flatMap Affinity.terms

/-- The requirements of all selectors, those of nodes included. -/
def requirements : List Requirement :=
  r.selectors.flatMap (·.matchExpressions)
    ++ r.terms.flatMap fun t => t.matchExpressions ++ t.matchFields

/-- The keys that become files in the volumes. -/
def items : List KeyToPath :=
  r.volumes.flatMap fun v =>
    v.configMap.toList.flatMap (·.items) ++ v.secret.toList.flatMap (·.items)

/-- The mounts for the pod's containers, and those of the rule's own. -/
def mounts : List VolumeMount :=
  r.volumeMounts ++ r.containers.flatMap (·.volumeMounts)

/-- The texts in lists: commands, arguments, and values of requirements. -/
def texts : List String :=
  r.containers.flatMap (fun c => c.command ++ c.args) ++ r.requirements.flatMap (·.values)

/-- **No list in the rule holds an empty text or an element that feeds nothing.** -/
structure WithoutBlanks : Prop where
  texts : ∀ s ∈ r.texts, s ≠ ""
  requirements : ∀ x ∈ r.requirements, x.feed ≠ []
  terms : ∀ t ∈ r.terms, t.feed ≠ []
  tolerations : ∀ t ∈ r.tolerations, t.feed ≠ []
  containers : ∀ c ∈ r.containers, c.feed ≠ []
  env : ∀ c ∈ r.containers, ∀ v ∈ c.env, v.feed ≠ []
  ports : ∀ c ∈ r.containers, ∀ p ∈ c.ports, p.feed ≠ []
  volumes : ∀ v ∈ r.volumes, v.feed ≠ []
  items : ∀ k ∈ r.items, k.feed ≠ []
  mounts : ∀ m ∈ r.mounts, m.feed ≠ []

end Lists

/-! ### Such a rule is solid -/

/-- A list in which nothing feeds nothing is solid. -/
theorem solid_of_forall {α : Type} {feed : α → Feed} {values : List α}
    (h : ∀ a ∈ values, feed a ≠ []) : Feed.Solid feed values :=
  fun a ha => h a (List.mem_of_mem_tail ha)

/-- A text that is not empty feeds something. -/
theorem utf8_ne_nil {s : String} (h : s ≠ "") : Feed.utf8 s ≠ [] := by
  intro hnil
  have hread := Feed.text?_utf8 s
  rw [hnil] at hread
  exact h (Option.some.inj hread).symm

namespace WithoutBlanks

variable {r : Rule} (h : r.WithoutBlanks)

include h

/-- The values of a requirement are solid. -/
theorem solid_requirement {x : Requirement} (hx : x ∈ r.requirements) : x.Solid :=
  solid_of_forall fun _ hs => utf8_ne_nil <| h.texts _ <| List.mem_append_right _ <|
    List.mem_flatMap.2 ⟨x, hx, hs⟩

theorem solid_labelSelector {s : LabelSelector} (hs : s ∈ r.selectors) : s.Solid := by
  have hmem : ∀ x ∈ s.matchExpressions, x ∈ r.requirements := fun x hx =>
    List.mem_append_left _ (List.mem_flatMap.2 ⟨s, hs, hx⟩)
  exact ⟨solid_of_forall fun x hx => h.requirements x (hmem x hx),
    fun x hx => h.solid_requirement (hmem x hx)⟩

theorem solid_affinity {a : Affinity} (ha : a ∈ r.affinity) : a.Solid := by
  intro n hn s hs
  have hterm : ∀ t ∈ s.nodeSelectorTerms, t ∈ r.terms := by
    intro t ht
    refine List.mem_flatMap.2 ⟨a, Option.mem_toList.2 ha, ?_⟩
    rw [Option.mem_def] at hn hs
    simpa [Affinity.terms, hn, hs] using ht
  refine ⟨solid_of_forall fun t ht => h.terms t (hterm t ht), fun t ht => ?_⟩
  have hmem : ∀ x ∈ t.matchExpressions ++ t.matchFields, x ∈ r.requirements := fun x hx =>
    List.mem_append_right _ (List.mem_flatMap.2 ⟨t, hterm t ht, hx⟩)
  refine ⟨solid_of_forall fun x hx => ?_, solid_of_forall fun x hx => ?_,
    fun x hx => h.solid_requirement (hmem x hx)⟩
  · exact h.requirements x (hmem x (List.mem_append_left _ hx))
  · exact h.requirements x (hmem x (List.mem_append_right _ hx))

theorem solid_container {c : Container} (hc : c ∈ r.containers) : c.Solid := by
  have htext : ∀ s ∈ c.command ++ c.args, Feed.utf8 s ≠ [] := fun s hs =>
    utf8_ne_nil (h.texts s (List.mem_append_left _ (List.mem_flatMap.2 ⟨c, hc, hs⟩)))
  refine ⟨solid_of_forall fun s hs => htext s (List.mem_append_left _ hs),
    solid_of_forall fun s hs => htext s (List.mem_append_right _ hs),
    solid_of_forall (h.env c hc), solid_of_forall fun m hm => ?_⟩
  exact h.mounts m (List.mem_append_right _ (List.mem_flatMap.2 ⟨c, hc, hm⟩))

theorem solid_volume {v : Volume} (hv : v ∈ r.volumes) : v.Solid := by
  constructor
  · intro s hs
    refine solid_of_forall fun k hk => h.items k (List.mem_flatMap.2 ⟨v, hv, ?_⟩)
    exact List.mem_append_left _ (List.mem_flatMap.2 ⟨s, Option.mem_toList.2 hs, hk⟩)
  · intro s hs
    refine solid_of_forall fun k hk => h.items k (List.mem_flatMap.2 ⟨v, hv, ?_⟩)
    exact List.mem_append_right _ (List.mem_flatMap.2 ⟨s, Option.mem_toList.2 hs, hk⟩)

/-- **A rule without blanks is solid**, each of its lists from the first element on. -/
theorem solid : r.Solid where
  labelSelector _ hs :=
    h.solid_labelSelector (List.mem_append_left _ (Option.mem_toList.2 hs))
  namespaceSelector _ hs :=
    h.solid_labelSelector (List.mem_append_right _ (Option.mem_toList.2 hs))
  affinity _ ha := h.solid_affinity ha
  tolerations := solid_of_forall h.tolerations
  containers := solid_of_forall h.containers
  eachContainer _ hc := h.solid_container hc
  volumes := solid_of_forall h.volumes
  eachVolume _ hv := h.solid_volume hv
  volumeMounts := solid_of_forall fun m hm => h.mounts m (List.mem_append_left _ hm)

end WithoutBlanks

/-! ### The decoder -/

/-- **The rule that bytes were fed by**, without a name. -/
def ofFeed? (bytes : Feed) : Option Rule :=
  layout.read? bytes

/-- **The decoder gives back every field but the name** of a rule without blanks. -/
theorem ofFeed?_feed {r : Rule} (h : r.WithoutBlanks) :
    ofFeed? r.feed = some { r with name := "" } :=
  read?_feed h.solid

/-- An entry with neither name nor text, a number of sentinels alone, and a selector that is there
without content beside one that is absent. -/
theorem ofFeed?_feed_of_sentinels :
    ofFeed? { (default : Rule) with
        name := "a", maxIterations := 0xffffffff
        labelSelector := some ⟨.empty, []⟩
        labels := .ofList [("", ""), ("b", "")]
        tolerations := [⟨"", "", "", "", some (-1)⟩]
        containers := [{ (default : Container) with name := "c", command := ["labels:"] }] }.feed
      = some { (default : Rule) with
        maxIterations := 0xffffffff
        labelSelector := some ⟨.empty, []⟩
        labels := .ofList [("", ""), ("b", "")]
        tolerations := [⟨"", "", "", "", some (-1)⟩]
        containers := [{ (default : Container) with name := "c", command := ["labels:"] }] } :=
  ofFeed?_feed (by constructor <;> decide +kernel)

end Rule

end Sidecar
