/-
**What a fingerprint tells apart.**

The bytes that a rule feeds determine all of the rule but its name, as long as no list in it holds,
behind its first element, one that feeds nothing: the bytes of such a rule can be read back.  Where
a list does hold one, the sentinel behind that element also ends the list, and what follows may be
read as something else.  So a container with a list that ends with one feeds the same as two
containers, the second of them without a name.

Main definitions:

* `Sidecar.Rule.content` — all of a rule but its name;
* `Sidecar.Rule.Solid` — no list in the rule holds, behind its first element, one that feeds
  nothing;
* `Sidecar.Rule.layout` — the fields of a rule as they are fed and read;
* `Sidecar.Rule.Container.EndsBlank` — some list of the container ends, behind another element, with
  one that feeds nothing.

Main results:

* `Sidecar.Rule.read?_feed` — **the content of a solid rule is read back from its bytes;**
* `Sidecar.Rule.feed_eq_feed_iff` — **solid rules feed the same exactly if their contents are the
  same;**
* `Sidecar.Rule.exists_feed_eq_of_endsBlank` — a valid rule with a container's list that ends blank
  always shares its bytes with another;
* `Sidecar.Registry.build_eq_ok_of_solid` — solid rules of different contents are registered
  together unless their digests collide.
-/

import Sidecar.Proofs.Fingerprint.Records
import Sidecar.Proofs.Registered
import Sidecar.Proofs.Rule.Conversion

set_option autoImplicit false

namespace Sidecar

open Feed (Differ Layout element sentinel)

namespace Rule

/-- All of a rule but its name. -/
def content (r : Rule) : Rule := { r with name := "" }

/-- The name feeds nothing. -/
theorem feed_content (r : Rule) : r.content.feed = r.feed := rfl

/-! ### Rules that are read back -/

section Layout

open Feed.Layout

/-- The fields of a rule, of which the name is not one. -/
def layout : Layout Rule :=
  (((((((((uint32 "maxIterations").seq (optNested "labelSelector" LabelSelector.layout)).seq
      (optNested "namespaceSelector" LabelSelector.layout)).seq (stringMap "labels")).seq
      (stringMap "annotations")).seq (optNested "affinity" Affinity.layout)).seq
      (records "tolerations" Toleration.layout)).seq
      (records "containers" Container.layout)).seq (records "volumes" Volume.layout)).seq
      (records "volumeMounts" VolumeMount.layout)
    |>.map
      (fun (((((((((limit, selector), namespaces), labels), annotations), affinity), tolerations),
          containers), volumes), mounts) =>
        ⟨"", limit, selector, namespaces, labels, annotations, affinity, tolerations, containers,
          volumes, mounts⟩)
      fun r => (((((((((r.maxIterations, r.labelSelector), r.namespaceSelector), r.labels),
        r.annotations), r.affinity), r.tolerations), r.containers), r.volumes), r.volumeMounts)

/-- No list in the rule holds, behind its first element, one that feeds nothing. -/
structure Solid (r : Rule) : Prop where
  labelSelector : ∀ s ∈ r.labelSelector, s.Solid
  namespaceSelector : ∀ s ∈ r.namespaceSelector, s.Solid
  affinity : ∀ a ∈ r.affinity, a.Solid
  tolerations : Feed.Solid Toleration.feed r.tolerations
  containers : Feed.Solid Container.feed r.containers
  eachContainer : ∀ c ∈ r.containers, c.Solid
  volumes : Feed.Solid Volume.feed r.volumes
  eachVolume : ∀ v ∈ r.volumes, v.Solid
  volumeMounts : Feed.Solid VolumeMount.feed r.volumeMounts

theorem differ : layout.tags.Pairwise Differ := by decide +kernel

theorem recovers {r : Rule} (h : r.Solid) : layout.Recovers r.content := by
  have hselector : (optNested "labelSelector" LabelSelector.layout).Recovers r.labelSelector :=
    recovers_optNested LabelSelector.differ
      fun s hs => LabelSelector.recovers (h.labelSelector s hs)
  have hnamespaces :
      (optNested "namespaceSelector" LabelSelector.layout).Recovers r.namespaceSelector :=
    recovers_optNested LabelSelector.differ
      fun s hs => LabelSelector.recovers (h.namespaceSelector s hs)
  have haffinity : (optNested "affinity" Affinity.layout).Recovers r.affinity :=
    recovers_optNested Affinity.differ fun a ha => Affinity.recovers (h.affinity a ha)
  have htolerations : (records "tolerations" Toleration.layout).Recovers r.tolerations :=
    recovers_records Toleration.differ h.tolerations fun t _ => Toleration.recovers t
  have hcontainers : (records "containers" Container.layout).Recovers r.containers :=
    recovers_records Container.differ h.containers
      fun c hc => Container.recovers (h.eachContainer c hc)
  have hvolumes : (records "volumes" Volume.layout).Recovers r.volumes :=
    recovers_records Volume.differ h.volumes fun v hv => Volume.recovers (h.eachVolume v hv)
  have hmounts : (records "volumeMounts" VolumeMount.layout).Recovers r.volumeMounts :=
    recovers_records VolumeMount.differ h.volumeMounts fun m _ => VolumeMount.recovers m
  exact .map ((((((((((recovers_uint32 _ _).seq hselector).seq hnamespaces).seq
    (recovers_stringMap _ _)).seq (recovers_stringMap _ _)).seq haffinity).seq htolerations).seq
      hcontainers).seq hvolumes).seq hmounts) rfl

/-- **The content of a solid rule is read back** from the bytes that the rule feeds. -/
theorem read?_feed {r : Rule} (h : r.Solid) : layout.read? r.feed = some r.content :=
  Feed.Layout.read?_feed differ (recovers h)

/-- **Solid rules feed the same exactly if their contents are the same.** -/
theorem feed_eq_feed_iff {a b : Rule} (ha : a.Solid) (hb : b.Solid) :
    a.feed = b.feed ↔ a.content = b.content := by
  constructor
  · intro h
    have hread := read?_feed ha
    rw [h, read?_feed hb] at hread
    exact (Option.some.inj hread).symm
  · intro h
    rw [← feed_content a, ← feed_content b, h]

end Layout

/-! ### Lists that are mistaken -/

namespace Container

/-- Some list of the container ends with a blank element; ports are never blank. -/
def EndsBlank (c : Container) : Prop :=
  Feed.EndsBlank Feed.utf8 c.command ∨ Feed.EndsBlank Feed.utf8 c.args
    ∨ Feed.EndsBlank EnvVar.feed c.env ∨ Feed.EndsBlank VolumeMount.feed c.volumeMounts

/-- What has to be converted in one container stands in another, too. -/
structure Within (d c : Container) : Prop where
  imagePullPolicy : d.imagePullPolicy = "" ∨ d.imagePullPolicy = c.imagePullPolicy
  ports : d.ports ⊆ c.ports
  resources : d.resources = none ∨ d.resources = c.resources
  volumeMounts : d.volumeMounts ⊆ c.volumeMounts

theorem Within.exists_toCluster {d c : Container} (hd : d.Within c)
    (h : ∃ k, c.toCluster = .ok k) : ∃ k, d.toCluster = .ok k := by
  obtain ⟨hpolicy, hports, hresources, hmounts⟩ := exists_toCluster_iff.1 h
  refine exists_toCluster_iff.2 ⟨?_, ?_, ?_, ?_⟩
  · rcases hd.imagePullPolicy with heq | heq
    · exact fun hne => absurd heq hne
    · rwa [heq]
  · rw [exists_mapM_eq_ok_iff] at hports ⊢
    exact fun p hp => hports p (hd.ports hp)
  · rcases hd.resources with heq | heq
    · exact ⟨none, by rw [heq]; rfl⟩
    · rwa [heq]
  · rw [exists_mapM_eq_ok_iff] at hmounts ⊢
    exact fun m hm => hmounts m (hd.volumeMounts hm)

/-- **A container with a list that ends blank feeds what two containers feed**: one up to that
list, and one, without a name, from there on. -/
theorem EndsBlank.exists_split {c : Container} (h : c.EndsBlank) :
    ∃ d e : Container, d.Within c ∧ e.Within c
      ∧ element c.feed = element d.feed ++ element e.feed := by
  rcases h with h | h | h | h
  · obtain ⟨command, _, hlist⟩ := h.exists_list_eq "command"
    refine ⟨{ c with
        command, args := [], env := [], ports := [], resources := none, volumeMounts := [] },
      { c with name := "", image := "", imagePullPolicy := "", command := [] },
      ⟨.inr rfl, List.nil_subset _, .inl rfl, List.nil_subset _⟩,
      ⟨.inl rfl, List.Subset.refl _, .inr rfl, List.Subset.refl _⟩, ?_⟩
    simp [feed, hlist, element, Feed.texts, Feed.optNested, Feed.optional]
  · obtain ⟨args, _, hlist⟩ := h.exists_list_eq "args"
    refine ⟨{ c with args, env := [], ports := [], resources := none, volumeMounts := [] },
      { c with name := "", image := "", imagePullPolicy := "", command := [], args := [] },
      ⟨.inr rfl, List.nil_subset _, .inl rfl, List.nil_subset _⟩,
      ⟨.inl rfl, List.Subset.refl _, .inr rfl, List.Subset.refl _⟩, ?_⟩
    simp [feed, hlist, element, Feed.texts, Feed.optNested, Feed.optional]
  · obtain ⟨env, _, hlist⟩ := h.exists_list_eq "env"
    refine ⟨{ c with env, ports := [], resources := none, volumeMounts := [] },
      { c with
        name := "", image := "", imagePullPolicy := "", command := [], args := [], env := [] },
      ⟨.inr rfl, List.nil_subset _, .inl rfl, List.nil_subset _⟩,
      ⟨.inl rfl, List.Subset.refl _, .inr rfl, List.Subset.refl _⟩, ?_⟩
    simp [feed, hlist, element, Feed.texts, Feed.optNested, Feed.optional]
  · -- nothing is left for the second container, which is blank itself
    obtain ⟨volumeMounts, hsubset, hlist⟩ := h.exists_list_eq "volumeMounts"
    refine ⟨{ c with volumeMounts }, default,
      ⟨.inr rfl, List.Subset.refl _, .inr rfl, hsubset⟩,
      ⟨.inl rfl, List.nil_subset _, .inl rfl, List.nil_subset _⟩, ?_⟩
    have hdefault : element (default : Container).feed = [sentinel] := by decide +kernel
    rw [hdefault]
    simp [feed, hlist, element]

end Container

/-- A valid rule stays valid with other containers if these can be converted. -/
theorem validate_withContainers {r : Rule} (h : r.validate = .ok ()) {containers : List Container}
    (hcontainers : ∀ c ∈ containers, ∃ k, c.toCluster = .ok k) :
    { r with containers }.validate = .ok () := by
  obtain ⟨hname, hlabel, hnamespace, hparts⟩ := validate_eq_ok_iff.1 h
  obtain ⟨affinity, ha, tolerations, ht, _, _, volumes, hv, mounts, hm⟩ :=
    exists_contribution_iff.1 hparts
  obtain ⟨forms, hforms⟩ := exists_mapM_eq_ok_iff.2 hcontainers
  exact validate_eq_ok_iff.2 ⟨hname, hlabel, hnamespace, exists_contribution_iff.2
    ⟨affinity, ha, tolerations, ht, forms, hforms, volumes, hv, mounts, hm⟩⟩

/-- **A container with a list that ends blank is mistaken**: with the container in two a valid rule
is still valid, and feeds the same. -/
theorem exists_feed_eq_of_endsBlank {r : Rule} (hvalid : r.validate = .ok ())
    (h : ∃ c ∈ r.containers, c.EndsBlank) :
    ∃ s : Rule, s.validate = .ok () ∧ s.content ≠ r.content ∧ s.feed = r.feed := by
  obtain ⟨c, hc, hblank⟩ := h
  obtain ⟨d, e, hd, he, hfeed⟩ := hblank.exists_split
  obtain ⟨before, behind, hsplit⟩ := List.append_of_mem hc
  -- all containers of a valid rule can be converted, and the two stand within one of them
  have hconvert : ∀ c ∈ r.containers, ∃ k, c.toCluster = .ok k := by
    obtain ⟨_, _, _, hparts⟩ := validate_eq_ok_iff.1 hvalid
    obtain ⟨_, _, _, _, forms, hforms, _⟩ := exists_contribution_iff.1 hparts
    exact exists_mapM_eq_ok_iff.1 ⟨forms, hforms⟩
  refine ⟨{ r with containers := before ++ d :: e :: behind },
    validate_withContainers hvalid ?_, ?_, ?_⟩
  · intro other hother
    simp only [List.mem_append, List.mem_cons] at hother
    rcases hother with hother | rfl | rfl | hother
    · exact hconvert other (by simp [hsplit, hother])
    · exact hd.exists_toCluster (hconvert c hc)
    · exact he.exists_toCluster (hconvert c hc)
    · exact hconvert other (by simp [hsplit, hother])
  · -- there is one container more
    intro heq
    have hlength := congrArg (·.containers.length) heq
    simp [content, hsplit] at hlength
  · have hlist : Feed.list "containers" (before ++ d :: e :: behind) Container.feed
        = Feed.list "containers" r.containers Container.feed := by
      refine Feed.list_congr (by simp) (by simp [hsplit]) ?_
      simp only [hsplit, List.flatMap_append, List.flatMap_cons, hfeed, List.append_assoc]
    simp only [Rule.feed, hlist]

end Rule

/-! ### Registries -/

namespace Registry

/-- **Solid rules of different contents are registered together** if they are valid and no two of
their digests collide. -/
theorem build_eq_ok_of_solid {rules : List Rule} (hvalid : ∀ r ∈ rules, r.validate = .ok ())
    (hsolid : ∀ r ∈ rules, r.Solid) (hcontent : (rules.map Rule.content).Nodup)
    (hdigest : ∀ a ∈ rules, ∀ b ∈ rules, a.fingerprint = b.fingerprint → a.feed = b.feed) :
    build rules = .ok ⟨rules.map RegisteredRule.ofRule⟩ := by
  refine build_eq_ok_iff.2 ⟨hvalid, ?_, rfl⟩
  refine List.Nodup.map_on ?_ hcontent.of_map
  intro a ha b hb hfingerprint
  -- equal fingerprints, hence equal bytes, hence equal contents
  refine List.inj_on_of_nodup_map hcontent ha hb ?_
  exact (Rule.feed_eq_feed_iff (hsolid a ha) (hsolid b hb)).1 (hdigest a ha b hb hfingerprint)

end Registry

namespace Rule

/-- A rule that adds one container, with a command and arguments. -/
def running (command args : List String) : Rule :=
  { (default : Rule) with
    containers := [{ (default : Container) with name := "c", image := "i", command, args }] }

theorem solid_running {command args : List String} (hcommand : Feed.Solid Feed.utf8 command)
    (hargs : Feed.Solid Feed.utf8 args) : (running command args).Solid where
  labelSelector _ hs := nomatch hs
  namespaceSelector _ hs := nomatch hs
  affinity _ ha := nomatch ha
  tolerations _ ht := nomatch ht
  containers _ hc := nomatch hc
  eachContainer := by
    intro c hc
    obtain rfl := List.mem_singleton.1 hc
    exact ⟨hcommand, hargs, (fun _ hv => nomatch hv), (fun _ hm => nomatch hm)⟩
  volumes _ hv := nomatch hv
  eachVolume _ hv := nomatch hv
  volumeMounts _ hm := nomatch hm

/-- A text of the form of a field hides arguments in a command. -/
theorem feed_eq_of_hidden_arguments :
    (running ["a", "", "args:b"] []).validate = .ok () ∧ (running ["a"] ["b"]).validate = .ok ()
      ∧ (running ["a", "", "args:b"] []).content ≠ (running ["a"] ["b"]).content
      ∧ (running ["a", "", "args:b"] []).feed = (running ["a"] ["b"]).feed := by
  refine ⟨?_, ?_, ?_, ?_⟩ <;> decide +kernel

/-- **What fingerprints tell apart.**  Among valid rules, the bytes of solid ones are the same
exactly if their contents are, and rules of different contents are registered together unless their
digests collide; but a rule with a container's list that ends blank shares its bytes with another
valid rule. -/
theorem feed_determines_content (rules : List Rule)
    (hvalid : ∀ r ∈ rules, r.validate = .ok ()) :
    ((∀ r ∈ rules, r.Solid) →
      (∀ a ∈ rules, ∀ b ∈ rules, (a.feed = b.feed ↔ a.content = b.content))
        ∧ ((rules.map content).Nodup →
          (∀ a ∈ rules, ∀ b ∈ rules, a.fingerprint = b.fingerprint → a.feed = b.feed) →
          Registry.build rules = .ok ⟨rules.map RegisteredRule.ofRule⟩))
      ∧ ∀ r ∈ rules, (∃ c ∈ r.containers, c.EndsBlank) →
        ∃ s : Rule, s.validate = .ok () ∧ s.content ≠ r.content ∧ s.feed = r.feed := by
  constructor
  · intro hsolid
    refine ⟨?_, Registry.build_eq_ok_of_solid hvalid hsolid⟩
    intro a ha b hb
    exact feed_eq_feed_iff (hsolid a ha) (hsolid b hb)
  · intro r hr hblank
    exact exists_feed_eq_of_endsBlank (hvalid r hr) hblank

/-- Whether a text is the second of a command or the first of the arguments can be told; that a
command ends with an empty text cannot. -/
theorem feed_determines_content_of_two_texts :
    (running ["a"] ["b"]).feed ≠ (running ["a", "b"] []).feed
      ∧ Registry.build [running ["a"] ["b"], running ["a", "b"] []]
        = .ok ⟨[.ofRule (running ["a"] ["b"]), .ofRule (running ["a", "b"] [])]⟩
      ∧ ∃ s : Rule, s.validate = .ok () ∧ s.content ≠ (running ["a", ""] []).content
        ∧ s.feed = (running ["a", ""] []).feed := by
  have hsolid : ∀ r ∈ [running ["a"] ["b"], running ["a", "b"] []], r.Solid := by
    intro r hr
    rcases List.mem_pair.1 hr with rfl | rfl
    · exact solid_running (fun _ hs => nomatch hs) (fun _ hs => nomatch hs)
    · refine solid_running ?_ fun _ hs => nomatch hs
      intro s hs
      obtain rfl := List.mem_singleton.1 hs
      simp
  obtain ⟨htell, hbuild⟩ := (feed_determines_content
    [running ["a"] ["b"], running ["a", "b"] []] (by decide +kernel)).1 hsolid
  refine ⟨?_, hbuild (by decide +kernel) (by decide +kernel), ?_⟩
  · rw [Ne, htell _ (by simp) _ (by simp)]
    decide +kernel
  · refine (feed_determines_content [running ["a", ""] []] (by decide +kernel)).2 _
      (List.mem_singleton.2 rfl) ⟨_, List.mem_singleton.2 rfl, .inl ⟨"a", [], "", rfl, rfl⟩⟩

end Rule

end Sidecar
