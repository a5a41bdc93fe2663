/-
**What a part of a rule becomes in the cluster is what was written.**

The cluster's objects have the same fields as the parts of a rule, under the same names: a converted
part is written as the part itself would be, its members put in order and the blanks around its
quantities dropped.  So the reader of the part, who refuses every member that a part does not have,
reads the converted object, and gives the part back.  Nothing is lost or put under another name on
the way, and no member is there that the part does not describe.

Main definitions:

* `Sidecar.StringMap.mapTexts`, `Sidecar.Rule.Container.trimmed`, `Sidecar.Rule.Volume.trimmed` —
  parts with the blanks around their quantities dropped;
* `Sidecar.Rule.Lossless` — **a conversion loses nothing.**

Main results:

* `Sidecar.Json.object_eq_canonical_record` — objects written in different orders;
* `Sidecar.Rule.Container.toJson_of_toCluster`, and the same for each part — **how a converted part
  is written**;
* `Sidecar.Rule.Lossless.eq_of_toCluster_eq` — parts that become the same are the same but for
  blanks;
* `Sidecar.Rule.conversions_lossless` — **the conversions lose nothing.**
-/

import Sidecar.Proofs.Injection.Names
import Sidecar.Proofs.Rule.ReadBack

set_option autoImplicit false

namespace Sidecar

/-! ### Objects -/

namespace Json

/-- Objects of the same members, in whatever order these are listed. -/
theorem object_eq_of_perm {xs ys : List (String × Option Json)} (hn : (ys.map (·.1)).Nodup)
    (h : xs.Perm ys) : object xs = object ys := by
  have hpresent := Entries.perm_ofList ((sublist_map_fst_record ys).nodup hn)
  exact congrArg obj (Entries.ofList_eq_of_perm (Entries.sorted_ofList _)
    ((h.filterMap _).trans hpresent.symm))

/-- A record in canonical form is the object of its members in canonical form. -/
theorem canonical_record (fields : List (String × Option Json)) :
    (record fields).canonical = object (fields.map fun f => (f.1, f.2.map canonical)) := by
  have hmembers : (fields.filterMap fun f => f.2.map (f.1, ·)).map (fun e => (e.1, e.2.canonical))
      = (fields.map fun f => (f.1, f.2.map canonical)).filterMap fun f => f.2.map (f.1, ·) := by
    rw [List.map_filterMap, List.filterMap_map]
    refine List.filterMap_congr fun f _ => ?_
    simp [Function.comp_def]
  exact congrArg (fun members => obj (Entries.ofList members))
    ((canonicalMembers_eq_map _).trans hmembers)

/-- **An object is a record in canonical form** if it lists, in whatever order, each field of the
record with its value in canonical form. -/
theorem object_eq_canonical_record {fields shown : List (String × Option Json)}
    (hfields : (fields.map (·.1)).Nodup) (hshown : (shown.map (·.1)).Nodup)
    (hlength : shown.length = fields.length)
    (h : ∀ f ∈ fields, (f.1, f.2.map canonical) ∈ shown) :
    object shown = (record fields).canonical := by
  rw [canonical_record]
  have hnames : (fields.map fun f => (f.1, f.2.map canonical)).map (·.1) = fields.map (·.1) := by
    rw [List.map_map]
    rfl
  have hsubset : (fields.map fun f => (f.1, f.2.map canonical)) ⊆ shown := by
    intro e he
    obtain ⟨f, hf, rfl⟩ := List.mem_map.1 he
    exact h f hf
  have hnodup : (fields.map fun f => (f.1, f.2.map canonical)).Nodup :=
    List.Nodup.of_map (·.1) (hnames ▸ hfields)
  refine (object_eq_of_perm hshown ?_).symm
  exact (hnodup.subperm hsubset).perm_of_length_le (by rw [List.length_map, hlength])

/-! ### Values of fields -/

@[simp] theorem canonical_str (text : String) : (str text).canonical = .str text := rfl

@[simp] theorem canonical_int (n : Int) : (int n).canonical = .int n := rfl

@[simp] theorem canonical_bool (b : Bool) : (bool b).canonical = .bool b := rfl

/-- A map of texts is written in order. -/
theorem canonical_stringMap (m : StringMap) : (stringMap m).canonical = stringMap m := by
  rw [stringMap, canonical, canonicalMembers_eq_map, List.map_map]
  exact congrArg obj (Entries.ofList_of_sorted (m.sorted.map _))

/-- A text that is left out if it is empty. -/
@[simp] theorem map_canonical_nonEmptyText (text : String) :
    (nonEmptyText text).map canonical = (Rule.unlessEmpty text).map .str := by
  unfold nonEmptyText Rule.unlessEmpty
  split <;> rfl

/-- A map that is left out if it is empty. -/
@[simp] theorem map_canonical_nonEmptyMap (m : StringMap) :
    (nonEmptyMap m).map canonical = (if m.isEmpty then none else some m).map stringMap := by
  unfold nonEmptyMap
  split
  · rfl
  · exact congrArg some (canonical_stringMap m)

section Lists

variable {α κ : Type} {encode : α → Json} {toJson : κ → Json} {xs : List α} {ys : List κ}

/-- A list whose items are written in canonical form. -/
theorem canonical_items (h : ys.map toJson = xs.map fun x => (encode x).canonical) :
    (arr (xs.map encode)).canonical = Cluster.objects toJson ys := by
  rw [canonical, canonicalItems_eq_map, List.map_map, Cluster.objects, h]
  rfl

/-- A list that is left out if it is empty. -/
theorem map_canonical_nonEmptyList (h : ys.map toJson = xs.map fun x => (encode x).canonical) :
    (nonEmptyList encode xs).map canonical
      = (if ys.isEmpty then none else some ys).map (Cluster.objects toJson) := by
  have hempty : ys.isEmpty = xs.isEmpty := by
    rw [← List.isEmpty_map (f := toJson), h, List.isEmpty_map]
  rw [nonEmptyList, hempty]
  split
  · rfl
  · exact congrArg some (canonical_items h)

/-- A list that is left out if it is empty, each item of which is converted. -/
theorem map_canonical_of_map {convert : α → κ} (h : ∀ x, toJson (convert x) = (encode x).canonical)
    (xs : List α) : (nonEmptyList encode xs).map canonical
      = (if xs.isEmpty then none else some (xs.map convert)).map (Cluster.objects toJson) := by
  have hitems : (xs.map convert).map toJson = xs.map fun x => (encode x).canonical := by
    rw [List.map_map]
    exact List.map_congr_left fun x _ => h x
  rw [map_canonical_nonEmptyList hitems, List.isEmpty_map]

/-- A list of texts that is left out if it is empty. -/
@[simp] theorem map_canonical_nonEmptyTexts (texts : List String) :
    (nonEmptyList str texts).map canonical
      = (if texts.isEmpty then none else some texts).map strings :=
  map_canonical_nonEmptyList rfl

end Lists

end Json

/-! ### Parts without blanks around quantities -/

/-- The map with each text changed. -/
def StringMap.mapTexts (f : String → String) (m : StringMap) : StringMap :=
  ⟨m.entries.map fun e => (e.1, f e.2), m.sorted.map f⟩

namespace Rule

/-- The resources with each quantity trimmed. -/
def Resources.trimmed (r : Resources) : Resources :=
  { requests := r.requests.mapTexts Text.trim, limits := r.limits.mapTexts Text.trim }

/-- The container with each quantity trimmed. -/
def Container.trimmed (c : Container) : Container :=
  { c with resources := c.resources.map Resources.trimmed }

/-- The empty directory with its size limit trimmed. -/
def EmptyDirSource.trimmed (s : EmptyDirSource) : EmptyDirSource :=
  { s with sizeLimit := Text.trim s.sizeLimit }

/-- The volume with its quantity trimmed. -/
def Volume.trimmed (v : Volume) : Volume :=
  { v with emptyDir := v.emptyDir.map EmptyDirSource.trimmed }

/-! ### How converted parts are written -/

/-- A part that may be absent, as it is written once it is converted. -/
theorem map_toJson_of_mapM_option {ε α κ : Type} {f : α → Except ε κ} {written : α → Json}
    {toJson : κ → Json} (hf : ∀ x y, f x = .ok y → toJson y = (written x).canonical)
    {o : Option α} {o' : Option κ} (h : o.mapM f = .ok o') :
    o'.map toJson = o.map fun x => (written x).canonical := by
  cases o with
  | none =>
      cases h
      rfl
  | some x =>
      obtain ⟨y, hy, rfl⟩ := mapM_some_eq_ok_iff.1 h
      exact congrArg some (hf x y hy)

/-! #### Selectors and scheduling -/

theorem Requirement.toJson_of_toCluster {kind : SelectorKind} {r : Requirement}
    {k : Cluster.Requirement} (h : r.toCluster kind = .ok k) : k.toJson = r.encode.canonical := by
  obtain ⟨_, _, rfl⟩ := (toCluster_eq_ok_iff kind r k).1 h
  exact Json.object_eq_canonical_record (by simp) (by simp) (by simp) (by simp)

/-- Requirements of a selector, as they are written. -/
theorem Requirement.map_canonical_of_mapM {kind : SelectorKind} {rs : List Requirement}
    {ks : List Cluster.Requirement} (h : rs.mapM (Requirement.toCluster kind) = .ok ks) :
    (Json.nonEmptyList encode rs).map Json.canonical
      = (if ks.isEmpty then none else some ks).map (Cluster.objects (·.toJson)) :=
  Json.map_canonical_nonEmptyList (map_eq_of_mapM (fun _ _ => toJson_of_toCluster) h)

theorem LabelSelector.toJson_of_toCluster {s : LabelSelector} {k : Cluster.LabelSelector}
    (h : s.toCluster = .ok k) : k.toJson = s.encode.canonical := by
  obtain ⟨expressions, hexpressions, h⟩ := bind_eq_ok_iff.1 h
  cases h
  have hwritten := Requirement.map_canonical_of_mapM hexpressions
  exact Json.object_eq_canonical_record (by simp) (by simp) (by simp) (by simp [hwritten])

theorem NodeSelectorTerm.toJson_of_toCluster {t : NodeSelectorTerm} {k : Cluster.NodeSelectorTerm}
    (h : t.toCluster = .ok k) : k.toJson = t.encode.canonical := by
  obtain ⟨expressions, hexpressions, h⟩ := bind_eq_ok_iff.1 h
  obtain ⟨fields, hfields, h⟩ := bind_eq_ok_iff.1 h
  cases h
  have hexpressions := Requirement.map_canonical_of_mapM hexpressions
  have hfields := Requirement.map_canonical_of_mapM hfields
  exact Json.object_eq_canonical_record (by simp) (by simp) (by simp)
    (by simp [hexpressions, hfields])

theorem NodeSelector.toJson_of_toCluster {s : NodeSelector} {k : Cluster.NodeSelector}
    (h : s.toCluster = .ok k) : k.toJson = s.encode.canonical := by
  obtain ⟨terms, hterms, h⟩ := bind_eq_ok_iff.1 h
  cases h
  have hwritten := Json.canonical_items
    (map_eq_of_mapM (fun _ _ => NodeSelectorTerm.toJson_of_toCluster) hterms)
  exact Json.object_eq_canonical_record (by simp) (by simp) (by simp) (by simp [hwritten])

theorem NodeAffinity.toJson_of_toCluster {a : NodeAffinity} {k : Cluster.NodeAffinity}
    (h : a.toCluster = .ok k) : k.toJson = a.encode.canonical := by
  obtain ⟨required, hrequired, h⟩ := bind_eq_ok_iff.1 h
  cases h
  have hwritten :=
    map_toJson_of_mapM_option (fun _ _ => NodeSelector.toJson_of_toCluster) hrequired
  exact Json.object_eq_canonical_record (by simp) (by simp) (by simp)
    (by simp [hwritten, Function.comp_def])

theorem Affinity.toJson_of_toCluster {a : Affinity} {k : Cluster.Affinity}
    (h : a.toCluster = .ok k) : k.toJson = a.encode.canonical := by
  obtain ⟨nodeAffinity, hnodes, h⟩ := bind_eq_ok_iff.1 h
  cases h
  have hwritten := map_toJson_of_mapM_option (fun _ _ => NodeAffinity.toJson_of_toCluster) hnodes
  exact Json.object_eq_canonical_record (by simp) (by simp) (by simp)
    (by simp [hwritten, Function.comp_def])

theorem Toleration.toJson_of_toCluster {t : Toleration} {k : Cluster.Toleration}
    (h : t.toCluster = .ok k) : k.toJson = t.encode.canonical := by
  unfold toCluster at h
  split at h
  · cases h
  · split at h
    · cases h
    · cases h
      exact Json.object_eq_canonical_record (by simp) (by simp) (by simp)
        (by simp [Function.comp_def])

/-! #### Volumes and mounts -/

theorem KeyToPath.toJson_toCluster (k : KeyToPath) : k.toCluster.toJson = k.encode.canonical :=
  Json.object_eq_canonical_record (by simp) (by simp) (by simp)
    (by simp [toCluster, Function.comp_def])

theorem ConfigMapSource.toJson_toCluster (s : ConfigMapSource) :
    s.toCluster.toJson = s.encode.canonical :=
  Json.object_eq_canonical_record (by simp) (by simp) (by simp)
    (by simp [toCluster, Json.map_canonical_of_map KeyToPath.toJson_toCluster, Function.comp_def])

theorem SecretSource.toJson_toCluster (s : SecretSource) :
    s.toCluster.toJson = s.encode.canonical :=
  Json.object_eq_canonical_record (by simp) (by simp) (by simp)
    (by simp [toCluster, Json.map_canonical_of_map KeyToPath.toJson_toCluster, Function.comp_def])

/-- A quantity that is accepted is not empty once it is trimmed. -/
theorem unlessEmpty_trim_of_parse {text quantity : String}
    (h : Quantity.parse text = .ok quantity) : unlessEmpty (Text.trim text) = some quantity := by
  obtain ⟨rfl, hquantity⟩ := Quantity.parse_eq_ok_iff.1 h
  unfold unlessEmpty
  split
  · next hempty =>
    rw [String.isEmpty_iff.1 hempty] at hquantity
    cases hquantity
  · rfl

/-- The size limit of an empty directory that is accepted is the trimmed one. -/
theorem EmptyDirSource.eq_of_toCluster {s : EmptyDirSource} {k : Cluster.EmptyDirSource}
    (h : s.toCluster = .ok k) :
    k = ⟨unlessEmpty s.medium, unlessEmpty (Text.trim s.sizeLimit)⟩ := by
  unfold toCluster at h
  split at h
  · next hempty =>
    cases h
    rw [String.isEmpty_iff.1 hempty]
    rfl
  · cases hparse : Quantity.parse s.sizeLimit with
    | error e =>
        rw [hparse] at h
        cases h
    | ok quantity =>
        rw [hparse] at h
        cases h
        rw [unlessEmpty_trim_of_parse hparse]

theorem EmptyDirSource.toJson_of_toCluster {s : EmptyDirSource} {k : Cluster.EmptyDirSource}
    (h : s.toCluster = .ok k) : k.toJson = s.trimmed.encode.canonical := by
  rw [eq_of_toCluster h]
  exact Json.object_eq_canonical_record (by simp) (by simp) (by simp) (by simp [trimmed])

theorem Volume.toJson_of_toCluster {v : Volume} {k : Cluster.Volume}
    (h : v.toCluster = .ok k) : k.toJson = v.trimmed.encode.canonical := by
  unfold toCluster at h
  split at h
  · cases h
  · obtain ⟨directory, hdirectory, h⟩ := bind_eq_ok_iff.1 h
    cases h
    have hwritten : directory.map (·.toJson) = v.emptyDir.map fun s => s.trimmed.encode.canonical :=
      map_toJson_of_mapM_option (fun _ _ => EmptyDirSource.toJson_of_toCluster)
        (mapError_eq_ok_iff.1 hdirectory)
    exact Json.object_eq_canonical_record (by simp) (by simp) (by simp)
      (by simp [trimmed, hwritten, ConfigMapSource.toJson_toCluster, SecretSource.toJson_toCluster,
        Function.comp_def])

theorem VolumeMount.toJson_of_toCluster {m : VolumeMount} {k : Cluster.VolumeMount}
    (h : m.toCluster = .ok k) : k.toJson = m.encode.canonical := by
  unfold toCluster at h
  split at h
  · cases h
  · split at h
    · cases h
    · cases h
      obtain ⟨name, path, readOnly, recursive, propagation, subPath, subPathExpr⟩ := m
      cases readOnly <;>
        exact Json.object_eq_canonical_record (by simp) (by simp) (by simp) (by simp)

/-! #### Containers -/

theorem EnvVar.toJson_toCluster (v : EnvVar) : v.toCluster.toJson = v.encode.canonical :=
  Json.object_eq_canonical_record (by simp) (by simp) (by simp) (by simp [toCluster])

theorem ContainerPort.toJson_of_toCluster {p : ContainerPort} {k : Cluster.ContainerPort}
    (h : p.toCluster = .ok k) : k.toJson = p.encode.canonical := by
  unfold toCluster at h
  split at h
  · cases h
  · split at h
    · cases h
    · cases h
      exact Json.object_eq_canonical_record (by simp) (by simp) (by simp)
        (by simp [Function.comp_def])

/-- Quantities that are accepted are the trimmed texts. -/
theorem Resources.quantities_eq_ok {m : StringMap} {converted : Option StringMap}
    (h : quantities m = .ok converted) :
    converted = if (m.mapTexts Text.trim).isEmpty then none else some (m.mapTexts Text.trim) := by
  have hempty : (m.mapTexts Text.trim).isEmpty = m.isEmpty := List.isEmpty_map
  rw [hempty]
  unfold quantities at h
  split at h
  · next hm =>
    cases h
    exact (if_pos hm).symm
  · next hm =>
    obtain ⟨pairs, hpairs, h⟩ := bind_eq_ok_iff.1 h
    cases h
    have htrimmed : pairs.map id = m.entries.map fun e => (e.1, Text.trim e.2) := by
      refine map_eq_of_mapM (fun e pair hpair => ?_) hpairs
      obtain ⟨quantity, hquantity, hpair⟩ := bind_eq_ok_iff.1 hpair
      cases hpair
      rw [(Quantity.parse_eq_ok_iff.1 hquantity).1]
      rfl
    rw [List.map_id] at htrimmed
    rw [if_neg hm, htrimmed]
    simp only [StringMap.ofList, Entries.ofList_of_sorted (m.sorted.map Text.trim),
      StringMap.mapTexts]

theorem Resources.toJson_of_toCluster {r : Resources} {k : Cluster.ResourceRequirements}
    (h : r.toCluster = .ok k) : k.toJson = r.trimmed.encode.canonical := by
  obtain ⟨requests, hrequests, h⟩ := bind_eq_ok_iff.1 h
  obtain ⟨limits, hlimits, h⟩ := bind_eq_ok_iff.1 h
  cases h
  exact Json.object_eq_canonical_record (by simp) (by simp) (by simp)
    (by simp [trimmed, quantities_eq_ok hrequests, quantities_eq_ok hlimits])

theorem Container.toJson_of_toCluster {c : Container} {k : Cluster.Container}
    (h : c.toCluster = .ok k) : k.toJson = c.trimmed.encode.canonical := by
  rw [toCluster, mapError_eq_ok_iff, convert] at h
  split at h
  · cases h
  · obtain ⟨ports, hports, h⟩ := bind_eq_ok_iff.1 h
    obtain ⟨resources, hresources, h⟩ := bind_eq_ok_iff.1 h
    obtain ⟨mounts, hmounts, h⟩ := bind_eq_ok_iff.1 h
    cases h
    have henv := Json.map_canonical_of_map EnvVar.toJson_toCluster c.env
    have hports := Json.map_canonical_nonEmptyList
      (map_eq_of_mapM (fun _ _ => ContainerPort.toJson_of_toCluster) hports)
    have hresources : resources.map (·.toJson)
        = c.resources.map fun r => r.trimmed.encode.canonical :=
      map_toJson_of_mapM_option (fun _ _ => Resources.toJson_of_toCluster) hresources
    have hmounts := Json.map_canonical_nonEmptyList
      (map_eq_of_mapM (fun _ _ => VolumeMount.toJson_of_toCluster) hmounts)
    exact Json.object_eq_canonical_record (by simp) (by simp) (by simp)
      (by simp [trimmed, henv, hports, hresources, hmounts, Function.comp_def])

/-! ### The conversions lose nothing -/

/-- **A conversion loses nothing but what is trimmed.** -/
structure Lossless {α κ : Type} (toCluster : α → Except RuleError κ) (toJson : κ → Json)
    (encode : α → Json) (decode : Json → Except DecodeError α) (trimmed : α → α) : Prop where
  /-- What is converted is written as the trimmed part itself would be, its members in order, -/
  toJson_eq : ∀ {x k}, toCluster x = .ok k → toJson k = (encode (trimmed x)).canonical
  /-- and the reader of the part, which refuses members that a part does not have, gives the trimmed
  part back. -/
  decode_toJson : ∀ {x k}, toCluster x = .ok k → decode (toJson k) = .ok (trimmed x)

namespace Lossless

variable {α κ : Type} {toCluster : α → Except RuleError κ} {toJson : κ → Json} {encode : α → Json}
  {decode : Json → Except DecodeError α} {trimmed : α → α}

/-- What is written like a part that is read back loses nothing. -/
theorem of_readsBack (hread : ∀ x, ReadsBack decode (encode x) x)
    (h : ∀ {x k}, toCluster x = .ok k → toJson k = (encode (trimmed x)).canonical) :
    Lossless toCluster toJson encode decode trimmed where
  toJson_eq := h
  decode_toJson {x k} hk := by
    rw [h hk]
    exact (hread (trimmed x)).decode_eq (Json.answers_canonical (hread (trimmed x)).regular)

/-- **Parts that become the same object are the same but for what is trimmed.** -/
theorem eq_of_toCluster_eq (hl : Lossless toCluster toJson encode decode trimmed) {x y : α} {k : κ}
    (hx : toCluster x = .ok k) (hy : toCluster y = .ok k) : trimmed x = trimmed y :=
  Except.ok.inj ((hl.decode_toJson hx).symm.trans (hl.decode_toJson hy))

end Lossless

/-- **The conversions lose nothing**: a container, volume, mount, label selector, affinity or
toleration that the cluster accepts is read back from its form in the cluster, with the blanks
around the quantities of the resources and of the size limit dropped and nothing else changed; and
that form has the members that are written for the part, and no others. -/
theorem conversions_lossless :
    Lossless Container.toCluster Cluster.Container.toJson Container.encode Container.decode
        Container.trimmed
      ∧ Lossless Volume.toCluster Cluster.Volume.toJson Volume.encode Volume.decode Volume.trimmed
      ∧ Lossless VolumeMount.toCluster Cluster.VolumeMount.toJson VolumeMount.encode
        VolumeMount.decode id
      ∧ Lossless LabelSelector.toCluster Cluster.LabelSelector.toJson LabelSelector.encode
        LabelSelector.decode id
      ∧ Lossless Affinity.toCluster Cluster.Affinity.toJson Affinity.encode Affinity.decode id
      ∧ Lossless Toleration.toCluster Cluster.Toleration.toJson Toleration.encode Toleration.decode
        id :=
  ⟨.of_readsBack Container.readsBack Container.toJson_of_toCluster,
    .of_readsBack Volume.readsBack Volume.toJson_of_toCluster,
    .of_readsBack VolumeMount.readsBack VolumeMount.toJson_of_toCluster,
    .of_readsBack LabelSelector.readsBack LabelSelector.toJson_of_toCluster,
    .of_readsBack Affinity.readsBack Affinity.toJson_of_toCluster,
    .of_readsBack Toleration.readsBack Toleration.toJson_of_toCluster⟩

/-- A container keeps an empty argument, an empty variable and resources without requests, and a
selector, an affinity and a toleration keep their lists and numbers; of a limit and of a size the
blanks are dropped.  A mount below a path is another one than a mount below the same expression. -/
theorem conversions_lossless_of_blanks :
    (∃ k, Container.toCluster { (default : Container) with
          name := "side", image := "proxy", args := [""], env := [⟨"PORT", ""⟩]
          resources := some { requests := .empty, limits := .ofList [("cpu", " 500m\n")] } } = .ok k
        ∧ Container.decode k.toJson = .ok { (default : Container) with
          name := "side", image := "proxy", args := [""], env := [⟨"PORT", ""⟩]
          resources := some { requests := .empty, limits := .ofList [("cpu", "500m")] } })
      ∧ (∃ k, Volume.toCluster ⟨"cache", none, none, some ⟨"", "\t1Gi "⟩⟩ = .ok k
        ∧ Volume.decode k.toJson = .ok ⟨"cache", none, none, some ⟨"", "1Gi"⟩⟩)
      ∧ (∃ k, VolumeMount.toCluster ⟨"run", "/run", true, "Enabled", "", "", "$(POD)"⟩ = .ok k
        ∧ VolumeMount.decode k.toJson = .ok ⟨"run", "/run", true, "Enabled", "", "", "$(POD)"⟩
        ∧ VolumeMount.toCluster ⟨"run", "/run", true, "Enabled", "", "$(POD)", ""⟩ ≠ .ok k)
      ∧ (∃ k, LabelSelector.toCluster
            ⟨.empty, [⟨"tier", "In", ["web", ""]⟩, ⟨"beta", "Exists", []⟩]⟩ = .ok k
        ∧ LabelSelector.decode k.toJson
          = .ok ⟨.empty, [⟨"tier", "In", ["web", ""]⟩, ⟨"beta", "Exists", []⟩]⟩)
      ∧ (∃ k, Affinity.toCluster
            ⟨some ⟨some ⟨[⟨[], [⟨"metadata.name", "NotIn", ["n"]⟩]⟩, ⟨[], []⟩]⟩⟩⟩ = .ok k
        ∧ Affinity.decode k.toJson
          = .ok ⟨some ⟨some ⟨[⟨[], [⟨"metadata.name", "NotIn", ["n"]⟩]⟩, ⟨[], []⟩]⟩⟩⟩)
      ∧ ∃ k, Toleration.toCluster ⟨"gpu", "Exists", "", "NoExecute", some (-1)⟩ = .ok k
        ∧ Toleration.decode k.toJson = .ok ⟨"gpu", "Exists", "", "NoExecute", some (-1)⟩ := by
  obtain ⟨hcontainers, hvolumes, hmounts, hselectors, haffinities, htolerations⟩ :=
    conversions_lossless
  have hcontainer : Container.toCluster { (default : Container) with
      name := "side", image := "proxy", args := [""], env := [⟨"PORT", ""⟩]
      resources := some { requests := .empty, limits := .ofList [("cpu", " 500m\n")] } }
        = .ok ⟨"side", some "proxy", none, none, some [""], some [⟨"PORT", some ""⟩], none,
          some ⟨none, some (.ofList [("cpu", "500m")])⟩, none⟩ := by
    decide +kernel
  have hvolume : Volume.toCluster ⟨"cache", none, none, some ⟨"", "\t1Gi "⟩⟩
      = .ok ⟨"cache", none, none, some ⟨none, some "1Gi"⟩⟩ := by
    decide +kernel
  have hmount : VolumeMount.toCluster ⟨"run", "/run", true, "Enabled", "", "", "$(POD)"⟩
      = .ok ⟨"run", "/run", some true, some "Enabled", none, none, some "$(POD)"⟩ := by
    decide +kernel
  have hselector : LabelSelector.toCluster
      ⟨.empty, [⟨"tier", "In", ["web", ""]⟩, ⟨"beta", "Exists", []⟩]⟩
        = .ok ⟨none, some [⟨"tier", "In", some ["web", ""]⟩, ⟨"beta", "Exists", none⟩]⟩ := by
    decide +kernel
  have haffinity : Affinity.toCluster
      ⟨some ⟨some ⟨[⟨[], [⟨"metadata.name", "NotIn", ["n"]⟩]⟩, ⟨[], []⟩]⟩⟩⟩
        = .ok ⟨some ⟨some ⟨[⟨none, some [⟨"metadata.name", "NotIn", some ["n"]⟩]⟩,
          ⟨none, none⟩]⟩⟩⟩ := by
    decide +kernel
  have htoleration : Toleration.toCluster ⟨"gpu", "Exists", "", "NoExecute", some (-1)⟩
      = .ok ⟨some "gpu", some "Exists", none, some "NoExecute", some (-1)⟩ := by
    decide +kernel
  refine ⟨⟨_, hcontainer, ?_⟩, ⟨_, hvolume, ?_⟩,
    ⟨_, hmount, hmounts.decode_toJson hmount, fun hpath => ?_⟩,
    ⟨_, hselector, hselectors.decode_toJson hselector⟩,
    ⟨_, haffinity, haffinities.decode_toJson haffinity⟩,
    ⟨_, htoleration, htolerations.decode_toJson htoleration⟩⟩
  · rw [hcontainers.decode_toJson hcontainer]
    exact congrArg Except.ok (by decide +kernel)
  · rw [hvolumes.decode_toJson hvolume]
    exact congrArg Except.ok (by decide +kernel)
  · exact absurd (hmounts.eq_of_toCluster_eq hmount hpath) (by decide)

end Rule

end Sidecar
