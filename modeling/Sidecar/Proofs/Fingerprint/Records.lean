/-
**The parts of rules, read back.**

Each record that a rule is made of is laid out as it is fed, and is read back if no list within it
holds, behind its first element, one that feeds nothing.

Main definitions:

* `Sidecar.Rule.Container.layout` and those of the other records — the fields in their order;
* `Sidecar.Rule.Container.Solid` and those of the other records with lists — no list within the
  record holds, behind its first element, one that feeds nothing.

Main results:

* `Sidecar.Rule.Container.recovers` and those of the other records — **a solid record is read
  back;**
* `Sidecar.Rule.ContainerPort.feed_ne_nil` — a port always feeds something, its number.
-/

import Sidecar.Proofs.Fingerprint.Layout
import Sidecar.Rule.Container

set_option autoImplicit false

namespace Sidecar.Rule

open Feed (Differ Layout utf8)
open Feed.Layout

/-! ### Requirements and label selectors -/

namespace Requirement

/-- The fields of a requirement. -/
def layout : Layout Requirement :=
  ((text "key").seq (text "operator")).seq (texts "values")
    |>.map (fun ((key, operator), values) => ⟨key, operator, values⟩)
      fun r => ((r.key, r.operator), r.values)

/-- Behind the first value none is empty. -/
def Solid (r : Requirement) : Prop :=
  Feed.Solid utf8 r.values

theorem differ : layout.tags.Pairwise Differ := by decide +kernel

theorem recovers {r : Requirement} (h : r.Solid) : layout.Recovers r :=
  .map (((recovers_text _ _).seq (recovers_text _ _)).seq (recovers_texts h)) rfl

end Requirement

namespace LabelSelector

/-- The fields of a label selector. -/
def layout : Layout LabelSelector :=
  (stringMap "matchLabels").seq (records "matchExpressions" Requirement.layout)
    |>.map (fun (labels, expressions) => ⟨labels, expressions⟩)
      fun s => (s.matchLabels, s.matchExpressions)

structure Solid (s : LabelSelector) : Prop where
  matchExpressions : Feed.Solid Requirement.feed s.matchExpressions
  requirements : ∀ r ∈ s.matchExpressions, r.Solid

theorem differ : layout.tags.Pairwise Differ := by decide +kernel

theorem recovers {s : LabelSelector} (h : s.Solid) : layout.Recovers s :=
  .map ((recovers_stringMap _ _).seq (recovers_records Requirement.differ h.matchExpressions
    fun r hr => Requirement.recovers (h.requirements r hr))) rfl

end LabelSelector

/-! ### Affinities -/

namespace NodeSelectorTerm

/-- The fields of a term. -/
def layout : Layout NodeSelectorTerm :=
  (records "matchExpressions" Requirement.layout).seq (records "matchFields" Requirement.layout)
    |>.map (fun (expressions, fields) => ⟨expressions, fields⟩)
      fun t => (t.matchExpressions, t.matchFields)

structure Solid (t : NodeSelectorTerm) : Prop where
  matchExpressions : Feed.Solid Requirement.feed t.matchExpressions
  matchFields : Feed.Solid Requirement.feed t.matchFields
  requirements : ∀ r ∈ t.matchExpressions ++ t.matchFields, r.Solid

theorem differ : layout.tags.Pairwise Differ := by decide +kernel

theorem recovers {t : NodeSelectorTerm} (h : t.Solid) : layout.Recovers t := by
  refine .map (.seq (recovers_records Requirement.differ h.matchExpressions ?_)
    (recovers_records Requirement.differ h.matchFields ?_)) rfl
  · exact fun r hr => Requirement.recovers (h.requirements r (List.mem_append_left _ hr))
  · exact fun r hr => Requirement.recovers (h.requirements r (List.mem_append_right _ hr))

end NodeSelectorTerm

namespace NodeSelector

/-- The field of a node selector. -/
def layout : Layout NodeSelector :=
  (records "nodeSelectorTerms" NodeSelectorTerm.layout).map mk nodeSelectorTerms

structure Solid (s : NodeSelector) : Prop where
  nodeSelectorTerms : Feed.Solid NodeSelectorTerm.feed s.nodeSelectorTerms
  terms : ∀ t ∈ s.nodeSelectorTerms, t.Solid

theorem differ : layout.tags.Pairwise Differ := by decide +kernel

theorem recovers {s : NodeSelector} (h : s.Solid) : layout.Recovers s :=
  .map (recovers_records NodeSelectorTerm.differ h.nodeSelectorTerms
    fun t ht => NodeSelectorTerm.recovers (h.terms t ht)) rfl

end NodeSelector

namespace NodeAffinity

/-- The field of a node affinity. -/
def layout : Layout NodeAffinity :=
  (optNested Cluster.requiredNodes NodeSelector.layout).map mk required

def Solid (a : NodeAffinity) : Prop :=
  ∀ s ∈ a.required, s.Solid

theorem differ : layout.tags.Pairwise Differ := by decide +kernel

theorem recovers {a : NodeAffinity} (h : a.Solid) : layout.Recovers a :=
  .map (recovers_optNested NodeSelector.differ fun s hs => NodeSelector.recovers (h s hs)) rfl

end NodeAffinity

namespace Affinity

/-- The field of an affinity. -/
def layout : Layout Affinity :=
  (optNested "nodeAffinity" NodeAffinity.layout).map mk nodeAffinity

def Solid (a : Affinity) : Prop :=
  ∀ n ∈ a.nodeAffinity, n.Solid

theorem differ : layout.tags.Pairwise Differ := by decide +kernel

theorem recovers {a : Affinity} (h : a.Solid) : layout.Recovers a :=
  .map (recovers_optNested NodeAffinity.differ fun n hn => NodeAffinity.recovers (h n hn)) rfl

end Affinity

/-! ### Tolerations -/

namespace Toleration

/-- The fields of a toleration. -/
def layout : Layout Toleration :=
  ((((text "key").seq (text "operator")).seq (text "value")).seq (text "effect")).seq
      (optInt64 "tolerationSeconds")
    |>.map (fun ((((key, operator), value), effect), seconds) =>
        ⟨key, operator, value, effect, seconds⟩)
      fun t => ((((t.key, t.operator), t.value), t.effect), t.tolerationSeconds)

theorem differ : layout.tags.Pairwise Differ := by decide +kernel

theorem recovers (t : Toleration) : layout.Recovers t :=
  .map (((((recovers_text _ _).seq (recovers_text _ _)).seq (recovers_text _ _)).seq
    (recovers_text _ _)).seq (recovers_optInt64 _ _)) rfl

end Toleration

/-! ### Volumes -/

namespace KeyToPath

/-- The fields of a key and its file. -/
def layout : Layout KeyToPath :=
  ((text "key").seq (text "path")).seq (optInt32 "mode")
    |>.map (fun ((key, path), mode) => ⟨key, path, mode⟩) fun k => ((k.key, k.path), k.mode)

theorem differ : layout.tags.Pairwise Differ := by decide +kernel

theorem recovers (k : KeyToPath) : layout.Recovers k :=
  .map (((recovers_text _ _).seq (recovers_text _ _)).seq (recovers_optInt32 _ _)) rfl

end KeyToPath

namespace ConfigMapSource

/-- The fields of a config map source. -/
def layout : Layout ConfigMapSource :=
  (((text "name").seq (records "items" KeyToPath.layout)).seq (optInt32 "defaultMode")).seq
      (optBool "optional")
    |>.map (fun (((name, items), mode), optional) => ⟨name, items, mode, optional⟩)
      fun s => (((s.name, s.items), s.defaultMode), s.optional)

/-- Behind the first key none feeds nothing. -/
def Solid (s : ConfigMapSource) : Prop :=
  Feed.Solid KeyToPath.feed s.items

theorem differ : layout.tags.Pairwise Differ := by decide +kernel

theorem recovers {s : ConfigMapSource} (h : s.Solid) : layout.Recovers s := by
  have hitems : (records "items" KeyToPath.layout).Recovers s.items :=
    recovers_records KeyToPath.differ h fun k _ => KeyToPath.recovers k
  exact .map ((((recovers_text _ _).seq hitems).seq (recovers_optInt32 _ _)).seq
    (recovers_optBool _ _)) rfl

end ConfigMapSource

namespace SecretSource

/-- The fields of a secret source. -/
def layout : Layout SecretSource :=
  (((text "secretName").seq (records "items" KeyToPath.layout)).seq (optInt32 "defaultMode")).seq
      (optBool "optional")
    |>.map (fun (((name, items), mode), optional) => ⟨name, items, mode, optional⟩)
      fun s => (((s.secretName, s.items), s.defaultMode), s.optional)

/-- Behind the first key none feeds nothing. -/
def Solid (s : SecretSource) : Prop :=
  Feed.Solid KeyToPath.feed s.items

theorem differ : layout.tags.Pairwise Differ := by decide +kernel

theorem recovers {s : SecretSource} (h : s.Solid) : layout.Recovers s := by
  have hitems : (records "items" KeyToPath.layout).Recovers s.items :=
    recovers_records KeyToPath.differ h fun k _ => KeyToPath.recovers k
  exact .map ((((recovers_text _ _).seq hitems).seq (recovers_optInt32 _ _)).seq
    (recovers_optBool _ _)) rfl

end SecretSource

namespace EmptyDirSource

/-- The fields of an empty directory source. -/
def layout : Layout EmptyDirSource :=
  (text "medium").seq (text "sizeLimit")
    |>.map (fun (medium, limit) => ⟨medium, limit⟩) fun s => (s.medium, s.sizeLimit)

theorem differ : layout.tags.Pairwise Differ := by decide +kernel

theorem recovers (s : EmptyDirSource) : layout.Recovers s :=
  .map ((recovers_text _ _).seq (recovers_text _ _)) rfl

end EmptyDirSource

namespace Volume

/-- The fields of a volume. -/
def layout : Layout Volume :=
  (((text "name").seq (optNested "configMap" ConfigMapSource.layout)).seq
      (optNested "secret" SecretSource.layout)).seq (optNested "emptyDir" EmptyDirSource.layout)
    |>.map (fun (((name, configMap), secret), emptyDir) => ⟨name, configMap, secret, emptyDir⟩)
      fun v => (((v.name, v.configMap), v.secret), v.emptyDir)

structure Solid (v : Volume) : Prop where
  configMap : ∀ s ∈ v.configMap, s.Solid
  secret : ∀ s ∈ v.secret, s.Solid

theorem differ : layout.tags.Pairwise Differ := by decide +kernel

theorem recovers {v : Volume} (h : v.Solid) : layout.Recovers v := by
  refine .map ((((recovers_text _ _).seq (recovers_optNested ConfigMapSource.differ ?_)).seq
    (recovers_optNested SecretSource.differ ?_)).seq
      (recovers_optNested EmptyDirSource.differ ?_)) rfl
  · exact fun s hs => ConfigMapSource.recovers (h.configMap s hs)
  · exact fun s hs => SecretSource.recovers (h.secret s hs)
  · exact fun s _ => EmptyDirSource.recovers s

end Volume

namespace VolumeMount

/-- The fields of a mount; it says that it is read-only, and nothing otherwise. -/
def layout : Layout VolumeMount :=
  ((((((text "name").seq (text "mountPath")).seq (optBool "readOnly")).seq
      (text "recursiveReadOnly")).seq (text "mountPropagation")).seq (text "subPath")).seq
      (text "subPathExpr")
    |>.map
      (fun ((((((name, path), readOnly), recursive), propagation), subPath), subPathExpr) =>
        ⟨name, path, readOnly.getD false, recursive, propagation, subPath, subPathExpr⟩)
      fun m => ((((((m.name, m.mountPath), if m.readOnly then some true else none),
        m.recursiveReadOnly), m.mountPropagation), m.subPath), m.subPathExpr)

theorem differ : layout.tags.Pairwise Differ := by decide +kernel

theorem recovers (m : VolumeMount) : layout.Recovers m := by
  refine .map (((((((recovers_text _ _).seq (recovers_text _ _)).seq (recovers_optBool _ _)).seq
    (recovers_text _ _)).seq (recovers_text _ _)).seq (recovers_text _ _)).seq
      (recovers_text _ _)) ?_
  cases m with
  | mk name path readOnly recursive propagation subPath subPathExpr =>
      cases readOnly with
      | false => rfl
      | true => rfl

end VolumeMount

/-! ### Containers -/

namespace EnvVar

/-- The fields of a variable. -/
def layout : Layout EnvVar :=
  (text "name").seq (text "value")
    |>.map (fun (name, value) => ⟨name, value⟩) fun v => (v.name, v.value)

theorem differ : layout.tags.Pairwise Differ := by decide +kernel

theorem recovers (v : EnvVar) : layout.Recovers v :=
  .map ((recovers_text _ _).seq (recovers_text _ _)) rfl

end EnvVar

namespace ContainerPort

/-- The fields of a port, of which its number is always there. -/
def layout : Layout ContainerPort :=
  ((((text "name").seq (optInt32 "containerPort")).seq (optInt32 "hostPort")).seq
      (text "hostIP")).seq (text "protocol")
    |>.map (fun ((((name, port), hostPort), hostIP), protocol) =>
        ⟨name, port.getD 0, hostPort, hostIP, protocol⟩)
      fun p => ((((p.name, some p.containerPort), p.hostPort), p.hostIP), p.protocol)

theorem differ : layout.tags.Pairwise Differ := by decide +kernel

theorem recovers (p : ContainerPort) : layout.Recovers p :=
  .map (((((recovers_text _ _).seq (recovers_optInt32 _ _)).seq (recovers_optInt32 _ _)).seq
    (recovers_text _ _)).seq (recovers_text _ _)) rfl

/-- A port feeds something. -/
theorem feed_ne_nil (p : ContainerPort) : p.feed ≠ [] := by
  simp [feed, Feed.optInt32, Feed.optional, Feed.field]

end ContainerPort

namespace Resources

/-- The fields of resources. -/
def layout : Layout Resources :=
  (stringMap "requests").seq (stringMap "limits")
    |>.map (fun (requests, limits) => ⟨requests, limits⟩) fun r => (r.requests, r.limits)

theorem differ : layout.tags.Pairwise Differ := by decide +kernel

theorem recovers (r : Resources) : layout.Recovers r :=
  .map ((recovers_stringMap _ _).seq (recovers_stringMap _ _)) rfl

end Resources

namespace Container

/-- The fields of a container. -/
def layout : Layout Container :=
  ((((((((text "name").seq (text "image")).seq (text "imagePullPolicy")).seq
      (texts "command")).seq (texts "args")).seq (records "env" EnvVar.layout)).seq
      (records "ports" ContainerPort.layout)).seq (optNested "resources" Resources.layout)).seq
      (records "volumeMounts" VolumeMount.layout)
    |>.map
      (fun ((((((((name, image), policy), command), args), env), ports), resources), mounts) =>
        ⟨name, image, policy, command, args, env, ports, resources, mounts⟩)
      fun c => ((((((((c.name, c.image), c.imagePullPolicy), c.command), c.args), c.env),
        c.ports), c.resources), c.volumeMounts)

structure Solid (c : Container) : Prop where
  command : Feed.Solid utf8 c.command
  args : Feed.Solid utf8 c.args
  env : Feed.Solid EnvVar.feed c.env
  volumeMounts : Feed.Solid VolumeMount.feed c.volumeMounts

theorem differ : layout.tags.Pairwise Differ := by decide +kernel

/-- **A solid container is read back.** -/
theorem recovers {c : Container} (h : c.Solid) : layout.Recovers c := by
  have hports : (records "ports" ContainerPort.layout).Recovers c.ports :=
    recovers_records ContainerPort.differ (fun p _ => ContainerPort.feed_ne_nil p)
      fun p _ => ContainerPort.recovers p
  have henv : (records "env" EnvVar.layout).Recovers c.env :=
    recovers_records EnvVar.differ h.env fun v _ => EnvVar.recovers v
  have hresources : (optNested "resources" Resources.layout).Recovers c.resources :=
    recovers_optNested Resources.differ fun r _ => Resources.recovers r
  have hmounts : (records "volumeMounts" VolumeMount.layout).Recovers c.volumeMounts :=
    recovers_records VolumeMount.differ h.volumeMounts fun m _ => VolumeMount.recovers m
  exact .map (((((((((recovers_text _ _).seq (recovers_text _ _)).seq (recovers_text _ _)).seq
    (recovers_texts h.command)).seq (recovers_texts h.args)).seq henv).seq hports).seq
      hresources).seq hmounts) rfl

end Container

end Sidecar.Rule
