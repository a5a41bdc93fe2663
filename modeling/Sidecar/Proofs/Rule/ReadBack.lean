/-
**Rules are read back.**

Every part of a rule, and the rule itself, is read as what it was when it was written.  A field that
is left out when it is written has the value that its reader takes it to have, and every other field
stands under the name that its reader asks for.

Main results: `Sidecar.Rule.readsBack`, and the same for each part of a rule.
-/

import Sidecar.Proofs.Decode.ReadBack
import Sidecar.Rule.Basic

set_option autoImplicit false

namespace Sidecar.Rule

variable {δ : Type} [Source δ]

/-! ### Selectors -/

theorem Requirement.readsBack (kind : SelectorKind) (r : Requirement) :
    ReadsBack (decode (δ := δ) kind) r.encode r := by
  obtain ⟨key, operator, values⟩ := r
  exact Fields.pure mk
    |>.ap (.required (readsBack_text key))
    |>.ap (.required (readsBack_text operator))
    |>.ap (.list readsBack_text values)
    |>.record (by rfl) (by decide)

theorem LabelSelector.readsBack (s : LabelSelector) : ReadsBack (decode (δ := δ)) s.encode s := by
  obtain ⟨labels, expressions⟩ := s
  exact Fields.pure mk
    |>.ap (.map labels)
    |>.ap (.list (Requirement.readsBack .label) expressions)
    |>.record (by rfl) (by decide)

theorem NodeSelectorTerm.readsBack (t : NodeSelectorTerm) :
    ReadsBack (decode (δ := δ)) t.encode t := by
  obtain ⟨expressions, fields⟩ := t
  exact Fields.pure mk
    |>.ap (.list (Requirement.readsBack .node) expressions)
    |>.ap (.list (Requirement.readsBack .node) fields)
    |>.record (by rfl) (by decide)

theorem NodeSelector.readsBack (s : NodeSelector) : ReadsBack (decode (δ := δ)) s.encode s := by
  obtain ⟨terms⟩ := s
  exact Fields.pure mk
    |>.ap (.given (.list NodeSelectorTerm.readsBack terms))
    |>.record (by rfl) (by decide)

theorem NodeAffinity.readsBack (a : NodeAffinity) : ReadsBack (decode (δ := δ)) a.encode a := by
  obtain ⟨required⟩ := a
  exact Fields.pure mk
    |>.ap (.option NodeSelector.readsBack required)
    |>.record (by rfl) (by decide)

theorem Affinity.readsBack (a : Affinity) : ReadsBack (decode (δ := δ)) a.encode a := by
  obtain ⟨nodeAffinity⟩ := a
  exact Fields.pure mk
    |>.ap (.option NodeAffinity.readsBack nodeAffinity)
    |>.record (by rfl) (by decide)

theorem Toleration.readsBack (t : Toleration) : ReadsBack (decode (δ := δ)) t.encode t := by
  obtain ⟨key, operator, value, effect, seconds⟩ := t
  exact Fields.pure mk
    |>.ap (.text key)
    |>.ap (.text operator)
    |>.ap (.text value)
    |>.ap (.text effect)
    |>.ap (.option readsBack_int64 seconds)
    |>.record (by rfl) (by decide)

/-! ### Volumes -/

theorem KeyToPath.readsBack (k : KeyToPath) : ReadsBack (decode (δ := δ)) k.encode k := by
  obtain ⟨key, path, mode⟩ := k
  exact Fields.pure mk
    |>.ap (.required (readsBack_text key))
    |>.ap (.required (readsBack_text path))
    |>.ap (.option readsBack_int32 mode)
    |>.record (by rfl) (by decide)

theorem ConfigMapSource.readsBack (s : ConfigMapSource) :
    ReadsBack (decode (δ := δ)) s.encode s := by
  obtain ⟨name, items, mode, isOptional⟩ := s
  exact Fields.pure mk
    |>.ap (.required (readsBack_text name))
    |>.ap (.list KeyToPath.readsBack items)
    |>.ap (.option readsBack_int32 mode)
    |>.ap (.option readsBack_bool isOptional)
    |>.record (by rfl) (by decide)

theorem SecretSource.readsBack (s : SecretSource) : ReadsBack (decode (δ := δ)) s.encode s := by
  obtain ⟨name, items, mode, isOptional⟩ := s
  exact Fields.pure mk
    |>.ap (.required (readsBack_text name))
    |>.ap (.list KeyToPath.readsBack items)
    |>.ap (.option readsBack_int32 mode)
    |>.ap (.option readsBack_bool isOptional)
    |>.record (by rfl) (by decide)

theorem EmptyDirSource.readsBack (s : EmptyDirSource) :
    ReadsBack (decode (δ := δ)) s.encode s := by
  obtain ⟨medium, sizeLimit⟩ := s
  exact Fields.pure mk
    |>.ap (.text medium)
    |>.ap (.text sizeLimit)
    |>.record (by rfl) (by decide)

theorem Volume.readsBack (v : Volume) : ReadsBack (decode (δ := δ)) v.encode v := by
  obtain ⟨name, configMap, secret, emptyDir⟩ := v
  exact Fields.pure mk
    |>.ap (.required (readsBack_text name))
    |>.ap (.option ConfigMapSource.readsBack configMap)
    |>.ap (.option SecretSource.readsBack secret)
    |>.ap (.option EmptyDirSource.readsBack emptyDir)
    |>.record (by rfl) (by decide)

theorem VolumeMount.readsBack (m : VolumeMount) : ReadsBack (decode (δ := δ)) m.encode m := by
  obtain ⟨name, mountPath, readOnly, recursive, propagation, subPath, subPathExpr⟩ := m
  exact Fields.pure mk
    |>.ap (.required (readsBack_text name))
    |>.ap (.required (readsBack_text mountPath))
    |>.ap (.flag readOnly)
    |>.ap (.text recursive)
    |>.ap (.text propagation)
    |>.ap (.text subPath)
    |>.ap (.text subPathExpr)
    |>.record (by rfl) (by decide)

/-! ### Containers -/

theorem EnvVar.readsBack (v : EnvVar) : ReadsBack (decode (δ := δ)) v.encode v := by
  obtain ⟨name, value⟩ := v
  exact Fields.pure mk
    |>.ap (.required (readsBack_text name))
    |>.ap (.given (readsBack_text value))
    |>.record (by rfl) (by decide)

theorem ContainerPort.readsBack (p : ContainerPort) : ReadsBack (decode (δ := δ)) p.encode p := by
  obtain ⟨name, containerPort, hostPort, hostIP, protocol⟩ := p
  exact Fields.pure mk
    |>.ap (.text name)
    |>.ap (.required (readsBack_int32 containerPort))
    |>.ap (.option readsBack_int32 hostPort)
    |>.ap (.text hostIP)
    |>.ap (.text protocol)
    |>.record (by rfl) (by decide)

theorem Resources.readsBack (r : Resources) : ReadsBack (decode (δ := δ)) r.encode r := by
  obtain ⟨requests, limits⟩ := r
  exact Fields.pure mk
    |>.ap (.map requests)
    |>.ap (.map limits)
    |>.record (by rfl) (by decide)

theorem Container.readsBack (c : Container) : ReadsBack (decode (δ := δ)) c.encode c := by
  obtain ⟨name, image, pullPolicy, command, args, env, ports, resources, mounts⟩ := c
  exact Fields.pure mk
    |>.ap (.required (readsBack_text name))
    |>.ap (.required (readsBack_text image))
    |>.ap (.text pullPolicy)
    |>.ap (.list readsBack_text command)
    |>.ap (.list readsBack_text args)
    |>.ap (.list EnvVar.readsBack env)
    |>.ap (.list ContainerPort.readsBack ports)
    |>.ap (.option Resources.readsBack resources)
    |>.ap (.list VolumeMount.readsBack mounts)
    |>.record (by rfl) (by decide)

/-! ### Rules -/

/-- **A rule is read back as it is written.** -/
theorem readsBack (r : Rule) : ReadsBack (decode (δ := δ)) r.encode r := by
  obtain ⟨name, maxIterations, labelSelector, namespaceSelector, labels, annotations, affinity,
    tolerations, containers, volumes, mounts⟩ := r
  exact Fields.pure mk
    |>.ap (.text name)
    |>.ap (.given (readsBack_uint32 maxIterations))
    |>.ap (.option LabelSelector.readsBack labelSelector)
    |>.ap (.option LabelSelector.readsBack namespaceSelector)
    |>.ap (.map labels)
    |>.ap (.map annotations)
    |>.ap (.option Affinity.readsBack affinity)
    |>.ap (.list Toleration.readsBack tolerations)
    |>.ap (.list Container.readsBack containers)
    |>.ap (.list Volume.readsBack volumes)
    |>.ap (.list VolumeMount.readsBack mounts)
    |>.record (by rfl) (by decide)

end Sidecar.Rule
