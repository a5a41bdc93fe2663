/-
**Webhook configurations of the cluster.**

A webhook configuration tells the cluster which requests to send to which webhooks.  Those that the
injector writes differ only in names, paths, selectors and trust; everything else about them is
fixed: a webhook is asked about the creation and update of pods, again if another one changed the
pod, and the cluster goes on without it if it does not answer.

Main definitions:

* `Sidecar.Cluster.WebhookConfiguration` — a configuration as the injector writes it;
* `Sidecar.Cluster.WebhookConfiguration.toJson` — its document;
* `Sidecar.Cluster.WebhookConfiguration.form` — how any configuration is read and written back.
-/

import Sidecar.Cluster.Form
import Sidecar.Cluster.Objects

set_option autoImplicit false

namespace Sidecar.Cluster

/-- The service behind a webhook. -/
structure ServiceReference where
  name : String
  namespaceName : String
  path : String
  port : UInt16
deriving DecidableEq

/-- The JSON form. -/
def ServiceReference.toJson (x : ServiceReference) : Json :=
  .object [("name", some (.str x.name)), ("namespace", some (.str x.namespaceName)),
    ("path", some (.str x.path)), ("port", some (.int x.port.toNat))]

/-- A webhook of a rule. -/
structure Webhook where
  name : String
  service : ServiceReference
  /-- The certificates that the cluster trusts for the service. -/
  caBundle : List UInt8
  objectSelector : Option LabelSelector
  namespaceSelector : Option LabelSelector
deriving DecidableEq

/-- The requests that a webhook is asked about. -/
def Webhook.operations : Json :=
  .object [("apiGroups", some (.strings [""])), ("apiVersions", some (.strings ["v1"])),
    ("operations", some (.strings ["CREATE", "UPDATE"])), ("resources", some (.strings ["pods"]))]

/-- The JSON form. -/
def Webhook.toJson (x : Webhook) : Json :=
  .object [("admissionReviewVersions", some (.strings ["v1", "v1beta1"])),
    ("clientConfig", some (.object [("caBundle", some (.str (Text.Base64.encode x.caBundle))),
      ("service", some x.service.toJson)])),
    ("failurePolicy", some (.str "Ignore")), ("name", some (.str x.name)),
    ("namespaceSelector", x.namespaceSelector.map LabelSelector.toJson),
    ("objectSelector", x.objectSelector.map LabelSelector.toJson),
    ("reinvocationPolicy", some (.str "IfNeeded")), ("rules", some (.arr [Webhook.operations])),
    ("sideEffects", some (.str "None"))]

/-- A configuration as the injector writes it. -/
structure WebhookConfiguration where
  name : String
  resourceVersion : Option String
  webhooks : List Webhook
deriving DecidableEq

namespace WebhookConfiguration

/-- The version of the type. -/
def apiVersion : String := "admissionregistration.k8s.io/v1"

/-- The name of the type. -/
def kind : String := "MutatingWebhookConfiguration"

/-- The JSON form. -/
def toJson (x : WebhookConfiguration) : Json :=
  .object [("apiVersion", some (.str apiVersion)), ("kind", some (.str kind)),
    ("metadata", some (.object [("name", some (.str x.name)),
      ("resourceVersion", x.resourceVersion.map .str)])),
    ("webhooks", some (objects Webhook.toJson x.webhooks))]

/-! ### Any configuration -/

/-- A member that is written if it is present. -/
def optional (name : String) (form : Form) : String × Bool × Form := (name, false, form)

/-- A member that is always written. -/
def required (name : String) (form : Form) : String × Bool × Form := (name, true, form)

/-- A list of texts. -/
def texts : Form := .list .text

/-- Metadata. -/
def metadataForm : Form :=
  .object "ObjectMeta" [optional "annotations" (.map .text), optional "creationTimestamp" .time,
    optional "deletionGracePeriodSeconds" .int64, optional "deletionTimestamp" .time,
    optional "finalizers" texts, optional "generateName" .text, optional "generation" .int64,
    optional "labels" (.map .text),
    optional "managedFields" (.list (.object "ManagedFieldsEntry" [optional "apiVersion" .text,
      optional "fieldsType" .text, optional "fieldsV1" .any, optional "manager" .text,
      optional "operation" .text, optional "subresource" .text, optional "time" .time])),
    optional "name" .text, optional "namespace" .text,
    optional "ownerReferences" (.list (.object "OwnerReference" [required "apiVersion" .text,
      optional "blockOwnerDeletion" .bool, optional "controller" .bool, required "kind" .text,
      required "name" .text, required "uid" .text])),
    optional "resourceVersion" .text, optional "selfLink" .text, optional "uid" .text]

/-- A selector of objects by their labels. -/
def selectorForm : Form :=
  .object "LabelSelector" [
    optional "matchExpressions" (.list (.object "LabelSelectorRequirement" [required "key" .text,
      required "operator" .text, optional "values" texts])),
    optional "matchLabels" (.map .text)]

/-- How to reach a webhook. -/
def clientForm : Form :=
  .object "WebhookClientConfig" [optional "caBundle" .bytes,
    optional "service" (.object "ServiceReference" [required "name" .text,
      required "namespace" .text, optional "path" .text, optional "port" .int32]),
    optional "url" .text]

/-- A webhook. -/
def webhookForm : Form :=
  .object "MutatingWebhook" [required "admissionReviewVersions" texts,
    required "clientConfig" clientForm, optional "failurePolicy" .text,
    optional "matchConditions" (.list (.object "MatchCondition" [required "expression" .text,
      required "name" .text])),
    optional "matchPolicy" .text, required "name" .text,
    optional "namespaceSelector" selectorForm, optional "objectSelector" selectorForm,
    optional "reinvocationPolicy" .text,
    optional "rules" (.list (.object "RuleWithOperations" [optional "apiGroups" texts,
      optional "apiVersions" texts, optional "operations" texts, optional "resources" texts,
      optional "scope" .text])),
    required "sideEffects" .text, optional "timeoutSeconds" .int32]

/-- Any webhook configuration. -/
def form : Form :=
  .object kind [required "apiVersion" (.constant apiVersion), required "kind" (.constant kind),
    required "metadata" metadataForm, optional "webhooks" (.list webhookForm)]

end WebhookConfiguration

end Sidecar.Cluster
