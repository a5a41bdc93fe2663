/-
**Registration with the cluster.**

The injector describes itself to the cluster by one webhook configuration, with a webhook for each
rule.  Bringing that about takes one look at what is there and one write: what is missing is
created, and what is there is replaced as a whole, under the version that was seen.

Main definitions:

* `Sidecar.Registration`, `Sidecar.Registration.desired` — what is to be registered, and the
  configuration for it;
* `Sidecar.Store`, `Sidecar.StoreTurn` — a place for one object, with its calls `get`, `create` and
  `replace`, and what it makes of the calls of one reconciliation;
* `Sidecar.Registration.reconcileIn`, `Sidecar.Registration.reconcile` — bringing the configuration
  about in a store whose calls may fail.

Main result: `Sidecar.Registration.reconcileIn_store_of_error` — a failure leaves the store alone.
-/

import Sidecar.Cluster.WebhookConfiguration
import Sidecar.Settings

set_option autoImplicit false

namespace Sidecar

/-- What is to be registered: the rules, the service and path where they are served, and the
certificates to trust. -/
structure Registration where
  registry : Registry
  service : ServiceSettings
  server : ServerSettings
  caBundle : String

/-- Why registration fails. -/
inductive RegistrationError where
  /-- A selector of a rule has no form in the cluster. -/
  | selector (rule : String) (cause : RuleError)
  /-- A call of the store failed. -/
  | failedToUpsert (configuration : String) (cause : String)
deriving DecidableEq

/-- The wording of the error. -/
def RegistrationError.message : RegistrationError → String
  | .selector rule cause => "invalid selector in rule " ++ rule ++ ": " ++ cause.message
  | .failedToUpsert configuration cause =>
    "failed to upsert mutating webhook configuration " ++ configuration ++ ": " ++ cause

/-! ### The configuration -/

namespace Registration

/-- The webhook of a rule. -/
def webhook (r : Registration) (registered : RegisteredRule) :
    Except RegistrationError Cluster.Webhook := do
  let select (selector : Option Rule.LabelSelector) :
      Except RegistrationError (Option Cluster.LabelSelector) :=
    (selector.mapM Rule.LabelSelector.toCluster).mapError
      (.selector registered.displayName)
  let objectSelector ← select registered.rule.labelSelector
  let namespaceSelector ← select registered.rule.namespaceSelector
  pure {
    name := r.service.webhookName registered.fingerprint
    service := {
      name := r.service.name
      namespaceName := r.service.namespaceName
      path := r.server.webhookPath registered.fingerprint
      port := r.service.port }
    caBundle := r.caBundle.toUTF8.toList
    objectSelector
    namespaceSelector }

/-- The configuration as it should be in the cluster. -/
def desired (r : Registration) : Except RegistrationError Cluster.WebhookConfiguration := do
  let webhooks ← r.registry.rules.mapM r.webhook
  pure ⟨r.service.configuration, none, webhooks⟩

end Registration

/-! ### A store for one object -/

/-- A place for one object, as its document. -/
structure Store where
  object : Option Json
deriving DecidableEq, Inhabited

/-- A call of a store. -/
inductive StoreCall where
  | get (name : String)
  | create
  | replace (name : String)
deriving DecidableEq

namespace Store

/-- The text of a member of the object's metadata. -/
def metadata? (name : String) (object : Json) : Option String :=
  match (object.member? "metadata").bind (·.member? name) with
  | some (.str s) => some s
  | _ => none

/-- The object, if it has the name. -/
def get (s : Store) (name : String) : Option Json :=
  s.object.filter fun object => metadata? "name" object == some name

/-- The version that an empty store gives a new object. -/
def firstVersion : String := "1"

/-- The store with a new object in it, under the version that the store gives it. -/
def create (_ : Store) (version : String) (configuration : Cluster.WebhookConfiguration) : Store :=
  ⟨some { configuration with resourceVersion := some version }.toJson⟩

/-- The store with the object as it is given. -/
def replace (_ : Store) (configuration : Cluster.WebhookConfiguration) : Store :=
  ⟨some configuration.toJson⟩

end Store

/-- What a store makes of the calls of one reconciliation. -/
structure StoreTurn where
  /-- The text of the failure of a call, if that fails. -/
  fault : StoreCall → Option String
  /-- The version for an object that is created. -/
  version : String

/-! ### Reconciliation -/

/-- What was done to bring the configuration about. -/
inductive UpsertAction where
  | created
  | replaced
deriving DecidableEq

/-- What came of it: the action or why there is none, the calls made, and the store after them. -/
structure Reconciled where
  action : Except RegistrationError UpsertAction
  calls : List StoreCall
  store : Store

namespace Registration

/-- The write that follows the look at the store, as a call, an action and the store after it. -/
def write (configuration : Cluster.WebhookConfiguration) (version : String) (store : Store) :
    StoreCall × UpsertAction × Store :=
  match store.get configuration.name with
  | none => (.create, .created, store.create version configuration)
  | some existing =>
    (.replace configuration.name, .replaced,
      store.replace { configuration with
        resourceVersion := Store.metadata? "resourceVersion" existing })

/-- Brings the configuration about in a store. -/
def reconcileIn (r : Registration) (turn : StoreTurn) (store : Store) : Reconciled :=
  let failed (cause : String) : Except RegistrationError UpsertAction :=
    .error (.failedToUpsert r.service.configuration cause)
  match r.desired with
  | .error e => ⟨.error e, [], store⟩
  | .ok configuration =>
    let get : StoreCall := .get configuration.name
    match turn.fault get with
    | some cause => ⟨failed cause, [get], store⟩
    | none =>
      let (call, action, written) := write configuration turn.version store
      match turn.fault call with
      | some cause => ⟨failed cause, [get, call], store⟩
      | none => ⟨.ok action, [get, call], written⟩

/-- Brings the configuration about in a store that gives every new object the first version; `fault`
gives the text of the failure of a call, if that fails. -/
def reconcile (r : Registration) (fault : StoreCall → Option String) (store : Store) :
    Reconciled :=
  r.reconcileIn ⟨fault, Store.firstVersion⟩ store

/-- A failure leaves the store alone. -/
theorem reconcileIn_store_of_error {r : Registration} {turn : StoreTurn} {store : Store}
    {e : RegistrationError} (h : (r.reconcileIn turn store).action = .error e) :
    (r.reconcileIn turn store).store = store := by
  unfold reconcileIn at h ⊢
  cases hd : r.desired with
  | error e => rfl
  | ok configuration =>
    simp only [hd] at h ⊢
    cases hget : turn.fault (.get configuration.name) with
    | some cause => rfl
    | none =>
      simp only [hget] at h ⊢
      cases hcall : turn.fault (write configuration turn.version store).1 with
      | some cause => rfl
      | none => simp [hcall] at h

end Registration

end Sidecar
