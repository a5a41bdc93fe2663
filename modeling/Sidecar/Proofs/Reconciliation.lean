/-
**Reconciliation over runs.**

The injector brings its configuration about each time it starts, with the rules, the settings and
the certificate of that time, in a store where any call may fail.  What one reconciliation does is
said of any store that it may find; so it holds at every place of a run, and what a run leaves is
what its last reconciliation that succeeded has written.

The only trace of what was in the store before is the version of the object that is replaced.  It is
what makes the second of two equal reconciliations change nothing: the object that it finds is its
own, under the version that it will write again.

Main definitions:

* `Sidecar.Registration.writeCall` — the write that a look at the store calls for;
* `Sidecar.Registration.Reconciles` — how one reconciliation goes in the store that it finds;
* `Sidecar.Registration.history`, `Sidecar.Registration.run` — what comes of reconciliations one
  after another, and the store after them.

Main results:

* `Sidecar.Registration.reconcileIn_cases` — all that a reconciliation can come to;
* `Sidecar.Registration.reconciles` — **how a reconciliation of registered rules goes;**
* `Sidecar.Registration.object_run` — what a run leaves in the store;
* `Sidecar.Registration.reconciles_along_run` — **both, for every run.**
-/

import Sidecar.Proofs.Injection.View
import Sidecar.Proofs.Validated

set_option autoImplicit false

namespace Sidecar

open Cluster Rule

/-! ### What was written is found -/

namespace Store

/-- The metadata of a configuration are its name and, if it has one, its version. -/
theorem metadata?_toJson (configuration : WebhookConfiguration) :
    metadata? "name" configuration.toJson = some configuration.name
      ∧ metadata? "resourceVersion" configuration.toJson = configuration.resourceVersion := by
  have hmetadata : configuration.toJson.member? "metadata"
      = some (.object [("name", some (.str configuration.name)),
        ("resourceVersion", configuration.resourceVersion.map .str)]) := by
    rw [WebhookConfiguration.toJson, Json.member?_object (by simp)]
    rfl
  rw [metadata?, metadata?, hmetadata, Option.bind_some, Option.bind_some,
    Json.member?_object (by simp), Json.member?_object (by simp)]
  refine ⟨rfl, ?_⟩
  cases configuration.resourceVersion <;> rfl

/-- A configuration is found under its own name. -/
theorem get_of_object_eq {store : Store} {configuration : WebhookConfiguration}
    (h : store.object = some configuration.toJson) :
    store.get configuration.name = some configuration.toJson := by
  rw [get, h, Option.filter_some, (metadata?_toJson configuration).1]
  simp

/-- An object that is replaced by itself stays as it is. -/
theorem replace_of_object_eq {store : Store} {configuration : WebhookConfiguration}
    (h : store.object = some configuration.toJson) : store.replace configuration = store := by
  rw [replace, ← h]

end Store

/-- A turn in which one call fails, if it is made. -/
def StoreTurn.refusing (call : StoreCall) : StoreTurn :=
  ⟨fun c => if c = call then some "unavailable" else none, Store.firstVersion⟩

namespace Registration

/-! ### One reconciliation -/

/-- The write that a look at the store under a name calls for. -/
def writeCall (name : String) (store : Store) : StoreCall :=
  match store.get name with
  | none => .create
  | some _ => .replace name

/-- How a reconciliation goes in the store that it finds. -/
structure Reconciles (r : Registration) (configuration : WebhookConfiguration) (turn : StoreTurn)
    (found : Store) : Prop where
  /-- One look comes first, and if it does not fail, the one write that it calls for. -/
  calls : (r.reconcileIn turn found).calls
    = .get r.service.configuration :: if (turn.fault (.get r.service.configuration)).isSome then []
      else [writeCall r.service.configuration found]
  /-- It fails exactly if one of its calls does. -/
  fails_iff : (∃ e, (r.reconcileIn turn found).action = .error e)
    ↔ ∃ call ∈ (r.reconcileIn turn found).calls, ∃ cause, turn.fault call = some cause
  /-- A failure names the configuration and the cause, and leaves the store alone. -/
  failed : ∀ e, (r.reconcileIn turn found).action = .error e →
    (r.reconcileIn turn found).store = found
      ∧ ∃ call ∈ (r.reconcileIn turn found).calls, ∃ cause, turn.fault call = some cause
        ∧ e = .failedToUpsert r.service.configuration cause
  /-- What was not there is created, under the version that the store gives it. -/
  created : (r.reconcileIn turn found).action = .ok .created →
    found.get r.service.configuration = none
      ∧ (r.reconcileIn turn found).store.object
        = some { configuration with resourceVersion := some turn.version }.toJson
  /-- What was there is replaced, and nothing remains of it but its version. -/
  replaced : (r.reconcileIn turn found).action = .ok .replaced →
    ∃ existing, found.get r.service.configuration = some existing
      ∧ (r.reconcileIn turn found).store.object
        = some { configuration with
            resourceVersion := Store.metadata? "resourceVersion" existing }.toJson
  /-- After a success the same again changes nothing, whatever fails, and replaces the object by
  itself, if nothing does. -/
  again : ∀ action, (r.reconcileIn turn found).action = .ok action → ∀ turn' : StoreTurn,
    (r.reconcileIn turn' (r.reconcileIn turn found).store).store = (r.reconcileIn turn found).store
      ∧ ((∀ call, turn'.fault call = none) →
        (r.reconcileIn turn' (r.reconcileIn turn found).store).action = .ok .replaced)

section

variable {r : Registration} {configuration : WebhookConfiguration}

/-- The configuration has its name from the settings, and no version. -/
theorem name_of_desired (h : r.desired = .ok configuration) :
    configuration.name = r.service.configuration ∧ configuration.resourceVersion = none := by
  obtain ⟨webhooks, _, hconfiguration⟩ := bind_eq_ok_iff.1 h
  cases hconfiguration
  exact ⟨rfl, rfl⟩

/-- The write goes by what is found. -/
theorem write_eq_writeCall (version : String) (store : Store) :
    (write configuration version store).1 = writeCall configuration.name store := by
  unfold write writeCall
  cases store.get configuration.name <;> rfl

/-- All that a reconciliation can come to: the look fails, the write fails, or neither. -/
theorem reconcileIn_cases (h : r.desired = .ok configuration) (turn : StoreTurn) (found : Store) :
    (∃ cause, turn.fault (.get r.service.configuration) = some cause
        ∧ r.reconcileIn turn found
          = ⟨.error (.failedToUpsert r.service.configuration cause),
            [.get r.service.configuration], found⟩)
      ∨ (turn.fault (.get r.service.configuration) = none
        ∧ ∃ cause, turn.fault (writeCall r.service.configuration found) = some cause
          ∧ r.reconcileIn turn found
            = ⟨.error (.failedToUpsert r.service.configuration cause),
              [.get r.service.configuration, writeCall r.service.configuration found], found⟩)
      ∨ (turn.fault (.get r.service.configuration) = none
        ∧ turn.fault (writeCall r.service.configuration found) = none
        ∧ r.reconcileIn turn found
          = ⟨.ok (write configuration turn.version found).2.1,
            [.get r.service.configuration, writeCall r.service.configuration found],
            (write configuration turn.version found).2.2⟩) := by
  have hcall : (write configuration turn.version found).1
      = writeCall r.service.configuration found := by
    rw [write_eq_writeCall, (name_of_desired h).1]
  unfold reconcileIn
  simp only [h, (name_of_desired h).1, hcall]
  cases turn.fault (.get r.service.configuration) with
  | some cause => exact .inl ⟨cause, rfl, rfl⟩
  | none =>
    cases turn.fault (writeCall r.service.configuration found) with
    | some cause => exact .inr (.inl ⟨rfl, cause, rfl, rfl⟩)
    | none => exact .inr (.inr ⟨rfl, rfl, rfl⟩)

/-- What a success has written is the configuration under some version. -/
theorem exists_object_of_ok (h : r.desired = .ok configuration) {turn : StoreTurn} {found : Store}
    {action : UpsertAction} (hok : (r.reconcileIn turn found).action = .ok action) :
    ∃ version, (r.reconcileIn turn found).store.object
      = some { configuration with resourceVersion := version }.toJson := by
  rcases reconcileIn_cases h turn found with ⟨_, _, hout⟩ | ⟨_, _, _, hout⟩ | ⟨_, _, hout⟩
  · rw [hout] at hok
    cases hok
  · rw [hout] at hok
    cases hok
  · rw [hout, write]
    cases found.get configuration.name with
    | none => exact ⟨some turn.version, rfl⟩
    | some existing => exact ⟨Store.metadata? "resourceVersion" existing, rfl⟩

/-- In a store that has the configuration under some version, a reconciliation changes nothing, and
if no call fails, it replaces the object. -/
theorem reconcileIn_of_object_eq (h : r.desired = .ok configuration) {found : Store}
    {version : Option String}
    (hobject : found.object = some { configuration with resourceVersion := version }.toJson)
    (turn : StoreTurn) :
    (r.reconcileIn turn found).store = found
      ∧ ((∀ call, turn.fault call = none) →
        (r.reconcileIn turn found).action = .ok .replaced) := by
  have hget : found.get configuration.name
      = some { configuration with resourceVersion := version }.toJson :=
    Store.get_of_object_eq hobject
  have hversion := (Store.metadata?_toJson { configuration with resourceVersion := version }).2
  -- the version that is carried over is the one that the object has already
  have hwrite : write configuration turn.version found
      = (.replace configuration.name, .replaced, found) := by
    unfold write
    simp only [hget, hversion, Store.replace_of_object_eq hobject]
  rcases reconcileIn_cases h turn found with
    ⟨cause, hfault, hout⟩ | ⟨_, cause, hfault, hout⟩ | ⟨_, _, hout⟩
  · rw [hout]
    exact ⟨rfl, fun hnone => absurd hfault (by simp [hnone])⟩
  · rw [hout]
    exact ⟨rfl, fun hnone => absurd hfault (by simp [hnone])⟩
  · rw [hout, hwrite]
    exact ⟨rfl, fun _ => rfl⟩

/-- **How a reconciliation goes** whose configuration can be described, in any store. -/
theorem reconciles (h : r.desired = .ok configuration) (turn : StoreTurn) (found : Store) :
    Reconciles r configuration turn found := by
  have hname := (name_of_desired h).1
  have hagain : ∀ action, (r.reconcileIn turn found).action = .ok action → _ :=
    fun action hok turn' =>
      reconcileIn_of_object_eq h (exists_object_of_ok h hok).choose_spec turn'
  rcases reconcileIn_cases h turn found with
    ⟨cause, hfault, hout⟩ | ⟨hlook, cause, hfault, hout⟩ | ⟨hlook, hwrite, hout⟩
  · rw [hout] at hagain
    constructor
    all_goals rw [hout]
    · simp [hfault]
    · exact ⟨fun _ => ⟨_, List.mem_singleton.2 rfl, cause, hfault⟩, fun _ => ⟨_, rfl⟩⟩
    · rintro e ⟨⟩
      exact ⟨rfl, _, List.mem_singleton.2 rfl, cause, hfault, rfl⟩
    · rintro ⟨⟩
    · rintro ⟨⟩
    · exact hagain
  · rw [hout] at hagain
    constructor
    all_goals rw [hout]
    · simp [hlook]
    · exact ⟨fun _ => ⟨_, List.mem_pair.2 (.inr rfl), cause, hfault⟩, fun _ => ⟨_, rfl⟩⟩
    · rintro e ⟨⟩
      exact ⟨rfl, _, List.mem_pair.2 (.inr rfl), cause, hfault, rfl⟩
    · rintro ⟨⟩
    · rintro ⟨⟩
    · exact hagain
  · rw [hout] at hagain
    constructor
    all_goals rw [hout]
    · simp [hlook]
    · constructor
      · rintro ⟨e, ⟨⟩⟩
      · rintro ⟨call, hcall, cause, hcause⟩
        rcases List.mem_pair.1 hcall with rfl | rfl
        · rw [hlook] at hcause
          cases hcause
        · rw [hwrite] at hcause
          cases hcause
    · rintro e ⟨⟩
    · simp only [write, ← hname]
      cases found.get configuration.name with
      | none => exact fun _ => ⟨rfl, rfl⟩
      | some existing => rintro ⟨⟩
    · simp only [write, ← hname]
      cases found.get configuration.name with
      | none => rintro ⟨⟩
      | some existing => exact fun _ => ⟨existing, rfl, rfl⟩
    · exact hagain

end

/-! ### Runs -/

/-- What comes of reconciliations one after another. -/
def history : Store → List (Registration × StoreTurn) → List Reconciled
  | _, [] => []
  | found, (r, turn) :: rest =>
    r.reconcileIn turn found :: history (r.reconcileIn turn found).store rest

/-- The store after reconciliations one after another. -/
def run (start : Store) (turns : List (Registration × StoreTurn)) : Store :=
  turns.foldl (fun found t => (t.1.reconcileIn t.2 found).store) start

/-- What a run leaves: what was there at the start, if no reconciliation succeeded, and otherwise
the configuration of the last one that did, under some version. -/
theorem object_run (start : Store) {turns : List (Registration × StoreTurn)}
    (hdesired : ∀ t ∈ turns, ∃ configuration, t.1.desired = .ok configuration) :
    ((∀ out ∈ history start turns, ∃ e, out.action = .error e) ∧ run start turns = start)
      ∨ ∃ before r turn after configuration version,
        turns = before ++ (r, turn) :: after ∧ r.desired = .ok configuration
          ∧ (∃ action, (r.reconcileIn turn (run start before)).action = .ok action)
          ∧ (∀ out ∈ history (r.reconcileIn turn (run start before)).store after,
            ∃ e, out.action = .error e)
          ∧ (run start turns).object
            = some { configuration with resourceVersion := version }.toJson := by
  induction turns generalizing start with
  | nil => exact .inl ⟨by simp [history], rfl⟩
  | cons t turns ih =>
    obtain ⟨r, turn⟩ := t
    obtain ⟨configuration, hconfiguration⟩ := hdesired _ (List.mem_cons_self ..)
    rcases ih (r.reconcileIn turn start).store fun t ht => hdesired t (List.mem_cons_of_mem _ ht)
      with ⟨hfail, hsame⟩ | ⟨before, r', turn', after, configuration', version, rfl, hlast⟩
    · -- nothing succeeds behind the first, so that decides
      cases haction : (r.reconcileIn turn start).action with
      | error e =>
        refine .inl ⟨?_, ?_⟩
        · intro out hout
          rcases List.mem_cons.1 hout with rfl | hout
          · exact ⟨e, haction⟩
          · exact hfail out hout
        · exact hsame.trans (reconcileIn_store_of_error haction)
      | ok action =>
        obtain ⟨version, hobject⟩ := exists_object_of_ok hconfiguration haction
        refine .inr ⟨[], r, turn, turns, configuration, version, rfl, hconfiguration,
          ⟨action, haction⟩, hfail, ?_⟩
        have hrun : run start ((r, turn) :: turns) = (r.reconcileIn turn start).store := hsame
        rw [hrun, hobject]
    · exact .inr ⟨(r, turn) :: before, r', turn', after, configuration', version, rfl, hlast⟩

/-- **How the reconciliations of a run go**, in a store with any object or none, each with its own
rules, settings and certificate, and with calls that may fail anywhere: as long as the rules make a
registry, each of them can be described and goes as `Sidecar.Registration.Reconciles` says in the
store that those before it left, and the store at the end has what the last success has written. -/
theorem reconciles_along_run (start : Store) (turns : List (Registration × StoreTurn))
    (hbuilt : ∀ t ∈ turns, ∃ rules, Registry.build rules = .ok t.1.registry) :
    (∀ before r turn after, turns = before ++ (r, turn) :: after →
        ∃ configuration, r.desired = .ok configuration
          ∧ configuration.name = r.service.configuration ∧ configuration.resourceVersion = none
          ∧ Reconciles r configuration turn (run start before))
      ∧ (((∀ out ∈ history start turns, ∃ e, out.action = .error e) ∧ run start turns = start)
        ∨ ∃ before r turn after configuration version,
          turns = before ++ (r, turn) :: after ∧ r.desired = .ok configuration
            ∧ (∃ action, (r.reconcileIn turn (run start before)).action = .ok action)
            ∧ (∀ out ∈ history (r.reconcileIn turn (run start before)).store after,
              ∃ e, out.action = .error e)
            ∧ (run start turns).object
              = some { configuration with resourceVersion := version }.toJson) := by
  have hdesired : ∀ t ∈ turns, ∃ configuration, t.1.desired = .ok configuration := by
    intro t ht
    obtain ⟨rules, hrules⟩ := hbuilt t ht
    exact t.1.exists_desired (Registry.sound_of_build hrules)
  refine ⟨?_, object_run start hdesired⟩
  rintro before r turn after rfl
  obtain ⟨configuration, hconfiguration⟩ :=
    hdesired (r, turn) (List.mem_append_right _ (List.mem_cons_self ..))
  have hdescribed := name_of_desired hconfiguration
  exact ⟨configuration, hconfiguration, hdescribed.1, hdescribed.2,
    reconciles hconfiguration turn (run start before)⟩

/-- A configuration of an earlier time, with a webhook of a rule that is gone. -/
def earlier : WebhookConfiguration :=
  ⟨programName, some "42", [⟨"gone", ⟨"", "", "", 1⟩, [], none, none⟩]⟩

/-- A rule for the pods of one application. -/
def webRule : Rule :=
  { (default : Rule) with
    name := "a"
    labelSelector := some ⟨.ofList [("app", "web")], []⟩
    labels := .ofList [("c", "d")] }

/-- The write over a configuration of an earlier time fails, and is made when it is tried again;
later, without any rule, there is not even a look.  What is left is the configuration of the rule,
under the version of the earlier one. -/
theorem reconciles_along_run_of_three :
    ∃ registry configuration, Registry.build [webRule] = .ok registry
      ∧ (Registration.mk registry {} {} "certificate").desired = .ok configuration
      ∧ (run ⟨some earlier.toJson⟩
          [(⟨registry, {}, {}, "certificate"⟩, .refusing (.replace programName)),
            (⟨registry, {}, {}, "certificate"⟩, .refusing .create),
            (⟨.empty, {}, {}, "other"⟩, .refusing (.get programName))]).object
        = some { configuration with resourceVersion := some "42" }.toJson := by
  obtain ⟨registry, hbuild⟩ : ∃ registry, Registry.build [webRule] = .ok registry :=
    ⟨⟨[.ofRule webRule]⟩, by decide +kernel⟩
  obtain ⟨heach, -⟩ := reconciles_along_run ⟨some earlier.toJson⟩
    [(⟨registry, {}, {}, "certificate"⟩, .refusing (.replace programName)),
      (⟨registry, {}, {}, "certificate"⟩, .refusing .create),
      (⟨.empty, {}, {}, "other"⟩, .refusing (.get programName))]
    (by
      simp only [List.forall_mem_cons, List.not_mem_nil, false_implies, implies_true, and_true]
      exact ⟨⟨_, hbuild⟩, ⟨_, hbuild⟩, [], rfl⟩)
  obtain ⟨configuration, hconfiguration, -, -, hfirst⟩ := heach [] _ _ _ rfl
  obtain ⟨_, hsame, -, -, hsecond⟩ := heach [_] _ _ _ rfl
  obtain ⟨_, -, -, -, hthird⟩ := heach [_, _] _ _ [] rfl
  cases hconfiguration.symm.trans hsame
  have hfound : (Store.mk (some earlier.toJson)).get programName = some earlier.toJson :=
    Store.get_of_object_eq rfl
  have hcall : writeCall programName ⟨some earlier.toJson⟩ = .replace programName := by
    rw [writeCall, hfound]
  -- the first write is refused
  obtain ⟨e, he⟩ := hfirst.fails_iff.2 ⟨.replace programName, by
    rw [hfirst.calls]
    exact List.mem_cons_of_mem _ (List.mem_singleton.2 hcall.symm), "unavailable",
      by simp [StoreTurn.refusing]⟩
  have hone : run ⟨some earlier.toJson⟩
      [(⟨registry, {}, {}, "certificate"⟩, .refusing (.replace programName))]
      = ⟨some earlier.toJson⟩ := (hfirst.failed e he).1
  -- the second is made, for nothing has to be created
  rw [hone] at hsecond
  have hcalls := hsecond.calls
  rw [if_neg (by simp [StoreTurn.refusing]), hcall] at hcalls
  have htwo : (Registration.reconcileIn ⟨registry, {}, {}, "certificate"⟩ (.refusing .create)
      ⟨some earlier.toJson⟩).store.object
      = some { configuration with resourceVersion := some "42" }.toJson := by
    cases haction : (Registration.reconcileIn ⟨registry, {}, {}, "certificate"⟩ (.refusing .create)
        ⟨some earlier.toJson⟩).action with
    | error e =>
      obtain ⟨call, hmem, cause, hcause⟩ := hsecond.fails_iff.1 ⟨e, haction⟩
      rw [hcalls] at hmem
      rcases List.mem_pair.1 hmem with rfl | rfl <;> simp [StoreTurn.refusing] at hcause
    | ok action =>
      cases action with
      | created =>
        have hnone := (hsecond.created haction).1
        exact absurd (hfound.symm.trans hnone) (by simp)
      | replaced =>
        obtain ⟨existing, hexisting, hobject⟩ := hsecond.replaced haction
        cases hfound.symm.trans hexisting
        rw [hobject, (Store.metadata?_toJson earlier).2]
        rfl
  -- the look of the third is refused
  obtain ⟨e', he'⟩ := hthird.fails_iff.2 ⟨.get programName, by
    rw [hthird.calls]
    exact List.mem_cons_self .., "unavailable", by simp [StoreTurn.refusing]⟩
  have hthree := (hthird.failed e' he').1
  refine ⟨registry, configuration, hbuild, hconfiguration, (congrArg Store.object hthree).trans ?_⟩
  exact (congrArg (fun found => (Registration.reconcileIn ⟨registry, {}, {}, "certificate"⟩
    (.refusing .create) found).store.object) hone).trans htwo

end Registration

end Sidecar
