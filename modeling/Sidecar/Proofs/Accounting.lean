/-
**The counts account for every admission.**

Each request is answered, and counted as it is answered, on one of many ways out of the handler.
What is counted on each of them is said once, of the admission that it comes to: it counts under
one label, with a patch exactly if it is counted as patched, with its duration exactly if a pod was
read, and with its operations under the name that its rule is reported by.  From there it is a
matter of adding up, one request after another.

Counters have 64 bits.  So a count shows a number exactly as long as that has 64 bits, and goes on
from zero beyond; the same holds of the sum of counts, since none of them is greater than the sum.

Main definitions:

* `Sidecar.Tally.sum` — the sum of the counts under some keys;
* `Sidecar.Shows` — what a counter of 64 bits shows of a number;
* `Sidecar.Visit`, `Sidecar.Webhook.serve` — requests one after another, with their answers and the
  counts after them;
* `Sidecar.Webhook.isAdmitted`, `Sidecar.Webhook.isMutated`, `Sidecar.Webhook.patchOperations` —
  what the counts are of;
* `Sidecar.Webhook.Accounts` — counts that account for answers.

Main results:

* `Sidecar.Engine.outcome_admission_eq_patched_iff`, `Sidecar.Engine.isTimed_admission_iff`,
  `Sidecar.Engine.label_admission_of_patch` — how an admission is counted;
* `Sidecar.Webhook.Accounts.respond` — one more answer is accounted for;
* `Sidecar.Webhook.accounts_of_serve` — **the counts account for all answers.**
-/

import Mathlib.Algebra.GroupWithZero.Nat
import Sidecar.Proofs.Admission

set_option autoImplicit false

namespace Sidecar

/-! ### Counters of 64 bits -/

/-- What a counter of 64 bits, or the sum of some, shows of a number: the number itself if it has 64
bits, and its last 64 bits in any case. -/
structure Shows (shown number : Nat) : Prop where
  eq_of_lt : number < 2 ^ 64 → shown = number
  mod_eq : shown % 2 ^ 64 = number % 2 ^ 64

namespace Shows

theorem zero : Shows 0 0 := ⟨fun _ => rfl, rfl⟩

/-- A counter goes on showing its number when some is added. -/
theorem add {x : UInt64} {number : Nat} (h : Shows x.toNat number) (n : Nat) :
    Shows (x + UInt64.ofNat n).toNat (number + n) := by
  have hsum : (x + UInt64.ofNat n).toNat = (x.toNat + n % 2 ^ 64) % 2 ^ 64 := by
    rw [UInt64.toNat_add, UInt64.toNat_ofNat']
  have hmod := h.mod_eq
  refine ⟨fun hlt => ?_, ?_⟩
  · have hexact := h.eq_of_lt (by omega)
    omega
  · omega

end Shows

namespace Tally

variable {κ : Type}

/-- The sum of the counts under the keys that pass a test. -/
def sum (t : Tally κ) (test : κ → Bool) : Nat :=
  ((t.counts.filter fun c => test c.1).map fun c => c.2.toNat).sum

/-- The keys that came up. -/
def keys (t : Tally κ) : List κ :=
  t.counts.map (·.1)

@[simp] theorem keys_empty : (empty : Tally κ).keys = [] := rfl

variable [DecidableEq κ]

/-- A key comes up at its first addition. -/
theorem map_fst_addTo (key : κ) (n : UInt64) (counts : List (κ × UInt64)) :
    (addTo key n counts).map (·.1)
      = if key ∈ counts.map (·.1) then counts.map (·.1) else counts.map (·.1) ++ [key] := by
  induction counts with
  | nil => rfl
  | cons c counts ih =>
    obtain ⟨k, m⟩ := c
    by_cases hk : k = key
    · subst hk
      simp [addTo]
    · rw [addTo, if_neg hk, List.map_cons, ih]
      simp only [List.map_cons, List.mem_cons, Ne.symm hk, false_or, List.cons_append]
      split <;> rfl

theorem mem_keys_add {t : Tally κ} {key other : κ} {n : UInt64} (h : other ∈ (t.add key n).keys) :
    other = key ∨ other ∈ t.keys := by
  rw [keys, add, map_fst_addTo] at h
  split at h
  · exact .inr h
  · simpa [keys, or_comm] using h

theorem nodup_keys_add {t : Tally κ} (h : t.keys.Nodup) (key : κ) (n : UInt64) :
    (t.add key n).keys.Nodup := by
  rw [keys, add, map_fst_addTo]
  by_cases hkey : key ∈ t.counts.map (·.1)
  · rw [if_pos hkey]
    exact h
  · rw [if_neg hkey]
    simpa using List.Nodup.concat hkey h

/-- An addition under a key that does not pass leaves the sum alone. -/
theorem sum_add_of_not (t : Tally κ) {key : κ} (n : UInt64) {test : κ → Bool}
    (h : test key = false) : (t.add key n).sum test = t.sum test := by
  obtain ⟨counts⟩ := t
  simp only [sum, add]
  induction counts with
  | nil => simp [addTo, h]
  | cons c counts ih =>
    obtain ⟨k, m⟩ := c
    by_cases hk : k = key
    · subst hk
      simp [addTo, h]
    · cases ht : test k <;> simp [addTo, hk, ht, ih]

/-- An addition under a key that passes changes one count in the sum, in 64 bits. -/
theorem exists_sum_add (t : Tally κ) {key : κ} (n : UInt64) {test : κ → Bool}
    (h : test key = true) :
    ∃ old rest, t.sum test = old + rest
      ∧ (t.add key n).sum test = (old + n.toNat) % 2 ^ 64 + rest := by
  obtain ⟨counts⟩ := t
  simp only [sum, add]
  induction counts with
  | nil => exact ⟨0, 0, rfl, by simp [addTo, h]⟩
  | cons c counts ih =>
    obtain ⟨k, m⟩ := c
    by_cases hk : k = key
    · subst hk
      refine ⟨m.toNat, ((counts.filter fun c => test c.1).map fun c => c.2.toNat).sum, ?_, ?_⟩
      · simp [h]
      · simp [addTo, h, UInt64.toNat_add]
    · obtain ⟨old, rest, hsum, hadd⟩ := ih
      cases ht : test k with
      | false => exact ⟨old, rest, by simp [ht, hsum], by simp [addTo, hk, ht, hadd]⟩
      | true =>
        refine ⟨old, m.toNat + rest, ?_, ?_⟩
        · simp only [ht, List.filter_cons_of_pos, List.map_cons, List.sum_cons, hsum]
          omega
        · simp only [addTo, hk, if_false, ht, List.filter_cons_of_pos, List.map_cons,
            List.sum_cons, hadd]
          omega

/-- **A sum of counts goes on showing its number** when one is added. -/
theorem shows_sum_add {t : Tally κ} {test : κ → Bool} {number : Nat}
    (h : Shows (t.sum test) number) (key : κ) :
    Shows ((t.add key 1).sum test) (number + if test key = true then 1 else 0) := by
  cases htest : test key with
  | false =>
    rw [t.sum_add_of_not 1 htest]
    exact h
  | true =>
    obtain ⟨old, rest, hsum, hadd⟩ := t.exists_sum_add 1 htest
    have hone : (1 : UInt64).toNat = 1 := rfl
    rw [hadd, if_pos rfl, hone]
    refine ⟨fun hlt => ?_, ?_⟩
    · -- the count that is changed is not greater than the sum, so it does not overflow
      have hexact := h.eq_of_lt (by omega)
      rw [Nat.mod_eq_of_lt (by omega)]
      omega
    · have hmod := h.mod_eq
      rw [hsum] at hmod
      omega

end Tally

/-! ### How an admission is counted -/

namespace Admission

variable (a : Admission) (seconds : Binary64) (metrics : Metrics)

@[simp] theorem count_admissions :
    (a.count seconds metrics).admissions = metrics.admissions.add (a.label, a.outcome) 1 := by
  unfold count
  cases a.isTimed <;> rfl

theorem count_operations :
    (a.count seconds metrics).operations
      = if UInt64.ofNat a.operations = 0 then metrics.operations
        else metrics.operations.add a.label (UInt64.ofNat a.operations) := by
  unfold count
  cases a.isTimed <;> rfl

/-- The count of operations under the label goes up by those of the patch. -/
theorem count_operations_count (name : String) :
    (a.count seconds metrics).operations.count name
      = if a.label = name then metrics.operations.count name + UInt64.ofNat a.operations
        else metrics.operations.count name := by
  rw [count_operations]
  by_cases hzero : UInt64.ofNat a.operations = 0
  · rw [if_pos hzero, hzero, UInt64.add_zero, ite_self]
  · rw [if_neg hzero, Tally.count_add]

/-- A count of operations comes up only with operations. -/
theorem mem_keys_count_operations {name : String}
    (h : name ∈ (a.count seconds metrics).operations.keys) :
    (a.label = name ∧ a.operations ≠ 0) ∨ name ∈ metrics.operations.keys := by
  rw [count_operations] at h
  by_cases hzero : UInt64.ofNat a.operations = 0
  · rw [if_pos hzero] at h
    exact .inr h
  · rw [if_neg hzero] at h
    rcases Tally.mem_keys_add h with rfl | hmem
    · exact .inl ⟨rfl, fun hnone => hzero (by rw [hnone]; rfl)⟩
    · exact .inr hmem

theorem nodup_keys_count_operations (h : metrics.operations.keys.Nodup) :
    (a.count seconds metrics).operations.keys.Nodup := by
  rw [count_operations]
  split
  · exact h
  · exact Tally.nodup_keys_add h a.label _

theorem count_durations_count :
    (a.count seconds metrics).durations.count
      = metrics.durations.count + UInt64.ofNat (if a.isTimed then 1 else 0) := by
  unfold count
  cases a.isTimed with
  | false => exact (UInt64.add_zero _).symm
  | true => rfl

end Admission

namespace Engine

variable (engine : Engine) (fingerprint : String) (type : TypeMeta) (request : AdmissionRequest)
  (now : Timestamp)

/-- An admission is counted as patched exactly if it has a patch. -/
theorem outcome_admission_eq_patched_iff :
    (engine.admission fingerprint type request now).outcome = .patched
      ↔ (engine.admission fingerprint type request now).response.patch.isSome = true := by
  unfold admission
  repeat' split
  all_goals simp [AdmissionResponse.allow]

/-- Its duration is counted exactly if it is about a pod that could be read. -/
theorem isTimed_admission_iff :
    (engine.admission fingerprint type request now).isTimed = true
      ↔ request.IsForPod ∧ request.pod?.isSome = true := by
  unfold admission
  by_cases hkind : request.IsForPod
  · have hother : ¬ (request.kind ≠ "Pod" ∨ request.group ≠ "") := by
      simp [hkind.1, hkind.2]
    rw [if_neg hother]
    cases hobject : request.object with
    | none => simp [AdmissionRequest.pod?, hobject]
    | some object =>
      cases hpod : Cluster.Pod.ofJson? object with
      | none => simp [AdmissionRequest.pod?, hobject, hpod]
      | some pod =>
        simp only [AdmissionRequest.pod?, hobject, Option.bind_some, hpod, Option.isSome_some,
          and_true, iff_true_right hkind]
        split <;> rfl
  · have hother : request.kind ≠ "Pod" ∨ request.group ≠ "" := by
      rwa [AdmissionRequest.IsForPod, Classical.not_and_iff_not_or_not] at hkind
    rw [if_pos hother]
    simp [hkind]

/-- An admission with a patch is counted under the name that the rule is reported by. -/
theorem label_admission_of_patch
    (h : (engine.admission fingerprint type request now).response.patch.isSome = true) :
    (engine.registry.resolve? fingerprint).map (·.displayName)
      = some (engine.admission fingerprint type request now).label := by
  obtain ⟨patch, hpatch⟩ := Option.isSome_iff_exists.1 h
  obtain ⟨hkind, pod, rule, hpod, hpatched⟩ :=
    (engine.admission_patch_iff fingerprint type now patch).1 hpatch
  obtain ⟨registered, spec, hfound, -, hinject⟩ := (mutate_eq_patched_iff ..).1 hpatched
  obtain ⟨_, _, _, _, _, hname, _⟩ := (inject_eq_patched_iff ..).1 hinject
  have hlabel : (engine.admission fingerprint type request now).label = rule := by
    have hother : ¬ (request.kind ≠ "Pod" ∨ request.group ≠ "") := by
      simp [hkind.1, hkind.2]
    obtain ⟨object, hobject, hread⟩ := Option.bind_eq_some_iff.1 hpod
    rw [admission, if_neg hother]
    simp only [hobject, hread, hpatched]
  rw [hfound, Option.map_some, hlabel, hname]

end Engine

/-! ### Answers and counts -/

/-- A request with the time at which it comes and the seconds that it takes. -/
structure Visit where
  request : Http.Request
  now : Timestamp
  seconds : Binary64

/-- A request with its answer. -/
abbrev Exchange := Visit × WebhookReply

/-- The patch that an answer carries. -/
def WebhookReply.patch? : WebhookReply → Option Json.Patch
  | .plain _ => none
  | .review response => response.patch

namespace Webhook

/-- What fills the holes of the path, if the router hands a request to the admissions. -/
def captures? (w : Webhook) (v : Visit) : Option (List (String × String)) :=
  match w.router.dispatch v.request.method (Http.pathOf v.request.target) with
  | .handler .admission captures => some captures
  | _ => none

/-- The rule that a request's path names, if there is one. -/
def rule? (w : Webhook) (v : Visit) : Option RegisteredRule :=
  (w.captures? v).bind fun captures =>
    match fingerprintOf captures with
    | .ok fingerprint => w.engine.registry.resolve? fingerprint
    | .error _ => none

/-- Whether the admissions answer a request by 200. -/
def isAdmitted (w : Webhook) (e : Exchange) : Bool :=
  (w.captures? e.1).isSome && e.2.status == 200

/-- Whether an admitted request is about a pod that can be read. -/
def isMutated (w : Webhook) (e : Exchange) : Bool :=
  w.isAdmitted e &&
    match w.reader e.1.request.body with
    | some ⟨_, some asked⟩ => asked.kind == "Pod" && asked.group == "" && asked.pod?.isSome
    | _ => false

/-- How many operations the answer carries for rules that are reported by the name. -/
def patchOperations (w : Webhook) (name : String) (e : Exchange) : Nat :=
  if (w.rule? e.1).map (·.displayName) = some name then (e.2.patch?.map List.length).getD 0 else 0

/-- Answers requests one after another, and counts. -/
def serve (w : Webhook) : Metrics → List Visit → List Exchange × Metrics
  | metrics, [] => ([], metrics)
  | metrics, v :: visits =>
    let (reply, counted) := w.respond v.request v.now v.seconds metrics
    let (exchanges, last) := serve w counted visits
    ((v, reply) :: exchanges, last)

/-- Counts that account for answers. -/
structure Accounts (w : Webhook) (exchanges : List Exchange) (metrics : Metrics) : Prop where
  /-- All counts of admissions together show how many requests were admitted. -/
  admitted : Shows (metrics.admissions.sum fun _ => true) (exchanges.countP w.isAdmitted)
  /-- Those of patched ones show how many answers carry a patch. -/
  patched : Shows (metrics.admissions.sum fun key => key.2 = .patched)
    (exchanges.countP fun e => e.2.patch?.isSome)
  /-- The count of operations under a name shows how many there were for rules of that name. -/
  operations : ∀ name, Shows (metrics.operations.count name).toNat
    (exchanges.map (w.patchOperations name)).sum
  /-- A name has at most one such count, -/
  nodup : metrics.operations.keys.Nodup
  /-- and without operations none. -/
  absent : ∀ name, (exchanges.map (w.patchOperations name)).sum = 0 →
    name ∉ metrics.operations.keys
  /-- The count of durations shows how many of the requests were about a pod that could be read. -/
  durations : Shows metrics.durations.count.toNat (exchanges.countP w.isMutated)

theorem accounts_fresh (w : Webhook) : w.Accounts [] .fresh where
  admitted := Shows.zero
  patched := Shows.zero
  operations _ := Shows.zero
  nodup := List.nodup_nil
  absent name _ := by simp [Metrics.fresh]
  durations := Shows.zero

/-- A path that gives no fingerprint is not answered by 200. -/
theorem status_ne_of_fingerprintOf {captures : List (String × String)} {response : Http.Response}
    (h : fingerprintOf captures = .error response) : response.status ≠ 200 := by
  unfold fingerprintOf at h
  repeat' split at h
  all_goals cases h
  all_goals simp [Http.Response.text]

/-- The handler of admissions comes to the admission of what the body asks, or to an answer that is
not 200. -/
theorem admission_cases (w : Webhook) (captures : List (String × String))
    (request : Http.Request) (now : Timestamp) :
    (∃ response, w.admission captures request now = .error response ∧ response.status ≠ 200)
      ∨ ∃ fingerprint type asked, fingerprintOf captures = .ok fingerprint
        ∧ request.Asks w.reader type asked
        ∧ w.admission captures request now
          = .ok (w.engine.admission fingerprint type asked now) := by
  cases hpath : fingerprintOf captures with
  | error response =>
    exact .inl ⟨response, by simp [admission, hpath, bind, Except.bind],
      status_ne_of_fingerprintOf hpath⟩
  | ok fingerprint =>
    rcases Nat.lt_or_ge Http.Request.maxBody request.body.size with hlong | hsize
    · refine .inl ⟨.text 413 "Failed to buffer the request body: length limit exceeded", ?_, ?_⟩
      · simp [admission, hpath, bind, Except.bind, hlong, throw, throwThe, MonadExceptOf.throw]
      · simp [Http.Response.text]
    · rw [admission_eq hpath hsize]
      cases hreview : request.review w.reader with
      | error refusal => exact .inl ⟨_, rfl, by simp [Http.Response.text]⟩
      | ok asked =>
        obtain ⟨type, asked⟩ := asked
        obtain ⟨_, _, hasks⟩ := Http.Request.review_eq_ok_iff.1 hreview
        exact .inr ⟨fingerprint, type, asked, rfl, hasks, rfl⟩

/-- Every answer is plain and leaves the counts alone, or is a review that comes of an admission of
what the body asks, counted as that is. -/
theorem respond_cases (w : Webhook) (v : Visit) (metrics : Metrics) :
    (∃ response, w.respond v.request v.now v.seconds metrics = (.plain response, metrics)
        ∧ ((w.captures? v).isSome = true → response.status ≠ 200))
      ∨ ∃ captures fingerprint type asked, w.captures? v = some captures
        ∧ fingerprintOf captures = .ok fingerprint ∧ v.request.Asks w.reader type asked
        ∧ w.respond v.request v.now v.seconds metrics
          = (.review (w.engine.admission fingerprint type asked v.now).response,
            (w.engine.admission fingerprint type asked v.now).count v.seconds metrics) := by
  unfold respond captures?
  cases hroute : w.router.dispatch v.request.method (Http.pathOf v.request.target) with
  | notFound => exact .inl ⟨_, rfl, by simp⟩
  | methodNotAllowed => exact .inl ⟨_, rfl, by simp⟩
  | handler route captures =>
    cases route with
    | healthcheck => exact .inl ⟨_, rfl, by simp⟩
    | admission =>
      rcases w.admission_cases captures v.request v.now with
        ⟨response, hfailed, hstatus⟩ | ⟨fingerprint, type, asked, hpath, hasks, hok⟩
      · exact .inl ⟨response, by simp only [hfailed], fun _ => hstatus⟩
      · exact .inr ⟨captures, fingerprint, type, asked, rfl, hpath, hasks, by simp only [hok]⟩

/-- The operations of an admission's patch are for the rule that the admission is counted under. -/
theorem patchOperations_of_admission (w : Webhook) (v : Visit)
    {captures : List (String × String)} {fingerprint : String} {type : TypeMeta}
    {asked : AdmissionRequest} (hcaptures : w.captures? v = some captures)
    (hpath : fingerprintOf captures = .ok fingerprint) (name : String) :
    w.patchOperations name (v, .review (w.engine.admission fingerprint type asked v.now).response)
      = if (w.engine.admission fingerprint type asked v.now).label = name
        then (w.engine.admission fingerprint type asked v.now).operations else 0 := by
  have hrule : w.rule? v = w.engine.registry.resolve? fingerprint := by
    simp only [rule?, hcaptures, Option.bind_some, hpath]
  rw [patchOperations, hrule]
  simp only [WebhookReply.patch?]
  cases hpatch : (w.engine.admission fingerprint type asked v.now).response.patch with
  | none => simp [Admission.operations, hpatch]
  | some patch =>
    have hlabel := w.engine.label_admission_of_patch fingerprint type asked v.now (by simp [hpatch])
    rw [hlabel]
    simp [Admission.operations, hpatch]

/-- The admissions about pods that can be read are those of which the duration is counted. -/
theorem isMutated_of_admission (w : Webhook) (v : Visit)
    {captures : List (String × String)} {fingerprint : String} {type : TypeMeta}
    {asked : AdmissionRequest} (hcaptures : w.captures? v = some captures)
    (hasks : v.request.Asks w.reader type asked) :
    w.isMutated (v, .review (w.engine.admission fingerprint type asked v.now).response)
      = (w.engine.admission fingerprint type asked v.now).isTimed := by
  have hadmitted : w.isAdmitted
      (v, .review (w.engine.admission fingerprint type asked v.now).response) = true := by
    simp [isAdmitted, hcaptures, WebhookReply.status]
  have hparse : w.reader v.request.body = some ⟨type, some asked⟩ := hasks
  rw [isMutated, hadmitted, Bool.true_and, hparse, Bool.eq_iff_iff,
    w.engine.isTimed_admission_iff fingerprint type asked v.now]
  simp [AdmissionRequest.IsForPod, and_assoc]

namespace Accounts

variable {w : Webhook} {exchanges : List Exchange} {metrics : Metrics}

/-- An answer that is no admission needs no count. -/
theorem append_idle (h : w.Accounts exchanges metrics) {e : Exchange}
    (hadmitted : w.isAdmitted e = false) (hpatch : e.2.patch? = none) :
    w.Accounts (exchanges ++ [e]) metrics := by
  have hmutated : w.isMutated e = false := by rw [isMutated, hadmitted, Bool.false_and]
  have hoperations : ∀ name, w.patchOperations name e = 0 := fun name => by
    simp [patchOperations, hpatch]
  constructor
  · simpa [List.countP_append, hadmitted] using h.admitted
  · simpa [List.countP_append, hpatch] using h.patched
  · simpa [hoperations] using h.operations
  · exact h.nodup
  · simpa [hoperations] using h.absent
  · simpa [List.countP_append, hmutated] using h.durations

/-- An answer that is an admission needs the counts of that. -/
theorem append_admission (h : w.Accounts exchanges metrics) {e : Exchange} (a : Admission)
    (seconds : Binary64) (hadmitted : w.isAdmitted e = true)
    (hpatched : a.outcome = .patched ↔ e.2.patch?.isSome = true)
    (hoperations : ∀ name,
      w.patchOperations name e = if a.label = name then a.operations else 0)
    (hmutated : w.isMutated e = a.isTimed) :
    w.Accounts (exchanges ++ [e]) (a.count seconds metrics) := by
  constructor
  · have hsum := Tally.shows_sum_add h.admitted (a.label, a.outcome)
    simpa [List.countP_append, hadmitted] using hsum
  · have hsum := Tally.shows_sum_add h.patched (a.label, a.outcome)
    simpa [List.countP_append, hpatched] using hsum
  · intro name
    rw [List.map_append, List.sum_append, List.map_singleton, List.sum_singleton, hoperations,
      a.count_operations_count]
    split
    · exact (h.operations name).add a.operations
    · exact h.operations name
  · exact a.nodup_keys_count_operations seconds metrics h.nodup
  · intro name hzero
    rw [List.map_append, List.sum_append, List.map_singleton, List.sum_singleton, hoperations,
      Nat.add_eq_zero_iff] at hzero
    intro hmem
    rcases a.mem_keys_count_operations seconds metrics hmem with ⟨hname, hsome⟩ | hmem
    · rw [if_pos hname] at hzero
      exact hsome hzero.2
    · exact h.absent name hzero.1 hmem
  · rw [List.countP_append, a.count_durations_count]
    simp only [List.countP_singleton, hmutated]
    exact h.durations.add _

/-- **One more answer is accounted for** by what is counted with it. -/
theorem respond (h : w.Accounts exchanges metrics) (v : Visit) :
    w.Accounts (exchanges ++ [(v, (w.respond v.request v.now v.seconds metrics).1)])
      (w.respond v.request v.now v.seconds metrics).2 := by
  rcases w.respond_cases v metrics with ⟨response, hreply, hstatus⟩
    | ⟨captures, fingerprint, type, asked, hcaptures, hpath, hasks, hreply⟩
  · rw [hreply]
    refine h.append_idle ?_ rfl
    simpa [isAdmitted, WebhookReply.status] using hstatus
  · rw [hreply]
    refine h.append_admission _ v.seconds ?_ ?_ ?_ ?_
    · simp [isAdmitted, hcaptures, WebhookReply.status]
    · exact w.engine.outcome_admission_eq_patched_iff fingerprint type asked v.now
    · intro name
      exact w.patchOperations_of_admission v hcaptures hpath name
    · exact w.isMutated_of_admission v hcaptures hasks

/-- More answers, one after another, are accounted for. -/
theorem serve (h : w.Accounts exchanges metrics) (visits : List Visit) :
    w.Accounts (exchanges ++ (w.serve metrics visits).1) (w.serve metrics visits).2 := by
  induction visits generalizing exchanges metrics with
  | nil => simpa [Webhook.serve] using h
  | cons v visits ih => simpa [Webhook.serve] using ih (h.respond v)

end Accounts

/-- What is answered does not depend on what has been counted. -/
theorem respond_fst (w : Webhook) (v : Visit) (metrics other : Metrics) :
    (w.respond v.request v.now v.seconds metrics).1
      = (w.respond v.request v.now v.seconds other).1 := by
  unfold respond
  repeat' split
  all_goals rfl

theorem serve_fst (w : Webhook) (metrics : Metrics) (visits : List Visit) :
    (w.serve metrics visits).1
      = visits.map fun v => (v, (w.respond v.request v.now v.seconds .fresh).1) := by
  induction visits generalizing metrics with
  | nil => rfl
  | cons v visits ih => simp [serve, ih, w.respond_fst v metrics .fresh]

/-- An answer other than 200 leaves the counts alone. -/
theorem respond_snd_of_status (w : Webhook) (v : Visit) (metrics : Metrics)
    (h : (w.respond v.request v.now v.seconds metrics).1.status ≠ 200) :
    (w.respond v.request v.now v.seconds metrics).2 = metrics := by
  rcases w.respond_cases v metrics with ⟨response, hreply, -⟩ | ⟨_, _, _, _, -, -, -, hreply⟩
  · rw [hreply]
  · rw [hreply] at h
    exact absurd rfl h

/-- **The counts account for all answers.**  Let any requests be answered one after another, with
nothing counted before.  All counts of admissions together show how many requests the admissions
answered by 200, and those of patched ones how many answers carry a patch; the count of operations
under a name shows how many operations the patches had for rules that are reported by that name, is
the only one under it, and is not there if there were none; and the count of durations shows how
many of the admitted requests were about a pod that could be read.  An answer other than 200, so
every refusal, leaves all counts as they are. -/
theorem accounts_of_serve (w : Webhook) (visits : List Visit) :
    (w.serve .fresh visits).1
        = visits.map (fun v => (v, (w.respond v.request v.now v.seconds .fresh).1))
      ∧ w.Accounts (w.serve .fresh visits).1 (w.serve .fresh visits).2
      ∧ ∀ (v : Visit) metrics, (w.respond v.request v.now v.seconds metrics).1.status ≠ 200 →
        (w.respond v.request v.now v.seconds metrics).2 = metrics :=
  ⟨w.serve_fst .fresh visits, w.accounts_fresh.serve visits, w.respond_snd_of_status⟩

end Webhook

end Sidecar
