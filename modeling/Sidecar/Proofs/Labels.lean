/-
**The labels that admissions are counted under.**

An admission is to be counted under the name that the rule of its path is reported by, or under the
text of the path if that names no rule.  Every answer of the engine comes with that name, and so
does every failure of it.  But the engine is asked about pods only: what is about something else, or
about a pod that cannot be read, is counted before any rule is looked up, under the text of the
path.  That text is a fingerprint, so the admissions of a rule that has a name are counted in two
places.

Main definitions:

* `Sidecar.Outcome.rule?` — the rule that an answer names;
* `Sidecar.Webhook.pathText?`, `Sidecar.Webhook.reportedName?` — the text of a request's path, and
  the name that it is to be counted under;
* `Sidecar.Webhook.label?` — the label that it is counted under;
* `Sidecar.Webhook.Labels` — counts that show how often each label came up.

Main results:

* `Sidecar.Engine.rule?_of_mutate` — **every answer names the rule of the fingerprint**;
* `Sidecar.Engine.label_admission` — the label of an admission;
* `Sidecar.Webhook.label?_eq_reportedName?_iff` — when the label is the right one;
* `Sidecar.Webhook.labels_of_serve` — **what the counts show of every run of requests**;
* `Sidecar.Webhook.counted_apart_from_name` — a rule whose admission is not counted under its name.
-/

import Sidecar.Proofs.Accounting

set_option autoImplicit false

namespace Sidecar

/-! ### What the engine answers -/

/-- The rule that an answer names. -/
def Outcome.rule? : Outcome → Option String
  | .patched rule _ => some rule
  | .unknownRule => none
  | .nothingToInject rule => some rule
  | .iterationLimitReached rule _ => some rule

namespace Engine

variable (engine : Engine) (fingerprint : String) (type : TypeMeta) (request : AdmissionRequest)
  (now : Timestamp)

theorem rule?_of_inject {registered : RegisteredRule} {pod : Cluster.Pod}
    {spec : Cluster.PodSpec} {outcome : Outcome}
    (h : engine.inject registered pod spec now = .ok outcome) :
    outcome.rule? = some registered.displayName := by
  obtain ⟨ops, _, h⟩ := bind_eq_ok_iff.1 h
  split at h
  · cases h
    rfl
  · split at h
    · cases h
      rfl
    · cases h
      rfl

/-- **Every answer names the rule of the fingerprint** by what that is reported by. -/
theorem rule?_of_mutate {pod : Cluster.Pod} {outcome : Outcome}
    (h : engine.mutate fingerprint pod now = .ok outcome) :
    outcome.rule? = (engine.registry.resolve? fingerprint).map (·.displayName) := by
  unfold mutate at h
  cases hfound : engine.registry.resolve? fingerprint with
  | none =>
      rw [hfound] at h
      cases h
      rfl
  | some registered =>
      rw [hfound] at h
      cases hspec : pod.spec with
      | none =>
          simp only [hspec] at h
          cases h
      | some spec =>
          simp only [hspec] at h
          exact rule?_of_inject engine now (mapError_eq_ok_iff.1 h)

/-- **The label of an admission**: if it is about a pod that can be read, the name that the rule is
reported by, and otherwise, or if there is no rule, the text that the rule was looked for by. -/
theorem label_admission :
    (engine.admission fingerprint type request now).label
      = if (engine.admission fingerprint type request now).isTimed = true then
          ((engine.registry.resolve? fingerprint).map (·.displayName)).getD fingerprint
        else fingerprint := by
  unfold admission
  split
  · simp
  · split
    · simp
    · split
      · simp
      · split
        · next h => simp [← rule?_of_mutate _ _ _ h, Outcome.rule?]
        · next h => simp [← rule?_of_mutate _ _ _ h, Outcome.rule?]
        · next h => simp [← rule?_of_mutate _ _ _ h, Outcome.rule?]
        · next h => simp [← rule?_of_mutate _ _ _ h, Outcome.rule?]
        · simp

end Engine

namespace Webhook

/-! ### The labels of requests -/

/-- The text in the path of a request, if the router hands that to the admissions and the text can
be read. -/
def pathText? (w : Webhook) (v : Visit) : Option String :=
  (w.captures? v).bind fun captures => (fingerprintOf captures).toOption

/-- The name that a request is to be counted under: the one that the rule of its path is reported
by, and if there is no such rule the text of the path. -/
def reportedName? (w : Webhook) (v : Visit) : Option String :=
  (w.pathText? v).map fun text => ((w.rule? v).map (·.displayName)).getD text

/-- The label that an admitted request is counted under: the right one if the request is about a pod
that can be read, and otherwise the text of its path. -/
def label? (w : Webhook) (e : Exchange) : Option String :=
  if w.isMutated e then w.reportedName? e.1 else w.pathText? e.1

theorem pathText?_of_captures {w : Webhook} {v : Visit} {captures : List (String × String)}
    {fingerprint : String} (hcaptures : w.captures? v = some captures)
    (hpath : fingerprintOf captures = .ok fingerprint) : w.pathText? v = some fingerprint := by
  simp [pathText?, hcaptures, hpath, Except.toOption]

theorem rule?_eq (w : Webhook) (v : Visit) :
    w.rule? v = (w.pathText? v).bind w.engine.registry.resolve? := by
  unfold rule? pathText?
  cases w.captures? v with
  | none => rfl
  | some captures =>
      simp only [Option.bind_some]
      cases fingerprintOf captures <;> rfl

/-- The text of a path that names a rule is the fingerprint of that. -/
theorem pathText?_of_rule? {w : Webhook} {v : Visit} {r : RegisteredRule} (h : w.rule? v = some r) :
    w.pathText? v = some r.fingerprint := by
  rw [rule?_eq] at h
  obtain ⟨text, htext, hfound⟩ := Option.bind_eq_some_iff.1 h
  have hsame := List.find?_some hfound
  rw [htext, eq_of_beq hsame]

theorem displayName_eq_fingerprint_iff {r : RegisteredRule} :
    r.displayName = r.fingerprint ↔ r.rule.name = "" ∨ r.rule.name = r.fingerprint := by
  unfold RegisteredRule.displayName
  by_cases hname : r.rule.name = ""
  · simp [hname]
  · simp [hname, String.isEmpty_iff]

/-- **When the label is the right one**: if the request is about a pod that can be read, or the rule
of its path, if there is one, has no name that differs from its fingerprint. -/
theorem label?_eq_reportedName?_iff (w : Webhook) (e : Exchange) :
    w.label? e = w.reportedName? e.1
      ↔ w.isMutated e = true
        ∨ ∀ r ∈ w.rule? e.1, r.rule.name = "" ∨ r.rule.name = r.fingerprint := by
  unfold label?
  cases hmutated : w.isMutated e with
  | true => simp
  | false =>
      simp only [Bool.false_eq_true, if_false, false_or]
      unfold reportedName?
      cases hrule : w.rule? e.1 with
      | none => simp
      | some r =>
          simp only [pathText?_of_rule? hrule, Option.map_some, Option.getD_some,
            Option.some.injEq, Option.mem_some_iff, forall_eq', eq_comm (a := r.fingerprint),
            displayName_eq_fingerprint_iff]

/-- An admission has the label of its request. -/
theorem label?_of_admission (w : Webhook) (v : Visit) {captures : List (String × String)}
    {fingerprint : String} {type : TypeMeta} {asked : AdmissionRequest}
    (hcaptures : w.captures? v = some captures)
    (hpath : fingerprintOf captures = .ok fingerprint) (hasks : v.request.Asks w.reader type asked) :
    w.label? (v, .review (w.engine.admission fingerprint type asked v.now).response)
      = some (w.engine.admission fingerprint type asked v.now).label := by
  rw [label?, w.isMutated_of_admission v hcaptures hasks, Engine.label_admission, reportedName?,
    rule?_eq, pathText?_of_captures hcaptures hpath]
  split <;> rfl

/-- A review comes to an admission, and that to the answer and the counts. -/
theorem respond_of_review {w : Webhook} {v : Visit} {captures : List (String × String)}
    {fingerprint : String} {type : TypeMeta} {asked : AdmissionRequest}
    (hcaptures : w.captures? v = some captures) (hpath : fingerprintOf captures = .ok fingerprint)
    (hbody : v.request.body.size ≤ Http.Request.maxBody)
    (hreview : v.request.review w.reader = .ok (type, asked)) (metrics : Metrics) :
    w.respond v.request v.now v.seconds metrics
      = (.review (w.engine.admission fingerprint type asked v.now).response,
        (w.engine.admission fingerprint type asked v.now).count v.seconds metrics) := by
  have hroute : w.router.dispatch v.request.method (Http.pathOf v.request.target)
      = .handler .admission captures := by
    unfold captures? at hcaptures
    split at hcaptures
    · next h => rw [h, Option.some.inj hcaptures]
    · cases hcaptures
  rw [respond, hroute]
  simp only [admission_eq hpath hbody, hreview]

/-! ### What the counts show -/

/-- One request more: an admitted one is counted once, under its label, and any other not at all. -/
theorem admissions_respond (w : Webhook) (v : Visit) (metrics : Metrics) :
    let e := (v, (w.respond v.request v.now v.seconds metrics).1)
    let counted := (w.respond v.request v.now v.seconds metrics).2
    (w.isAdmitted e = false ∧ counted = metrics)
      ∨ w.isAdmitted e = true ∧ ∃ label outcome, w.label? e = some label
        ∧ counted.admissions = metrics.admissions.add (label, outcome) 1 := by
  rcases w.respond_cases v metrics with ⟨response, hreply, hstatus⟩
    | ⟨captures, fingerprint, type, asked, hcaptures, hpath, hasks, hreply⟩
  · refine .inl ⟨?_, by rw [hreply]⟩
    rw [hreply]
    simpa [isAdmitted, WebhookReply.status] using hstatus
  · refine .inr ⟨?_, (w.engine.admission fingerprint type asked v.now).label,
      (w.engine.admission fingerprint type asked v.now).outcome, ?_, ?_⟩
    · rw [hreply]
      simp [isAdmitted, hcaptures, WebhookReply.status]
    · rw [hreply]
      exact w.label?_of_admission v hcaptures hpath hasks
    · rw [hreply]
      exact Admission.count_admissions ..

/-- Counts that show, for every label, how many of the admitted requests have it. -/
def Labels (w : Webhook) (exchanges : List Exchange) (metrics : Metrics) : Prop :=
  ∀ label, Shows (metrics.admissions.sum fun key => key.1 = label)
    (exchanges.countP fun e => w.isAdmitted e && w.label? e = some label)

namespace Labels

variable {w : Webhook} {exchanges : List Exchange} {metrics : Metrics}

theorem fresh (w : Webhook) : w.Labels [] .fresh :=
  fun _ => Shows.zero

/-- The counts go on showing how many requests have each label. -/
theorem respond (h : w.Labels exchanges metrics) (v : Visit) :
    w.Labels (exchanges ++ [(v, (w.respond v.request v.now v.seconds metrics).1)])
      (w.respond v.request v.now v.seconds metrics).2 := by
  intro label
  rcases w.admissions_respond v metrics with
    ⟨hidle, hsame⟩ | ⟨hadmitted, counted, outcome, hlabel, hadd⟩
  · rw [hsame, List.countP_append]
    simpa [hidle] using h label
  · rw [hadd, List.countP_append]
    have hsum := Tally.shows_sum_add (h label) (counted, outcome)
    simpa [hadmitted, hlabel] using hsum

theorem serve (h : w.Labels exchanges metrics) (visits : List Visit) :
    w.Labels (exchanges ++ (w.serve metrics visits).1) (w.serve metrics visits).2 := by
  induction visits generalizing exchanges metrics with
  | nil => simpa [Webhook.serve] using h
  | cons v visits ih => simpa [Webhook.serve] using ih (h.respond v)

end Labels

/-! ### A rule that has a name -/

/-- A review of a pod without content. -/
def podReview : String :=
  "\x7b\"apiVersion\":\"admission.k8s.io/v1\",\"kind\":\"AdmissionReview\",\"request\":\x7b"
    ++ "\"uid\":\"u\",\"kind\":\x7b\"group\":\"\",\"version\":\"v1\",\"kind\":\"Pod\"\x7d,"
    ++ "\"resource\":\x7b\"group\":\"\",\"version\":\"v1\",\"resource\":\"pods\"\x7d,"
    ++ "\"operation\":\"CREATE\",\"userInfo\":\x7b\x7d,\"object\":\x7b\x7d\x7d\x7d"

/-- The registry of one rule, which has a name and nothing else. -/
def namedRegistry : Registry :=
  ⟨[⟨"3c0f39bbe7162420", { (default : Rule) with name := "exporter" }⟩]⟩

/-- The webhook of the rule behind a router. -/
def ofNamed (router : Http.Router WebhookRoute) : Webhook :=
  ⟨⟨namedRegistry, "sidecar.example.org"⟩, router, AdmissionReview.parse?⟩

/-- A review that is sent to the path of the rule. -/
def sent (body : String) (now : Timestamp) (seconds : Binary64) : Visit :=
  ⟨⟨"POST", "/mutate/3c0f39bbe7162420", some "application/json".toUTF8, body.toUTF8⟩, now, seconds⟩

/-- What the rule makes of a request. -/
def admissionOf (type : TypeMeta) (asked : AdmissionRequest) (now : Timestamp) : Admission :=
  (⟨namedRegistry, "sidecar.example.org"⟩ : Engine).admission "3c0f39bbe7162420" type asked now

/-- The router hands to the admissions what is sent to the path of the rule. -/
def TakesSent (router : Http.Router WebhookRoute) : Prop :=
  ∀ body now seconds, (ofNamed router).captures? (sent body now seconds)
    = some [("fingerprint", "3c0f39bbe7162420")]

/-- The router of the default settings does. -/
theorem exists_router_takesSent :
    ∃ router, ({} : ServerSettings).router? = some router ∧ TakesSent router := by
  obtain ⟨router, hrouter, hdispatch⟩ := ({} : ServerSettings).exists_router
    ⟨["mutate".toList], 0, by simp [Http.ArePlain]; decide, by decide⟩ (.inl rfl)
  have hpath : Http.pathOf "/mutate/3c0f39bbe7162420"
      = ({} : ServerSettings).webhookPath "3c0f39bbe7162420" := by
    decide +kernel
  have hroute := hdispatch "3c0f39bbe7162420" (by decide) (by decide +kernel)
  refine ⟨router, hrouter, fun body now seconds => ?_⟩
  simp only [captures?, sent, ofNamed, hpath, hroute]
  rfl

namespace TakesSent

variable {router : Http.Router WebhookRoute} (h : TakesSent router) {body : String}
  {now : Timestamp} {seconds : Binary64} {type : TypeMeta} {asked : AdmissionRequest}

theorem fingerprintOf :
    Webhook.fingerprintOf [("fingerprint", "3c0f39bbe7162420")] = .ok "3c0f39bbe7162420" := by
  decide +kernel

include h

theorem pathText? : (ofNamed router).pathText? (sent body now seconds) = some "3c0f39bbe7162420" :=
  pathText?_of_captures (h body now seconds) fingerprintOf

theorem displayName_rule? :
    ((ofNamed router).rule? (sent body now seconds)).map (·.displayName) = some "exporter" := by
  rw [rule?_eq, h.pathText?]
  simp only [ofNamed]
  decide +kernel

/-- A review that is sent to the path of the rule comes to its admission. -/
theorem serve (hne : body.toUTF8.size ≠ 0) (hsize : body.toUTF8.size ≤ Http.Request.maxBody)
    (hparse : AdmissionReview.parse? body.toUTF8 = some ⟨type, some asked⟩) :
    (ofNamed router).serve .fresh [sent body now seconds]
      = ([(sent body now seconds, .review (admissionOf type asked now).response)],
        (admissionOf type asked now).count seconds .fresh) := by
  have hjson : (sent body now seconds).request.isJson = true := by
    simp only [Http.Request.isJson, sent]
    decide +kernel
  have hreview : (sent body now seconds).request.review (ofNamed router).reader
      = .ok (type, asked) :=
    Http.Request.review_eq_ok_iff.2 ⟨hjson, hne, hparse⟩
  have hrespond := respond_of_review (h body now seconds) fingerprintOf hsize hreview .fresh
  simp only [Webhook.serve, hrespond]
  rfl

theorem isMutated (hparse : AdmissionReview.parse? body.toUTF8 = some ⟨type, some asked⟩)
    (hpod : asked.IsForPod ∧ asked.pod?.isSome = true) :
    (ofNamed router).isMutated
      (sent body now seconds, .review (admissionOf type asked now).response) = true :=
  ((ofNamed router).isMutated_of_admission _ (h body now seconds) hparse).trans
    ((Engine.isTimed_admission_iff ..).2 hpod)

end TakesSent

/-! ### All requests -/

/-- **What the counts show of every run of requests.**  Each admitted request is counted once, under
its label, and each other one not at all; so for every label the counts under it show how many of
the admitted requests have it.  The label is the name that the request is to be counted under
exactly if it is about a pod that can be read or the rule of its path, if there is one, has no name
but its fingerprint.  If all admitted requests are such, the counts show for every name how many
requests there were to be counted under it. -/
theorem labels_of_serve (w : Webhook) (visits : List Visit) :
    (∀ (v : Visit) metrics,
        let e := (v, (w.respond v.request v.now v.seconds metrics).1)
        let counted := (w.respond v.request v.now v.seconds metrics).2
        (w.isAdmitted e = false ∧ counted = metrics)
          ∨ w.isAdmitted e = true ∧ ∃ label outcome, w.label? e = some label
            ∧ counted.admissions = metrics.admissions.add (label, outcome) 1)
      ∧ w.Labels (w.serve .fresh visits).1 (w.serve .fresh visits).2
      ∧ (∀ e, w.label? e = w.reportedName? e.1
        ↔ w.isMutated e = true
          ∨ ∀ r ∈ w.rule? e.1, r.rule.name = "" ∨ r.rule.name = r.fingerprint)
      ∧ ((∀ e ∈ (w.serve .fresh visits).1, w.isAdmitted e = true → w.isMutated e = true
            ∨ ∀ r ∈ w.rule? e.1, r.rule.name = "" ∨ r.rule.name = r.fingerprint) →
        ∀ name, Shows ((w.serve .fresh visits).2.admissions.sum fun key => key.1 = name)
          ((w.serve .fresh visits).1.countP
            fun e => w.isAdmitted e && w.reportedName? e.1 = some name)) := by
  have hlabels := (Labels.fresh w).serve visits
  rw [List.nil_append] at hlabels
  refine ⟨w.admissions_respond, hlabels, w.label?_eq_reportedName?_iff, ?_⟩
  intro hright name
  have hsame : (w.serve .fresh visits).1.countP
        (fun e => w.isAdmitted e && w.reportedName? e.1 = some name)
      = (w.serve .fresh visits).1.countP fun e => w.isAdmitted e && w.label? e = some name := by
    refine List.countP_congr fun e he => ?_
    cases hadmitted : w.isAdmitted e with
    | false => simp
    | true => rw [(w.label?_eq_reportedName?_iff e).2 (hright e he hadmitted)]
  rw [hsame]
  exact hlabels name

/-- A review of a pod that can be read is counted under the name of the rule. -/
theorem labels_of_serve_readable_pod :
    ∃ router, ({} : ServerSettings).router? = some router ∧ ∀ now seconds,
      let v := sent podReview now seconds
      let run := (ofNamed router).serve .fresh [v]
      (∀ e ∈ run.1, (ofNamed router).isAdmitted e = true → (ofNamed router).isMutated e = true
          ∨ ∀ r ∈ (ofNamed router).rule? e.1, r.rule.name = "" ∨ r.rule.name = r.fingerprint)
        ∧ (run.2.admissions.sum fun key => key.1 = "exporter") = 1 := by
  obtain ⟨router, hrouter, hsent⟩ := exists_router_takesSent
  refine ⟨router, hrouter, fun now seconds => ?_⟩
  intro v run
  have hparse : AdmissionReview.parse? podReview.toUTF8
      = some ⟨⟨"admission.k8s.io/v1", "AdmissionReview"⟩,
        some ⟨"u", "", "Pod", some (.obj [("metadata", .obj [])])⟩⟩ := by
    decide +kernel
  have hserve : run = _ := hsent.serve (by decide +kernel) (by decide +kernel) hparse
  have hright : ∀ e ∈ run.1, (ofNamed router).isAdmitted e = true →
      (ofNamed router).isMutated e = true
        ∨ ∀ r ∈ (ofNamed router).rule? e.1, r.rule.name = "" ∨ r.rule.name = r.fingerprint := by
    rw [hserve]
    exact List.forall_mem_singleton.2 fun _ =>
      .inl (hsent.isMutated hparse ⟨⟨rfl, rfl⟩, by decide +kernel⟩)
  have hcount : run.1.countP (fun e => (ofNamed router).isAdmitted e
      && (ofNamed router).reportedName? e.1 = some "exporter") = 1 := by
    rw [hserve]
    simp [isAdmitted, hsent _ now seconds, reportedName?, hsent.pathText?, hsent.displayName_rule?,
      WebhookReply.status]
  have hshows := ((ofNamed router).labels_of_serve [v]).2.2.2 hright "exporter"
  rw [hcount] at hshows
  exact ⟨hright, hshows.eq_of_lt (by decide)⟩

/-- **A rule whose admission is not counted under its name.**  A review of a pod that it does not
carry is admitted on the path of the rule, and the count under the name of the rule stays zero. -/
theorem counted_apart_from_name :
    Registry.build [{ (default : Rule) with name := "exporter" }] = .ok namedRegistry
      ∧ ∃ router, ({} : ServerSettings).router? = some router ∧ ∀ now seconds,
        let v := sent bareReview now seconds
        let run := (ofNamed router).serve .fresh [v]
        ((ofNamed router).rule? v).map (·.displayName) = some "exporter"
          ∧ run.1.map (ofNamed router).isAdmitted = [true]
          ∧ (run.2.admissions.sum fun key => key.1 = "exporter") = 0
          ∧ (run.2.admissions.sum fun key => key.1 = "3c0f39bbe7162420") = 1 := by
  obtain ⟨router, hrouter, hsent⟩ := exists_router_takesSent
  refine ⟨by decide +kernel, router, hrouter, fun now seconds => ?_⟩
  intro v run
  have hserve : run = _ :=
    hsent.serve (by decide +kernel) (by decide +kernel) (asks_bareReview (r := v.request) rfl)
  rw [hserve]
  refine ⟨hsent.displayName_rule?, ?_, ?_, ?_⟩
  · simp [isAdmitted, hsent _ now seconds, WebhookReply.status]
  · simp [admissionOf, Engine.admission, Metrics.fresh, Tally.sum, Tally.add, Tally.empty,
      Tally.addTo]
  · simp [admissionOf, Engine.admission, Metrics.fresh, Tally.sum, Tally.add, Tally.empty,
      Tally.addTo]

end Webhook

end Sidecar
