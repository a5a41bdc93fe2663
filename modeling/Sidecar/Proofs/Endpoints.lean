/-
**The endpoints of rules.**

Three parts derive the address of a rule on their own: the configuration of the cluster names a path
for each webhook, the router has one pattern for the paths of all rules, and the registry finds a
rule by its fingerprint.  They agree: under the path that the configuration gives for a rule the
router hands out the fingerprint by which the registry finds that rule.

Main definitions:

* `Sidecar.Http.joined` — the path of some segments;
* `Sidecar.Http.IsPlainPath`, `Sidecar.Http.IsPlainBase` — the paths of which this is said, without
  and with slashes at their end;
* `Sidecar.Cluster.Webhook.Reaches` — a webhook leads to a registered rule.

Main results:

* `Sidecar.Http.IsPlainPath.parse?`, `Sidecar.ServerSettings.parse?_admissionPattern` — the patterns
  that plain paths make;
* `Sidecar.ServerSettings.exists_router` — **the router of two plain paths**, and whom it hands the
  path of a rule;
* `Sidecar.Registration.forall₂_webhooks_of_desired` — the webhooks of a configuration;
* `Sidecar.Settings.endpoints_reach_rules` — **each endpoint reaches its own rule.**
-/

import Mathlib.Data.List.TakeWhile
import Sidecar.Admission.Webhook
import Sidecar.Proofs.Fingerprint.Digits
import Sidecar.Proofs.Validated

set_option autoImplicit false

namespace Sidecar

/-! ### Paths of plain segments -/

namespace Http

/-- A letter or digit of ASCII, a hyphen or an underscore. -/
def isPlain (c : Char) : Bool :=
  c.isAlphanum || c = '-' || c = '_'

/-- The path of some segments. -/
def joined (segments : List (List Char)) : List Char :=
  segments.flatMap ('/' :: ·)

/-- The segments are not empty and their characters are plain. -/
def ArePlain (segments : List (List Char)) : Prop :=
  ∀ s ∈ segments, s ≠ [] ∧ ∀ c ∈ s, isPlain c = true

/-- The root, or a path of plain segments. -/
def IsPlainPath (text : String) : Prop :=
  text = "/" ∨ ∃ segments, segments ≠ [] ∧ ArePlain segments ∧ text.toList = joined segments

/-- A path of plain segments, perhaps none, with slashes at its end, perhaps none. -/
def IsPlainBase (text : String) : Prop :=
  ∃ segments slashes, ArePlain segments
    ∧ text.toList = joined segments ++ List.replicate slashes '/'

/-- The characters beside slashes that mean something in a path or in a pattern. -/
def special : List Char := ['{', '}', ':', '*', '?', '#', '%']

theorem ne_slash_of_isPlain {c : Char} (h : isPlain c = true) : c ≠ '/' := by
  rintro rfl
  exact absurd h (by decide)

/-- What is a slash or plain is not special. -/
theorem notMem_special {c : Char} (h : c = '/' ∨ isPlain c = true) : c ∉ special := by
  intro hmem
  simp only [special, List.mem_cons, List.not_mem_nil, or_false] at hmem
  rcases hmem with rfl | rfl | rfl | rfl | rfl | rfl | rfl <;> revert h <;> decide

/-- No plain segment starts with a colon or an asterisk. -/
theorem notMem_starts {c : Char} (h : isPlain c = true) : c ∉ [':', '*'] := by
  intro hmem
  have hspecial := notMem_special (.inr h)
  simp only [List.mem_cons, List.not_mem_nil, or_false] at hmem
  rcases hmem with rfl | rfl <;> exact hspecial (by decide)

/-- The characters of a fingerprint are plain. -/
theorem isPlain_of_mem_fingerprint {rule : Rule} {c : Char}
    (hc : c ∈ rule.fingerprint.toList) : isPlain c = true := by
  simp [isPlain, Rule.isAlphanum_of_mem_fingerprint hc]

/-- The path of some segments and of one more. -/
theorem joined_concat (segments : List (List Char)) (last : List Char) :
    joined (segments ++ [last]) = joined segments ++ '/' :: last := by
  simp [joined]

/-- A character of a path of plain segments is a slash or plain. -/
theorem eq_or_isPlain_of_mem_joined {segments : List (List Char)} (h : ArePlain segments) {c : Char}
    (hc : c ∈ joined segments) : c = '/' ∨ isPlain c = true := by
  obtain ⟨s, hs, hc⟩ := List.mem_flatMap.1 hc
  rcases List.mem_cons.1 hc with rfl | hc
  · exact .inl rfl
  · exact .inr ((h s hs).2 c hc)

/-- A path of plain segments does not end with a slash. -/
theorem dropWhile_reverse_joined {segments : List (List Char)} (h : ArePlain segments) :
    (joined segments).reverse.dropWhile (· = '/') = (joined segments).reverse := by
  rcases List.eq_nil_or_concat' segments with rfl | ⟨before, last, rfl⟩
  · rfl
  · obtain ⟨hne, hplain⟩ := h last (List.mem_append_right _ (List.mem_singleton.2 rfl))
    rcases List.eq_nil_or_concat' last with rfl | ⟨start, c, rfl⟩
    · exact absurd rfl hne
    · have hc : c ≠ '/' :=
        ne_slash_of_isPlain (hplain c (List.mem_append_right _ (List.mem_singleton.2 rfl)))
      rw [joined_concat, ← List.cons_append, ← List.append_assoc, List.reverse_concat,
        List.dropWhile_cons_of_neg (by simpa using hc)]

/-- The segments of a path, and of what follows them after one more slash. -/
theorem segments_joined {segments : List (List Char)} (h : ArePlain segments) {last : List Char}
    (hlast : '/' ∉ last) :
    Pattern.segments (joined segments ++ '/' :: last) = [] :: segments ++ [last] := by
  have hjoined : ∀ start : List Char, start ++ (joined segments ++ '/' :: last)
      = ['/'].intercalate (start :: (segments ++ [last])) := by
    clear h
    induction segments with
    | nil =>
      intro start
      rw [List.nil_append, List.intercalate_cons_cons, List.append_assoc]
      simp [joined]
    | cons s segments ih =>
      intro start
      rw [List.cons_append, List.intercalate_cons_cons, ← ih]
      simp [joined]
  have hpath := hjoined []
  rw [List.nil_append] at hpath
  rw [Pattern.segments, hpath, List.splitOn_intercalate _ _ (List.cons_ne_nil _ _)]
  · rfl
  · intro s hs
    rcases List.mem_cons.1 hs with rfl | hs
    · simp
    · rcases List.mem_append.1 hs with hs | hs
      · intro hslash
        exact ne_slash_of_isPlain ((h s hs).2 '/' hslash) rfl
      · exact List.mem_singleton.1 hs ▸ hlast

/-! ### Their patterns -/

namespace Pattern

/-- A path of plain segments and one more is a pattern if its pieces are, and if the last segment
does not start with a colon or an asterisk. -/
theorem parse?_joined {segments : List (List Char)} (h : ArePlain segments) {last : List Char}
    (hlast : '/' ∉ last) (hstart : ∀ c ∈ last.head?, c ∉ [':', '*']) {text : String}
    (htext : text.toList = joined segments ++ '/' :: last) :
    parse? text = pieces? text.toList := by
  have hroot : (joined segments ++ '/' :: last).head? = some '/' := by
    cases segments <;> rfl
  have hheads : ((Pattern.segments (joined segments ++ '/' :: last)).any
      fun s => s.head? = some ':' || s.head? = some '*') = false := by
    rw [segments_joined h hlast, List.any_eq_false]
    intro s hs hbad
    have hhead : ∀ c ∈ s.head?, c ∉ [':', '*'] := by
      rcases List.mem_append.1 hs with hs | hs
      · rcases List.mem_cons.1 hs with rfl | hs
        · intro c hc
          cases hc
        · intro c hc
          exact notMem_starts ((h s hs).2 c (List.mem_of_mem_head? hc))
      · exact List.mem_singleton.1 hs ▸ hstart
    rw [Bool.or_eq_true, decide_eq_true_eq, decide_eq_true_eq] at hbad
    rcases hbad with hbad | hbad
    · exact hhead _ hbad (by decide)
    · exact hhead _ hbad (by decide)
  simp only [parse?, htext]
  rw [if_neg (not_not_intro hroot), hheads, if_neg Bool.false_ne_true]

/-- The pieces of a text without braces and of a hole for the rest after it. -/
theorem pieces?_rest {cs : List Char} (h : ∀ c ∈ cs, c ≠ '{' ∧ c ≠ '}') :
    pieces? (cs ++ ("\x7b*" ++ ServerSettings.holeName ++ "\x7d").toList)
      = some (literals cs ++ [.rest ServerSettings.holeName]) := by
  set hole := marks ("\x7b*" ++ ServerSettings.holeName ++ "\x7d").toList with hhole
  have hpieces : piecesOf hole.length hole = some [.rest ServerSettings.holeName] := by
    decide
  rw [pieces?, marks_of_noBraces cs _ h, List.length_append, List.length_map, ← hhole,
    piecesOf_plain, hpieces]
  rfl

/-- A pattern of characters does not conflict with one that has a hole for the rest. -/
theorem conflicts_literals_rest (cs ds : List Char) (name : String) :
    conflicts (literals cs) (literals ds ++ [.rest name]) = false := by
  induction cs generalizing ds with
  | nil => cases ds <;> rfl
  | cons c cs ih =>
    cases ds with
    | nil => rfl
    | cons d ds =>
      have := ih ds
      simp only [literals] at this
      simp [literals, conflicts, this]

end Pattern

/-- A plain path ends with a segment that is plain or, for the root, empty. -/
theorem IsPlainPath.exists_joined {text : String} (h : IsPlainPath text) :
    ∃ segments last, ArePlain segments ∧ (∀ c ∈ last, isPlain c = true)
      ∧ text.toList = joined segments ++ '/' :: last := by
  rcases h with rfl | ⟨segments, hne, hplain, htext⟩
  · exact ⟨[], [], by simp [ArePlain], by simp, rfl⟩
  · rcases List.eq_nil_or_concat' segments with rfl | ⟨before, last, rfl⟩
    · exact absurd rfl hne
    · exact ⟨before, last, fun s hs => hplain s (List.mem_append_left _ hs),
        (hplain last (List.mem_append_right _ (List.mem_singleton.2 rfl))).2,
        by rw [htext, joined_concat]⟩

/-- A character of plain segments and of a plain one after them is a slash or plain. -/
theorem eq_or_isPlain_of_mem_path {segments : List (List Char)} (h : ArePlain segments)
    {last : List Char} (hlast : ∀ c ∈ last, isPlain c = true) {c : Char}
    (hc : c ∈ joined segments ++ '/' :: last) : c = '/' ∨ isPlain c = true := by
  rcases List.mem_append.1 hc with hc | hc
  · exact eq_or_isPlain_of_mem_joined h hc
  · rcases List.mem_cons.1 hc with rfl | hc
    · exact .inl rfl
    · exact .inr (hlast c hc)

/-- What is not special is no brace. -/
theorem ne_braces_of_notMem_special {c : Char} (h : c ∉ special) : c ≠ '{' ∧ c ≠ '}' := by
  constructor <;> (rintro rfl; exact h (by decide))

/-- A plain path is the pattern of itself. -/
theorem IsPlainPath.parse? {text : String} (h : IsPlainPath text) :
    Pattern.parse? text = some (Pattern.literals text.toList) := by
  obtain ⟨segments, last, hplain, hlast, htext⟩ := h.exists_joined
  rw [Pattern.parse?_joined hplain (fun hc => ne_slash_of_isPlain (hlast _ hc) rfl)
    (fun c hc => notMem_starts (hlast c (List.mem_of_mem_head? hc))) htext]
  apply Pattern.pieces?_of_noBraces
  intro c hc
  rw [htext] at hc
  exact ne_braces_of_notMem_special (notMem_special (eq_or_isPlain_of_mem_path hplain hlast hc))

/-- Nothing of a path of plain segments is cut off as a query. -/
theorem pathOf_joined {segments : List (List Char)} (h : ArePlain segments)
    {last : List Char} (hlast : ∀ c ∈ last, isPlain c = true) {text : String}
    (htext : text.toList = joined segments ++ '/' :: last) : pathOf text = text := by
  rw [pathOf, List.takeWhile_eq_self_iff.2, String.ofList_toList]
  intro c hc
  rw [htext] at hc
  have hc := notMem_special (eq_or_isPlain_of_mem_path h hlast hc)
  simp only [special, List.mem_cons, not_or] at hc
  simp [hc]

end Http

/-! ### The router -/

namespace ServerSettings

open Http

/-- The base that is left of plain segments and slashes is the path of the segments. -/
theorem exists_basePath {s : ServerSettings} (h : IsPlainBase s.pathWebhook) :
    ∃ segments, ArePlain segments ∧ s.basePath.toList = joined segments := by
  obtain ⟨segments, slashes, hplain, htext⟩ := h
  refine ⟨segments, hplain, ?_⟩
  rw [basePath, String.toList_ofList, htext, List.reverse_append, List.reverse_replicate,
    List.dropWhile_append, List.dropWhile_replicate]
  simp [dropWhile_reverse_joined hplain]

/-- The text of the pattern of the paths of all rules. -/
theorem toList_admissionPattern (s : ServerSettings) :
    s.admissionPattern.toList
      = s.basePath.toList ++ '/' :: ("\x7b*" ++ holeName ++ "\x7d").toList := by
  simp [admissionPattern]

/-- The pattern of the paths of all rules: the base path, a slash, and a hole for the rest. -/
theorem parse?_admissionPattern {s : ServerSettings} (h : IsPlainBase s.pathWebhook) :
    Pattern.parse? s.admissionPattern
      = some (Pattern.literals (s.basePath.toList ++ ['/']) ++ [.rest holeName]) := by
  obtain ⟨segments, hplain, hbase⟩ := exists_basePath h
  have htext : s.admissionPattern.toList
      = joined segments ++ '/' :: ("\x7b*" ++ holeName ++ "\x7d").toList := by
    rw [← hbase, toList_admissionPattern]
  have hstart : ∀ c ∈ ("\x7b*" ++ holeName ++ "\x7d").toList.head?, c ∉ [':', '*'] := by
    intro c hc
    obtain rfl : '{' = c := Option.some.inj hc
    decide
  rw [Pattern.parse?_joined hplain (by decide) hstart htext, htext, hbase,
    ← List.singleton_append, ← List.append_assoc, Pattern.pieces?_rest]
  intro c hc
  exact ne_braces_of_notMem_special
    (notMem_special (eq_or_isPlain_of_mem_path hplain (by simp) hc))

/-- **The router of two plain paths**: both endpoints are told apart, and if the path of a rule is
not that of the health check, its fingerprint fills the hole. -/
theorem exists_router {s : ServerSettings} (hwebhook : IsPlainBase s.pathWebhook)
    (hhealth : IsPlainPath s.pathHealthcheck) :
    ∃ router, s.router? = some router
      ∧ ∀ fingerprint, fingerprint ≠ "" → s.pathHealthcheck ≠ s.webhookPath fingerprint →
        router.dispatch "POST" (s.webhookPath fingerprint)
          = .handler .admission [(holeName, fingerprint)] := by
  have hadd : (Router.empty : Router WebhookRoute).add? "GET" s.pathHealthcheck .healthcheck
      = some ⟨[⟨s.pathHealthcheck, Pattern.literals s.pathHealthcheck.toList,
        [("GET", .healthcheck)]⟩]⟩ := by
    simp [Router.add?, Router.empty, Router.extend?, hhealth.parse?]
  -- the pattern of rules has a brace, which no plain path has
  have hne : s.pathHealthcheck ≠ s.admissionPattern := by
    intro heq
    obtain ⟨segments, last, hplain, hlast, htext⟩ := hhealth.exists_joined
    have hbrace : '{' ∈ s.pathHealthcheck.toList := by
      rw [heq, toList_admissionPattern]
      simp
    rw [htext] at hbrace
    exact notMem_special (eq_or_isPlain_of_mem_path hplain hlast hbrace) (by decide)
  refine ⟨⟨[⟨s.pathHealthcheck, Pattern.literals s.pathHealthcheck.toList,
        [("GET", .healthcheck)]⟩,
      ⟨s.admissionPattern, Pattern.literals (s.basePath.toList ++ ['/']) ++ [.rest holeName],
        [("POST", .admission)]⟩]⟩, ?_, ?_⟩
  · rw [router?, hadd]
    simp [Router.add?, Router.extend?, hne, parse?_admissionPattern hwebhook,
      Pattern.conflicts_literals_rest]
  · intro fingerprint hnonempty hapart
    have hpath : (s.webhookPath fingerprint).toList
        = (s.basePath.toList ++ ['/']) ++ fingerprint.toList := by
      simp [webhookPath]
    have hmatch : Pattern.match? (Pattern.literals (s.basePath.toList ++ ['/']) ++ [.rest holeName])
        (s.webhookPath fingerprint).toList = some [(holeName, fingerprint)] := by
      rw [hpath, Pattern.match?_literals_rest]
      simp [hnonempty]
    have hother : Pattern.match? (Pattern.literals s.pathHealthcheck.toList)
        (s.webhookPath fingerprint).toList = none := by
      rw [Pattern.match?_literals, if_neg (fun h => hapart (String.toList_inj.1 h))]
    simp [Router.dispatch, Router.select, Router.selectFrom, hmatch, hother, Router.prefer,
      Router.handlerFor]

/-- Nothing of the path of a rule is cut off as a query. -/
theorem pathOf_webhookPath {s : ServerSettings} (hwebhook : IsPlainBase s.pathWebhook)
    (rule : Rule) :
    pathOf (s.webhookPath rule.fingerprint) = s.webhookPath rule.fingerprint := by
  obtain ⟨segments, hplain, hbase⟩ := exists_basePath hwebhook
  have htext : (s.webhookPath rule.fingerprint).toList
      = joined segments ++ '/' :: rule.fingerprint.toList := by
    rw [← hbase, webhookPath]
    simp
  exact pathOf_joined hplain (fun c hc => isPlain_of_mem_fingerprint hc) htext

/-- Rules of different fingerprints have different paths. -/
theorem webhookPath_injective (s : ServerSettings) : Function.Injective s.webhookPath := by
  intro a b h
  simpa [webhookPath, String.append_right_inj] using h

end ServerSettings

/-- Rules of different fingerprints have webhooks of different names. -/
theorem ServiceSettings.webhookName_injective (s : ServiceSettings) :
    Function.Injective s.webhookName := by
  intro a b h
  simpa [webhookName, String.append_assoc, String.append_left_inj] using h

theorem Rule.fingerprint_ne_empty (rule : Rule) : rule.fingerprint ≠ "" := by
  intro hempty
  have hlength := length_fingerprint rule.feed
  rw [← Rule.fingerprint, hempty] at hlength
  cases hlength

/-- A fingerprint that fills the hole of a path is read back as it is. -/
theorem Webhook.fingerprintOf_fingerprint (name : String) (rule : Rule) :
    fingerprintOf [(name, rule.fingerprint)] = .ok rule.fingerprint := by
  have hdecode : Text.percentDecode? rule.fingerprint = some rule.fingerprint :=
    Text.percentDecode?_of_notMem _ fun hc =>
      Http.notMem_special (.inr (Http.isPlain_of_mem_fingerprint hc)) (by decide)
  simp [fingerprintOf, hdecode]

/-! ### The configuration -/

namespace Registration

/-- What the webhook of a rule says. -/
theorem webhook_eq_ok_iff {registration : Registration} {registered : RegisteredRule}
    {webhook : Cluster.Webhook} :
    registration.webhook registered = .ok webhook
      ↔ ∃ objects, registered.rule.labelSelector.mapM Rule.LabelSelector.toCluster = .ok objects
        ∧ ∃ namespaces,
          registered.rule.namespaceSelector.mapM Rule.LabelSelector.toCluster = .ok namespaces
          ∧ webhook = {
            name := registration.service.webhookName registered.fingerprint
            service := {
              name := registration.service.name
              namespaceName := registration.service.namespaceName
              path := registration.server.webhookPath registered.fingerprint
              port := registration.service.port }
            caBundle := registration.caBundle.toUTF8.toList
            objectSelector := objects
            namespaceSelector := namespaces } := by
  simp only [Registration.webhook, bind_eq_ok_iff, mapError_eq_ok_iff,
    pure_eq_ok_iff, eq_comm (a := webhook)]

/-- The webhook of a rule has the rule's name and path. -/
theorem name_path_of_webhook {registration : Registration} {registered : RegisteredRule}
    {webhook : Cluster.Webhook} (h : registration.webhook registered = .ok webhook) :
    webhook.name = registration.service.webhookName registered.fingerprint
      ∧ webhook.service.path = registration.server.webhookPath registered.fingerprint := by
  obtain ⟨_, _, _, _, rfl⟩ := webhook_eq_ok_iff.1 h
  exact ⟨rfl, rfl⟩

/-- The webhooks of a configuration are those of the rules, in their order. -/
theorem forall₂_webhooks_of_desired {registration : Registration}
    {configuration : Cluster.WebhookConfiguration}
    (h : registration.desired = .ok configuration) :
    List.Forall₂ (fun registered webhook => registration.webhook registered = .ok webhook)
      registration.registry.rules configuration.webhooks := by
  obtain ⟨webhooks, hwebhooks, hconfiguration⟩ := bind_eq_ok_iff.1 h
  obtain rfl := pure_eq_ok_iff.1 hconfiguration
  exact mapM_eq_ok_iff.1 hwebhooks

/-- What each webhook has of its rule's fingerprint by an injection, no two webhooks share. -/
theorem nodup_map_webhooks {registration : Registration} (hs : registration.registry.Sound)
    {configuration : Cluster.WebhookConfiguration}
    (h : registration.desired = .ok configuration) {part : Cluster.Webhook → String}
    {ofFingerprint : String → String} (hinjective : Function.Injective ofFingerprint)
    (hpart : ∀ {registered webhook}, registration.webhook registered = .ok webhook →
      part webhook = ofFingerprint registered.fingerprint) :
    (configuration.webhooks.map part).Nodup := by
  have hparts : List.Forall₂ Eq (configuration.webhooks.map part)
      (registration.registry.rules.map fun r => ofFingerprint r.fingerprint) := by
    rw [List.forall₂_map_left_iff, List.forall₂_map_right_iff]
    exact (forall₂_webhooks_of_desired h).flip.imp fun _ _ hwebhook => hpart hwebhook
  rw [List.forall₂_eq_eq_eq] at hparts
  have hnodup := hs.nodup.map hinjective
  rw [List.map_map] at hnodup
  rw [hparts]
  exact hnodup

end Registration

/-! ### From the configuration to the rule -/

/-- A POST to the path that the configuration gives for the webhook is one for the rule: the router
takes it as an admission, and the fingerprint in the path is that under which the rule is
registered. -/
def Cluster.Webhook.Reaches (webhook : Cluster.Webhook) (router : Http.Router WebhookRoute)
    (registry : Registry) (registered : RegisteredRule) : Prop :=
  ∃ captures fingerprint,
    router.dispatch "POST" (Http.pathOf webhook.service.path) = .handler .admission captures
      ∧ Webhook.fingerprintOf captures = .ok fingerprint
      ∧ registry.resolve? fingerprint = some registered

namespace Settings

/-- Settings are valid if both paths start at the root, the service has a name and a namespace, and
the rules can be registered; what they give is the registry of the rules. -/
theorem validate_eq_ok_iff {s : Settings} {registry : Registry} :
    s.validate = .ok registry
      ↔ ServerSettings.isPath s.server.pathWebhook = true
        ∧ ServerSettings.isPath s.server.pathHealthcheck = true
        ∧ (s.service.name.isEmpty || s.service.namespaceName.isEmpty) = false
        ∧ Registry.build s.rules = .ok registry := by
  rw [validate]
  cases hwebhook : ServerSettings.isPath s.server.pathWebhook with
  | false => exact iff_of_false nofun fun h => Bool.false_ne_true h.1
  | true =>
    cases hhealth : ServerSettings.isPath s.server.pathHealthcheck with
    | false => exact iff_of_false nofun fun h => Bool.false_ne_true h.2.1
    | true =>
      cases hservice : s.service.name.isEmpty || s.service.namespaceName.isEmpty with
      | true => exact iff_of_false nofun fun h => Bool.false_ne_true h.2.2.1.symm
      | false =>
        have hrules := mapError_eq_ok_iff (f := SettingsError.rule) (x := Registry.build s.rules)
          (a := registry)
        exact ⟨fun h => ⟨rfl, rfl, rfl, hrules.1 h⟩, fun h => hrules.2 h.2.2.2⟩

/-- What valid settings give is the registry of their rules. -/
theorem build_of_validate {s : Settings} {registry : Registry} (h : s.validate = .ok registry) :
    Registry.build s.rules = .ok registry :=
  (validate_eq_ok_iff.1 h).2.2.2

/-- **Each endpoint reaches its own rule.**  Let settings be valid, let the paths of the webhooks and
of the health check be plain, the first perhaps with slashes at its end, and let the health check
not be at the path of a rule.  Then the webhooks can be described and the router exists; there is
one webhook for each rule, in their order, no two of one name or of one path; and each webhook
reaches its rule, and selects by the converted selectors of that rule. -/
theorem endpoints_reach_rules {s : Settings} {registry : Registry}
    (hvalid : s.validate = .ok registry) (hwebhook : Http.IsPlainBase s.server.pathWebhook)
    (hhealth : Http.IsPlainPath s.server.pathHealthcheck)
    (hapart : ∀ rule ∈ s.rules, s.server.pathHealthcheck ≠ s.server.webhookPath rule.fingerprint)
    (caBundle : String) :
    ∃ configuration router,
      (Registration.mk registry s.service s.server caBundle).desired = .ok configuration
        ∧ s.server.router? = some router
        ∧ (configuration.webhooks.map (·.name)).Nodup
        ∧ (configuration.webhooks.map (·.service.path)).Nodup
        ∧ List.Forall₂
            (fun rule webhook => webhook.Reaches router registry (.ofRule rule)
              ∧ rule.labelSelector.mapM Rule.LabelSelector.toCluster = .ok webhook.objectSelector
              ∧ rule.namespaceSelector.mapM Rule.LabelSelector.toCluster
                = .ok webhook.namespaceSelector)
            s.rules configuration.webhooks := by
  have hbuild := build_of_validate hvalid
  have hs := Registry.sound_of_build hbuild
  obtain ⟨configuration, hdesired⟩ :=
    (Registration.mk registry s.service s.server caBundle).exists_desired hs
  obtain ⟨router, hrouter, hdispatch⟩ := s.server.exists_router hwebhook hhealth
  have hwebhooks := Registration.forall₂_webhooks_of_desired hdesired
  refine ⟨configuration, router, hdesired, hrouter, ?_, ?_, ?_⟩
  · exact Registration.nodup_map_webhooks hs hdesired s.service.webhookName_injective
      fun h => (Registration.name_path_of_webhook h).1
  · exact Registration.nodup_map_webhooks hs hdesired s.server.webhookPath_injective
      fun h => (Registration.name_path_of_webhook h).2
  · obtain ⟨_, _, rfl⟩ := Registry.build_eq_ok_iff.1 hbuild
    rw [List.forall₂_map_left_iff] at hwebhooks
    have hreached : ∀ rule ∈ s.rules, ∀ webhook : Cluster.Webhook,
        webhook.service.path = s.server.webhookPath rule.fingerprint →
          webhook.Reaches router ⟨s.rules.map .ofRule⟩ (.ofRule rule) := by
      intro rule hrule webhook hpath
      refine ⟨[(ServerSettings.holeName, rule.fingerprint)], rule.fingerprint, ?_,
        Webhook.fingerprintOf_fingerprint _ _,
        (hs.resolve?_iff _ _).2 ⟨List.mem_map.2 ⟨rule, hrule, rfl⟩, rfl⟩⟩
      rw [hpath, ServerSettings.pathOf_webhookPath hwebhook]
      exact hdispatch _ rule.fingerprint_ne_empty (hapart rule hrule)
    refine ((List.forall₂_and_left _ _).2 ⟨hreached, hwebhooks⟩).imp ?_
    rintro rule webhook ⟨hreach, hdescribed⟩
    obtain ⟨objects, hobjects, namespaces, hnamespaces, rfl⟩ :=
      Registration.webhook_eq_ok_iff.1 hdescribed
    exact ⟨hreach _ rfl, hobjects, hnamespaces⟩

/-- Two rules behind a base path that ends with two slashes, and the health check below it. -/
theorem endpoints_reach_rules_below_base :
    ∃ (s : Settings) (registry : Registry), s.validate = .ok registry
      ∧ s.server.pathWebhook = "/a//" ∧ s.server.pathHealthcheck = "/a/health"
      ∧ s.rules.length = 2
      ∧ ∃ configuration router,
        (Registration.mk registry s.service s.server "certificate").desired = .ok configuration
          ∧ s.server.router? = some router
          ∧ List.Forall₂ (fun rule webhook => webhook.Reaches router registry (.ofRule rule))
              s.rules configuration.webhooks := by
  let s : Settings := {
    rules := [
      { (default : Rule) with
        name := "a"
        labelSelector := some ⟨.ofList [("app", "web")], [⟨"tier", "In", ["front"]⟩]⟩
        labels := .ofList [("a", "b")] },
      { (default : Rule) with labels := .ofList [("c", "d")] }]
    server := { pathWebhook := "/a//", pathHealthcheck := "/a/health" } }
  let registry : Registry := ⟨s.rules.map .ofRule⟩
  have hvalid : s.validate = .ok registry := by
    decide +kernel
  have hapart : ∀ rule ∈ s.rules,
      s.server.pathHealthcheck ≠ s.server.webhookPath rule.fingerprint := by
    decide +kernel
  have hwebhook : Http.IsPlainBase s.server.pathWebhook :=
    ⟨[['a']], 2, by simp [Http.ArePlain]; decide, by decide⟩
  have hhealth : Http.IsPlainPath s.server.pathHealthcheck :=
    .inr ⟨[['a'], "health".toList], by simp, by simp [Http.ArePlain]; decide, by decide⟩
  obtain ⟨configuration, router, hdesired, hrouter, _, _, hreach⟩ :=
    endpoints_reach_rules hvalid hwebhook hhealth hapart "certificate"
  exact ⟨s, registry, hvalid, rfl, rfl, rfl, configuration, router, hdesired, hrouter,
    hreach.imp fun _ _ h => h.1⟩

end Settings

end Sidecar
