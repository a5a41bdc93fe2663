/-
**Which settings can be served.**

Valid settings have two paths, and all that is asked of these is that they start at the root.  The
router, however, takes the path of the health check for a pattern, and that of the webhooks for the
beginning of one, and does not exist if one of them is malformed or if they cannot be told apart.
Here it is said, from the texts of the two paths alone, when the router exists, and on which paths
of rules the health check answers in place of the webhook.

Main definitions:

* `Sidecar.ServerSettings.Servable` — the texts write two patterns that can be told apart;
* `Sidecar.ServerSettings.Hides` — the health check is preferred for a path;
* `Sidecar.Http.Router.ChecksHealth` — a POST to a path ends at the health check.

Main results:

* `Sidecar.ServerSettings.router?_eq_some_iff` — **the router exists exactly if the settings are
  servable**, and its endpoints;
* `Sidecar.ServerSettings.checksHealth_iff` — **which paths are hidden by the health check**;
* `Sidecar.Settings.routing_of_validate` — both for valid settings, and what they come to for paths
  without braces.
-/

import Sidecar.Proofs.Endpoints
import Sidecar.Proofs.Http.Preference

set_option autoImplicit false

namespace Sidecar

open Http

/-! ### The texts of the patterns -/

namespace ServerSettings

variable (s : ServerSettings)

/-- The path of webhooks is the base path and slashes after it. -/
theorem exists_pathWebhook_eq :
    ∃ n, s.pathWebhook.toList = s.basePath.toList ++ List.replicate n '/' := by
  set back := s.pathWebhook.toList.reverse with hback
  have hslashes : ∀ c ∈ back.takeWhile (· = '/'), c = '/' := by
    intro c hc
    simpa using List.mem_takeWhile_imp hc
  refine ⟨(back.takeWhile (· = '/')).length, ?_⟩
  calc s.pathWebhook.toList
      = (back.takeWhile (· = '/') ++ back.dropWhile (· = '/')).reverse := by
        rw [List.takeWhile_append_dropWhile, hback, List.reverse_reverse]
    _ = (back.dropWhile (· = '/')).reverse ++ (back.takeWhile (· = '/')).reverse :=
        List.reverse_append
    _ = _ := by
        rw [List.eq_replicate_of_mem hslashes, List.reverse_replicate, List.length_replicate,
          basePath, String.toList_ofList]

/-- The pattern of rules starts at the root if the path of webhooks does. -/
theorem head?_admissionPattern (h : isPath s.pathWebhook = true) :
    s.admissionPattern.toList.head? = some '/' := by
  obtain ⟨n, hpath⟩ := s.exists_pathWebhook_eq
  rw [isPath, hpath] at h
  rw [toList_admissionPattern]
  cases hbase : s.basePath.toList with
  | nil => rfl
  | cons c cs =>
      rw [hbase] at h
      simpa using h

end ServerSettings

namespace Http.Pattern

/-- The parts before a slash and those after it. -/
theorem segments_append_slash (cs ds : List Char) :
    segments (cs ++ '/' :: ds) = segments cs ++ segments ds := by
  simp only [segments, List.splitOn_eq_splitOnP]
  exact List.splitOnP_append_cons cs ds (by simp)

/-- Slashes at the end of a text add parts that are empty. -/
theorem segments_append_slashes (cs : List Char) (n : Nat) :
    segments (cs ++ List.replicate n '/') = segments cs ++ List.replicate n [] := by
  induction n generalizing cs with
  | zero => simp
  | succ n ih =>
      rw [List.replicate_succ, segments_append_slash, List.replicate_succ]
      have hrest := ih []
      rw [List.nil_append] at hrest
      rw [hrest]
      rfl

end Http.Pattern

/-- But for the hole, the parts of the pattern of rules start as those of the path of webhooks. -/
theorem ServerSettings.starts_admissionPattern_iff (s : ServerSettings) :
    Pattern.PlainStarts s.admissionPattern.toList ↔ Pattern.PlainStarts s.pathWebhook.toList := by
  obtain ⟨n, hpath⟩ := s.exists_pathWebhook_eq
  have hhole : Pattern.segments ("\x7b*" ++ holeName ++ "\x7d").toList
      = [("\x7b*" ++ holeName ++ "\x7d").toList] := by
    decide
  rw [Pattern.PlainStarts, Pattern.PlainStarts, toList_admissionPattern,
    Pattern.segments_append_slash, hhole, hpath, Pattern.segments_append_slashes]
  simp only [List.forall_mem_append]
  refine and_congr_right fun _ => iff_of_true ?_ ?_
  · intro part hpart c hc
    rw [List.mem_singleton.1 hpart] at hc
    obtain rfl : '{' = c := Option.some.inj hc
    decide
  · intro part hpart c hc
    rw [List.eq_of_mem_replicate hpart] at hc
    cases hc

/-! ### The router -/

namespace Http.Router

variable {α : Type} {method path : String} {handler : α} {router : Router α}

/-- The first handler makes the first endpoint. -/
theorem add?_empty_eq_some_iff :
    empty.add? method path handler = some router
      ↔ ∃ p, Pattern.parse? path = some p ∧ router = ⟨[⟨path, p, [(method, handler)]⟩]⟩ := by
  simp only [add?, empty, extend?, Option.bind_eq_bind, Option.bind_eq_some_iff, List.any_nil,
    Bool.false_eq_true, if_false, List.nil_append, Option.some.injEq]
  exact exists_congr fun p => and_congr_right fun _ => eq_comm

/-- A handler for the text of the one endpoint goes to it. -/
theorem add?_of_path_eq {e : Endpoint α} (hpath : e.path = path)
    (hmethod : e.handlers.lookup method = none) :
    (mk [e]).add? method path handler
      = some ⟨[{ e with handlers := e.handlers ++ [(method, handler)] }]⟩ := by
  simp [add?, extend?, hpath, hmethod]

/-- A handler for another text makes another endpoint. -/
theorem add?_eq_some_iff_of_path_ne {e : Endpoint α} (hpath : e.path ≠ path) :
    (mk [e]).add? method path handler = some router
      ↔ ∃ p, Pattern.parse? path = some p ∧ e.pattern.conflicts p = false
        ∧ router = ⟨[e, ⟨path, p, [(method, handler)]⟩]⟩ := by
  simp only [add?, extend?, if_neg hpath, Option.map_none, Option.bind_eq_bind,
    Option.bind_eq_some_iff, List.any_cons, List.any_nil, Bool.or_false]
  refine exists_congr fun p => and_congr_right fun _ => ?_
  cases hconflict : e.pattern.conflicts p with
  | true => simp
  | false => simp [eq_comm]

/-- The endpoint that takes a path is one of the router's. -/
theorem mem_of_selectFrom {cs : List Char} {es : List (Endpoint α)} {e : Endpoint α}
    {captures : List (String × String)} (h : selectFrom cs es = some (e, captures)) : e ∈ es := by
  induction es generalizing e captures with
  | nil => cases h
  | cons f es ih =>
      rw [selectFrom] at h
      split at h
      · next filled hfilled =>
        cases hrest : selectFrom cs es with
        | none =>
            rw [hrest, prefer] at h
            cases h
            exact List.mem_cons_self ..
        | some other =>
            rw [hrest, prefer] at h
            split at h
            · cases h
              exact List.mem_cons_of_mem _ (ih hrest)
            · cases h
              exact List.mem_cons_self ..
      · exact List.mem_cons_of_mem _ (ih h)

/-- The first of two endpoints takes the paths of its pattern, but for those that are also of the
other's pattern, if that precedes. -/
theorem exists_select_first_iff {e f : Endpoint α} (hne : f ≠ e) :
    (∃ captures, (mk [e, f]).select path = some (e, captures))
      ↔ (e.pattern.match? path.toList).isSome
        ∧ ((f.pattern.match? path.toList).isSome → f.pattern.precedes e.pattern ≠ true) := by
  simp only [select, selectFrom]
  cases he : e.pattern.match? path.toList with
  | none =>
      cases hf : f.pattern.match? path.toList with
      | none => simp
      | some filled => simp [prefer, hne]
  | some filled =>
      cases hf : f.pattern.match? path.toList with
      | none => simp [prefer]
      | some filled' =>
          by_cases hprecedes : f.pattern.precedes e.pattern = true
          · simp [prefer, hprecedes, hne]
          · simp [prefer, hprecedes]

end Http.Router

/-- The settings can be served with these patterns: they are those that the texts write, and if the
texts differ the patterns can be told apart. -/
structure ServerSettings.Servable (s : ServerSettings) (health admission : Pattern) : Prop where
  writtenHealth : Pattern.Written s.pathHealthcheck health
  writtenAdmission : Pattern.Written s.admissionPattern admission
  apart : s.pathHealthcheck ≠ s.admissionPattern → ¬ Pattern.Clash health admission

/-- The health check is preferred for a path: it has an endpoint of its own, the path is of its
pattern, and if the path is of the other pattern, too, its pattern is preferred. -/
structure ServerSettings.Hides (s : ServerSettings) (health admission : Pattern)
    (path : String) : Prop where
  apart : s.pathHealthcheck ≠ s.admissionPattern
  matched : (health.match? path.toList).isSome
  preferred : (admission.match? path.toList).isSome → Pattern.Preferred health admission

/-- A POST to the path ends at the health check: it is handed to it, or refused by its endpoint, the
only one that does not take a POST. -/
def Http.Router.ChecksHealth (router : Router WebhookRoute) (path : String) : Prop :=
  router.dispatch "POST" path = .methodNotAllowed
    ∨ ∃ captures, router.dispatch "POST" path = .handler .healthcheck captures

/-- A POST ends at the health check exactly if the endpoint that takes the path has no handler for
admissions. -/
theorem Http.Router.checksHealth_iff_select {router : Router WebhookRoute} {path : String} :
    router.ChecksHealth path
      ↔ ∃ e captures, router.select path = some (e, captures)
        ∧ handlerFor e "POST" ≠ some .admission := by
  unfold ChecksHealth dispatch
  cases hselect : router.select path with
  | none => simp
  | some found =>
      obtain ⟨e, captures⟩ := found
      cases hhandler : handlerFor e "POST" with
      | none => simp [hhandler]
      | some route => cases route <;> simp [hhandler]

namespace ServerSettings

/-- The endpoints with these patterns; two of the same text are one. -/
def endpoints (s : ServerSettings) (health admission : Pattern) : List (Endpoint WebhookRoute) :=
  if s.pathHealthcheck = s.admissionPattern then
    [⟨s.pathHealthcheck, health, [("GET", .healthcheck), ("POST", .admission)]⟩]
  else
    [⟨s.pathHealthcheck, health, [("GET", .healthcheck)]⟩,
      ⟨s.admissionPattern, admission, [("POST", .admission)]⟩]

variable {s : ServerSettings}

/-- **The router exists exactly if the settings are servable.** -/
theorem router?_eq_some_iff (hhealth : isPath s.pathHealthcheck = true)
    (hwebhook : isPath s.pathWebhook = true) {router : Router WebhookRoute} :
    s.router? = some router
      ↔ ∃ health admission, s.Servable health admission
        ∧ router = ⟨s.endpoints health admission⟩ := by
  have hroot : s.pathHealthcheck.toList.head? = some '/' := by
    simpa [isPath] using hhealth
  have hwritten : ∀ {p}, Pattern.parse? s.pathHealthcheck = some p
      ↔ Pattern.Written s.pathHealthcheck p := by
    intro p
    rw [Pattern.parse?_eq_some_iff, and_iff_right hroot]
  have hwrittenBelow : ∀ {p}, Pattern.parse? s.admissionPattern = some p
      ↔ Pattern.Written s.admissionPattern p := by
    intro p
    rw [Pattern.parse?_eq_some_iff, and_iff_right (s.head?_admissionPattern hwebhook)]
  simp only [router?, Option.bind_eq_bind, Option.bind_eq_some_iff, Router.add?_empty_eq_some_iff,
    hwritten]
  by_cases hsame : s.pathHealthcheck = s.admissionPattern
  · have hadd : ∀ health admission, (Router.mk [⟨s.pathHealthcheck, health,
          [("GET", WebhookRoute.healthcheck)]⟩]).add? "POST" s.admissionPattern .admission
        = some ⟨s.endpoints health admission⟩ := by
      intro health admission
      rw [Router.add?_of_path_eq hsame (by rfl), endpoints, if_pos hsame]
      rfl
    constructor
    · rintro ⟨_, ⟨health, hhealth, rfl⟩, hrouter⟩
      rw [hadd health health] at hrouter
      exact ⟨health, health, ⟨hhealth, hsame ▸ hhealth, fun h => absurd hsame h⟩,
        (Option.some.inj hrouter).symm⟩
    · rintro ⟨health, admission, hservable, rfl⟩
      exact ⟨_, ⟨health, hservable.writtenHealth, rfl⟩, hadd health admission⟩
  · have hconflict : ∀ {health admission}, Pattern.Written s.pathHealthcheck health →
        Pattern.Written s.admissionPattern admission →
        (Pattern.conflicts health admission = false ↔ ¬ Pattern.Clash health admission) := by
      intro health admission hp hq
      rw [← Bool.not_eq_true, Pattern.conflicts_iff hp.spelled.restLast hq.spelled.restLast]
    constructor
    · rintro ⟨_, ⟨health, hhealth, rfl⟩, hrouter⟩
      obtain ⟨admission, hadmission, hapart, rfl⟩ :=
        (Router.add?_eq_some_iff_of_path_ne hsame).1 hrouter
      have hadmission := hwrittenBelow.1 hadmission
      have hclash := (hconflict hhealth hadmission).1 hapart
      refine ⟨health, admission, ⟨hhealth, hadmission, fun _ => hclash⟩, ?_⟩
      rw [endpoints, if_neg hsame]
    · rintro ⟨health, admission, ⟨hhealth, hadmission, hapart⟩, rfl⟩
      refine ⟨_, ⟨health, hhealth, rfl⟩, (Router.add?_eq_some_iff_of_path_ne hsame).2 ?_⟩
      refine ⟨admission, hwrittenBelow.2 hadmission, ?_, ?_⟩
      · exact (hconflict hhealth hadmission).2 (hapart hsame)
      · rw [endpoints, if_neg hsame]

/-- Of the two patterns of a path either that of the health check is preferred or the other precedes
it. -/
theorem Servable.precedes_iff {health admission : Pattern} (h : s.Servable health admission)
    (hapart : s.pathHealthcheck ≠ s.admissionPattern) (hmeet : Pattern.Meet admission health) :
    Pattern.precedes admission health = true ↔ ¬ Pattern.Preferred health admission := by
  have hp := h.writtenHealth.spelled.restLast
  have hq := h.writtenAdmission.spelled.restLast
  rw [Pattern.precedes_iff hq hp hmeet]
  constructor
  · exact fun hpreferred => hpreferred.not_preferred
  · intro hnot
    obtain ⟨cs, hadmission, hhealth⟩ := hmeet
    have hone := Pattern.preferred_or_preferred hp hq (h.apart hapart) ⟨cs, hhealth, hadmission⟩
    exact hone.resolve_left hnot

/-- **Which paths the health check answers in place of the webhook.** -/
theorem checksHealth_iff {health admission : Pattern} (h : s.Servable health admission)
    (path : String) :
    (Router.mk (s.endpoints health admission)).ChecksHealth path
      ↔ s.Hides health admission path := by
  rw [Router.checksHealth_iff_select]
  by_cases hsame : s.pathHealthcheck = s.admissionPattern
  · rw [endpoints, if_pos hsame]
    refine iff_of_false ?_ fun hhides => hhides.apart hsame
    -- the one endpoint there is takes a POST as an admission
    rintro ⟨e, captures, hselect, hpost⟩
    obtain rfl := List.mem_singleton.1 (Router.mem_of_selectFrom hselect)
    exact hpost rfl
  · rw [endpoints, if_neg hsame]
    set atHealth : Endpoint WebhookRoute := ⟨s.pathHealthcheck, health, [("GET", .healthcheck)]⟩
      with hatHealth
    set atRules : Endpoint WebhookRoute := ⟨s.admissionPattern, admission, [("POST", .admission)]⟩
      with hatRules
    have hfirst : (∃ e captures, (Router.mk [atHealth, atRules]).select path = some (e, captures)
          ∧ Router.handlerFor e "POST" ≠ some .admission)
        ↔ ∃ captures, (Router.mk [atHealth, atRules]).select path = some (atHealth, captures) := by
      constructor
      · rintro ⟨e, captures, hselect, hpost⟩
        rcases List.mem_pair.1 (Router.mem_of_selectFrom hselect) with rfl | rfl
        · exact ⟨captures, hselect⟩
        · exact absurd rfl hpost
      · rintro ⟨captures, hselect⟩
        exact ⟨atHealth, captures, hselect, fun hpost => by cases hpost⟩
    have hne : atRules ≠ atHealth := fun heq => hsame (congrArg Endpoint.path heq).symm
    rw [hfirst, Router.exists_select_first_iff hne]
    constructor
    · rintro ⟨hhealth, hpreferred⟩
      refine ⟨hsame, hhealth, fun hadmission => ?_⟩
      have hprecedes := h.precedes_iff hsame ⟨_, hadmission, hhealth⟩
      exact not_not.1 fun hnot => hpreferred hadmission (hprecedes.2 hnot)
    · rintro ⟨_, hhealth, hpreferred⟩
      refine ⟨hhealth, fun hadmission hbad => ?_⟩
      exact (h.precedes_iff hsame ⟨_, hadmission, hhealth⟩).1 hbad (hpreferred hadmission)

end ServerSettings

/-! ### Paths without braces -/

namespace Http.Pattern

/-- There is no brace in the text. -/
def NoBraces (cs : List Char) : Prop :=
  ∀ c ∈ cs, c ∉ braces

instance (cs : List Char) : Decidable (NoBraces cs) :=
  decidable_of_iff (cs.all (· ∉ braces)) <| by
    simp [NoBraces]

theorem NoBraces.ne {cs : List Char} (h : NoBraces cs) : ∀ c ∈ cs, c ≠ '{' ∧ c ≠ '}' := by
  intro c hc
  simpa [braces] using h c hc

/-- A text without braces writes the pattern of itself. -/
theorem NoBraces.spells_iff {cs : List Char} (h : NoBraces cs) {p : Pattern} :
    Spells cs p ↔ p = literals cs := by
  rw [← pieces?_eq_some_iff, pieces?_of_noBraces cs h.ne, Option.some.injEq, eq_comm]

/-- A pattern with a hole for the rest does not precede one of characters. -/
theorem precedes_rest_literals (cs ds : List Char) (name : String) :
    precedes (literals ds ++ [.rest name]) (literals cs) = false := by
  induction ds generalizing cs with
  | nil => cases cs <;> rfl
  | cons d ds ih =>
      cases cs with
      | nil => rfl
      | cons c cs => exact ih cs

end Http.Pattern

namespace ServerSettings

section NoBraces

variable {s : ServerSettings}

theorem noBraces_basePath (h : Pattern.NoBraces s.pathWebhook.toList) :
    Pattern.NoBraces s.basePath.toList := by
  obtain ⟨n, hpath⟩ := s.exists_pathWebhook_eq
  intro c hc
  exact h c (hpath ▸ List.mem_append_left _ hc)

/-- The pattern of rules with a path of webhooks without braces: that path up to the slashes at its
end, a slash, and a hole for the rest. -/
theorem spells_admissionPattern_iff (h : Pattern.NoBraces s.pathWebhook.toList) {p : Pattern} :
    Pattern.Spells s.admissionPattern.toList p
      ↔ p = Pattern.literals (s.basePath.toList ++ ['/']) ++ [.rest holeName] := by
  have hbase : ∀ c ∈ s.basePath.toList ++ ['/'], c ≠ '{' ∧ c ≠ '}' := by
    intro c hc
    rcases List.mem_append.1 hc with hc | hc
    · exact (noBraces_basePath h).ne c hc
    · rw [List.mem_singleton.1 hc]
      decide
  rw [← Pattern.pieces?_eq_some_iff, toList_admissionPattern, ← List.singleton_append,
    ← List.append_assoc, Pattern.pieces?_rest hbase, Option.some.injEq, eq_comm]

/-- The pattern of rules has a brace. -/
theorem ne_admissionPattern (h : Pattern.NoBraces s.pathHealthcheck.toList) :
    s.pathHealthcheck ≠ s.admissionPattern := by
  intro heq
  have hbrace : '{' ∈ s.pathHealthcheck.toList := by
    rw [heq, toList_admissionPattern]
    simp
  exact h '{' hbrace (by decide)

variable (hhealth : Pattern.NoBraces s.pathHealthcheck.toList)
  (hwebhook : Pattern.NoBraces s.pathWebhook.toList)

include hhealth hwebhook

/-- Without braces only the starts of the parts can be wrong. -/
theorem servable_iff_of_noBraces {health admission : Pattern} :
    s.Servable health admission
      ↔ (health = Pattern.literals s.pathHealthcheck.toList
          ∧ admission = Pattern.literals (s.basePath.toList ++ ['/']) ++ [.rest holeName])
        ∧ Pattern.PlainStarts s.pathHealthcheck.toList
        ∧ Pattern.PlainStarts s.pathWebhook.toList := by
  rw [← s.starts_admissionPattern_iff]
  constructor
  · rintro ⟨⟨hstarts, hspelled⟩, ⟨hstarts', hspelled'⟩, _⟩
    exact ⟨⟨hhealth.spells_iff.1 hspelled, (spells_admissionPattern_iff hwebhook).1 hspelled'⟩,
      hstarts, hstarts'⟩
  · rintro ⟨⟨hliteral, hrest⟩, hstarts, hstarts'⟩
    have hspelled := hhealth.spells_iff.2 hliteral
    have hspelled' := (spells_admissionPattern_iff hwebhook).2 hrest
    refine ⟨⟨hstarts, hspelled⟩, ⟨hstarts', hspelled'⟩, fun _ hclash => ?_⟩
    have hconflict := (Pattern.conflicts_iff hspelled.restLast hspelled'.restLast).2 hclash
    rw [hliteral, hrest, Pattern.conflicts_literals_rest] at hconflict
    cases hconflict

/-- Without braces the one path that the health check hides is its own. -/
theorem Servable.hides_iff_of_noBraces {health admission : Pattern}
    (h : s.Servable health admission) (path : String) :
    s.Hides health admission path ↔ path = s.pathHealthcheck := by
  have hapart := ne_admissionPattern hhealth
  obtain ⟨⟨hliteral, hrest⟩, _⟩ := (servable_iff_of_noBraces hhealth hwebhook).1 h
  have hmatched : (health.match? path.toList).isSome ↔ path = s.pathHealthcheck := by
    rw [hliteral, Pattern.match?_literals, ← String.toList_inj]
    split
    · next heq => exact iff_of_true rfl heq.symm
    · next hne => exact iff_of_false (by simp) (Ne.symm hne)
  constructor
  · exact fun hhides => hmatched.1 hhides.matched
  · intro hpath
    refine ⟨hapart, hmatched.2 hpath, fun hadmission => ?_⟩
    have hprecedes := h.precedes_iff hapart ⟨_, hadmission, hmatched.2 hpath⟩
    have hnever : Pattern.precedes admission health = false := by
      rw [hliteral, hrest, Pattern.precedes_rest_literals]
    rw [hnever] at hprecedes
    exact not_not.1 fun hnot => Bool.false_ne_true (hprecedes.2 hnot)

end NoBraces

end ServerSettings

/-! ### Valid settings -/

namespace Settings

/-- **Which valid settings can be served, and which rules the health check hides.**  Let settings be
valid.  Then the router exists exactly if their texts write two patterns that can be told apart.  A
POST to the path of a registered rule ends at the health check exactly if the pattern of the health
check is preferred for that path.  And if neither path has a brace, the router exists exactly if no
part of them starts with a colon or an asterisk, and the POST ends at the health check exactly if
the path of the rule, up to a query, is that of the health check. -/
theorem routing_of_validate {s : Settings} {registry : Registry}
    (hvalid : s.validate = .ok registry) :
    ((∃ router, s.server.router? = some router)
        ↔ ∃ health admission, s.server.Servable health admission)
      ∧ (∀ router health admission, s.server.router? = some router →
          s.server.Servable health admission → ∀ registered ∈ registry.rules,
            (router.ChecksHealth (pathOf (s.server.webhookPath registered.fingerprint))
              ↔ s.server.Hides health admission
                (pathOf (s.server.webhookPath registered.fingerprint))))
      ∧ (Pattern.NoBraces s.server.pathHealthcheck.toList →
          Pattern.NoBraces s.server.pathWebhook.toList →
          ((∃ router, s.server.router? = some router)
              ↔ Pattern.PlainStarts s.server.pathHealthcheck.toList
                ∧ Pattern.PlainStarts s.server.pathWebhook.toList)
            ∧ ∀ router, s.server.router? = some router → ∀ registered ∈ registry.rules,
              (router.ChecksHealth (pathOf (s.server.webhookPath registered.fingerprint))
                ↔ pathOf (s.server.webhookPath registered.fingerprint)
                  = s.server.pathHealthcheck)) := by
  obtain ⟨hwebhook, hhealth, _⟩ := validate_eq_ok_iff.1 hvalid
  have hrouter : ∀ {router}, s.server.router? = some router
      ↔ ∃ health admission, s.server.Servable health admission
        ∧ router = ⟨s.server.endpoints health admission⟩ :=
    ServerSettings.router?_eq_some_iff hhealth hwebhook
  have hexists : (∃ router, s.server.router? = some router)
      ↔ ∃ health admission, s.server.Servable health admission := by
    constructor
    · rintro ⟨router, h⟩
      obtain ⟨health, admission, hservable, _⟩ := hrouter.1 h
      exact ⟨health, admission, hservable⟩
    · rintro ⟨health, admission, hservable⟩
      exact ⟨_, hrouter.2 ⟨health, admission, hservable, rfl⟩⟩
  refine ⟨hexists, ?_, ?_⟩
  · intro router health admission h hservable registered _
    -- the router is that of these patterns
    have hthis := hrouter.2 ⟨health, admission, hservable, rfl⟩
    obtain rfl := Option.some.inj (h.symm.trans hthis)
    exact ServerSettings.checksHealth_iff hservable _
  · intro hplain hplain'
    refine ⟨hexists.trans ⟨?_, ?_⟩, ?_⟩
    · rintro ⟨_, _, hservable⟩
      exact ((ServerSettings.servable_iff_of_noBraces hplain hplain').1 hservable).2
    · intro hstarts
      exact ⟨_, _, (ServerSettings.servable_iff_of_noBraces hplain hplain').2 ⟨⟨rfl, rfl⟩, hstarts⟩⟩
    · intro router h registered _
      obtain ⟨health, admission, hservable, rfl⟩ := hrouter.1 h
      rw [ServerSettings.checksHealth_iff hservable,
        hservable.hides_iff_of_noBraces hplain hplain']

/-- The health check below the webhooks of a rule, and behind a hole where a rule has its path: both
can be served, and hide no rule. -/
theorem routing_of_validate_below_and_behind :
    ∃ (below behind : Settings) (registry : Registry),
      below.validate = .ok registry ∧ behind.validate = .ok registry
        ∧ below.server.pathHealthcheck = "/mutate/healthz"
        ∧ behind.server.pathHealthcheck = "/\x7bprobe\x7d/3c0f39bbe7162420"
        ∧ registry.rules.map (·.fingerprint) = ["3c0f39bbe7162420"]
        ∧ ∀ s ∈ [below, behind], ∃ router, s.server.router? = some router
          ∧ ∀ registered ∈ registry.rules,
            ¬ router.ChecksHealth (pathOf (s.server.webhookPath registered.fingerprint)) := by
  let rules : List Rule := [{ (default : Rule) with name := "exporter" }]
  let below : Settings := { rules, server := { pathHealthcheck := "/mutate/healthz" } }
  let behind : Settings :=
    { rules, server := { pathHealthcheck := "/\x7bprobe\x7d/3c0f39bbe7162420" } }
  let registry : Registry := ⟨rules.map .ofRule⟩
  have hbelow : below.validate = .ok registry := by
    decide +kernel
  have hbehind : behind.validate = .ok registry := by
    decide +kernel
  have hfingerprints : registry.rules.map (·.fingerprint) = ["3c0f39bbe7162420"] := by
    decide +kernel
  refine ⟨below, behind, registry, hbelow, hbehind, rfl, rfl, hfingerprints, ?_⟩
  intro s hs
  rcases List.mem_pair.1 hs with rfl | rfl
  · obtain ⟨_, _, hplain⟩ := routing_of_validate hbelow
    obtain ⟨hexists, hchecks⟩ := hplain (by decide) (by decide)
    obtain ⟨router, hrouter⟩ := hexists.2 (by decide)
    have hapart : ∀ registered ∈ registry.rules,
        pathOf (below.server.webhookPath registered.fingerprint)
          ≠ below.server.pathHealthcheck := by
      decide +kernel
    refine ⟨router, hrouter, fun registered hregistered hhealth => ?_⟩
    exact hapart registered hregistered ((hchecks router hrouter registered hregistered).1 hhealth)
  · obtain ⟨hexists, hchecks, _⟩ := routing_of_validate hbehind
    let health : Pattern :=
      .literal '/' :: .segment "probe" :: Pattern.literals "/3c0f39bbe7162420".toList
    let admission : Pattern :=
      Pattern.literals "/mutate/".toList ++ [.rest ServerSettings.holeName]
    have hwritten : Pattern.Written behind.server.pathHealthcheck health :=
      ⟨by decide, Pattern.pieces?_eq_some_iff.1 (by decide)⟩
    have hwritten' : Pattern.Written behind.server.admissionPattern admission :=
      ⟨by decide, Pattern.pieces?_eq_some_iff.1 (by decide)⟩
    have hrest := hwritten.spelled.restLast
    have hrest' := hwritten'.spelled.restLast
    have hservable : behind.server.Servable health admission :=
      ⟨hwritten, hwritten', fun _ hclash =>
        absurd ((Pattern.conflicts_iff hrest hrest').2 hclash) (by decide)⟩
    obtain ⟨router, hrouter⟩ := hexists.2 ⟨health, admission, hservable⟩
    refine ⟨router, hrouter, fun registered hregistered hhealth => ?_⟩
    have hhides := (hchecks router _ _ hrouter hservable registered hregistered).1 hhealth
    -- the path is of both patterns, but after the slash that of the rules has a character
    have hadmission : ∀ registered ∈ registry.rules, (admission.match?
        (pathOf (behind.server.webhookPath registered.fingerprint)).toList).isSome := by
      decide +kernel
    have hadmission := hadmission registered hregistered
    have hprecedes := Pattern.precedes_iff hrest hrest' ⟨_, hhides.matched, hadmission⟩
    exact absurd (hprecedes.2 (hhides.preferred hadmission)) (by decide)

/-- Valid settings that cannot be served, since the pattern of the health check cannot be told apart
from that of the rules, and others whose health check is at the path of a rule and answers there. -/
theorem valid_of_conflicting_and_of_hidden :
    ∃ (conflicting covering : Settings) (registry : Registry) (router : Router WebhookRoute),
      conflicting.validate = .ok registry ∧ covering.validate = .ok registry
        ∧ conflicting.server.pathHealthcheck = "/mutate/\x7bprobe\x7d"
        ∧ conflicting.server.router? = none
        ∧ covering.server.router? = some router
        ∧ ∃ r ∈ registry.rules,
          covering.server.pathHealthcheck = covering.server.webhookPath r.fingerprint
            ∧ router.ChecksHealth (pathOf (covering.server.webhookPath r.fingerprint)) := by
  let rule : Rule := { (default : Rule) with name := "exporter" }
  let rules : List Rule := [rule]
  let conflicting : Settings :=
    { rules, server := { pathHealthcheck := "/mutate/\x7bprobe\x7d" } }
  let covering : Settings := { rules, server := { pathHealthcheck := "/mutate/3c0f39bbe7162420" } }
  let registry : Registry := ⟨rules.map .ofRule⟩
  have hnone : conflicting.server.router?.isNone = true := by
    decide
  have hplain : Pattern.NoBraces covering.server.pathHealthcheck.toList := by
    decide
  have hplain' : Pattern.NoBraces covering.server.pathWebhook.toList := by
    decide
  have hservable := (ServerSettings.servable_iff_of_noBraces hplain hplain').2
    ⟨⟨rfl, rfl⟩, by decide, by decide⟩
  have hpath : ∀ registered ∈ registry.rules,
      covering.server.pathHealthcheck = covering.server.webhookPath registered.fingerprint
        ∧ pathOf (covering.server.webhookPath registered.fingerprint)
          = covering.server.pathHealthcheck := by
    decide +kernel
  have hmember : RegisteredRule.ofRule rule ∈ registry.rules := List.mem_singleton.2 rfl
  have hrouter := (ServerSettings.router?_eq_some_iff (by decide) (by decide)).2
    ⟨_, _, hservable, rfl⟩
  obtain ⟨hsame, hwhole⟩ := hpath _ hmember
  refine ⟨conflicting, covering, registry, _, by decide +kernel, by decide +kernel, rfl,
    Option.isNone_iff_eq_none.1 hnone, hrouter, _, hmember, hsame, ?_⟩
  rw [ServerSettings.checksHealth_iff hservable,
    hservable.hides_iff_of_noBraces hplain hplain']
  exact hwhole

end Settings

end Sidecar
