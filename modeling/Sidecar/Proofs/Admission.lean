/-
**Every answer of the admission handler.**

A request that the router hands to the admissions is refused if it does not say that its body is
JSON, or if its body is no review of a request.  Everything else is admitted: with the patch of the
engine, if the engine has one, and with a message, if there was a pod to read and it could not be
read or the engine failed.

The header is read as text before it is looked at, so a content type with a character outside ASCII
is none, wherever in it the character stands.  What a body asks is for a reader of reviews to say;
whichever reader there is, the handler makes the same of it.

Main definitions:

* `Sidecar.Http.IsMediaType` — a content type says a media type;
* `Sidecar.AdmissionRequest.IsForPod`, `Sidecar.AdmissionRequest.pod?` — a request about a pod, and
  the pod that it carries;
* `Sidecar.Http.Request.Asks` — the body of a request is a review that carries a request;
* `Sidecar.WebhookReply.status` — the status of an answer.

Main results:

* `Sidecar.Http.Request.isJson_iff` — **when a request says that its body is JSON;**
* `Sidecar.InjectionError.message_ne_empty` — every error has something to say;
* `Sidecar.Engine.admission_patch_iff`, `Sidecar.Engine.admission_message_iff` — when an admission
  has a patch, and when it has a message;
* `Sidecar.Webhook.respond_of_admission` — **what every request to the admissions is answered.**
-/

import Sidecar.Proofs.Endpoints
import Sidecar.Proofs.Text.Trimming

set_option autoImplicit false

namespace Sidecar

/-! ### Content types -/

namespace Http

/-- Whether a content type says the media type: the name stands first, in letters of any case and
between any blanks, and parameters may follow it. -/
def IsMediaType (name : String) (value : String) : Prop :=
  ∃ before written after parameters : List Char,
    value.toList = before ++ written ++ after ++ parameters
      ∧ (∀ c ∈ before, Text.isBlank c = true) ∧ (∀ c ∈ after, Text.isBlank c = true)
      ∧ written.map Char.toLower = name.toList
      ∧ (parameters = [] ∨ ∃ rest, parameters = ';' :: rest)

/-- The media type of JSON. -/
def jsonType : String := "application/json"

/-- Of what is written for JSON no character is a blank or a semicolon. -/
theorem of_toLower_mem_jsonType {c : Char} (h : c.toLower ∈ jsonType.toList) :
    Text.isBlank c = false ∧ c ≠ ';' := by
  by_cases hupper : 'A'.val ≤ c.val ∧ c.val ≤ 'Z'.val
  · -- an upper case letter lies between the ranges of blanks, and is no semicolon
    have hlow : 65 ≤ c.toNat := hupper.1
    have hhigh : c.toNat ≤ 90 := hupper.2
    constructor
    · rw [Bool.eq_false_iff, ne_eq, Text.isBlank, Text.CodeRanges.has_iff]
      rintro ⟨r, hr, hfirst, hlast⟩
      simp only [Text.blanks, List.mem_cons, List.not_mem_nil, or_false] at hr
      rcases hr with rfl | rfl | rfl | rfl | rfl | rfl | rfl | rfl | rfl | rfl <;>
        (simp only at hfirst hlast; omega)
    · rintro rfl
      exact absurd hlow (by decide)
  · have hsame : c.toLower = c := dif_neg hupper
    rw [hsame] at h
    have hall : (jsonType.toList.all fun d => !Text.isBlank d && d != ';') = true := by decide
    simpa using List.all_eq_true.1 hall c h

/-- A content type says that of JSON exactly if that is what the part before the first semicolon is
but for blanks around it and for case. -/
theorem isMediaType_iff {value : String} :
    IsMediaType jsonType value
      ↔ (Text.trimChars (value.toList.takeWhile (· ≠ ';'))).map Char.toLower
        = jsonType.toList := by
  constructor
  · rintro ⟨before, written, after, parameters, hvalue, hbefore, hafter, hwritten, hparameters⟩
    have hname : ∀ c ∈ written, Text.isBlank c = false ∧ c ≠ ';' := fun c hc =>
      of_toLower_mem_jsonType (hwritten ▸ List.mem_map_of_mem hc)
    have hblank : ∀ c, Text.isBlank c = true → c ≠ ';' := by
      rintro c hc rfl
      exact absurd hc (by decide)
    have hnone : ∀ c ∈ before ++ written ++ after, c ≠ ';' := by
      intro c hc
      rcases List.mem_append.1 hc with hc | hc
      · rcases List.mem_append.1 hc with hc | hc
        · exact hblank c (hbefore c hc)
        · exact (hname c hc).2
      · exact hblank c (hafter c hc)
    have htake : value.toList.takeWhile (· ≠ ';') = before ++ written ++ after := by
      rw [hvalue, List.takeWhile_append_of_pos (by simpa using hnone)]
      rcases hparameters with rfl | ⟨rest, rfl⟩ <;> simp
    rw [htake, Text.trimChars_of_blanks hbefore hafter fun c hc => (hname c hc).1, hwritten]
  · intro hwritten
    obtain ⟨before, after, hsplit, hbefore, hafter⟩ :=
      Text.exists_trimChars (value.toList.takeWhile (· ≠ ';'))
    refine ⟨before, _, after, value.toList.dropWhile (· ≠ ';'), ?_, hbefore, hafter, hwritten, ?_⟩
    · rw [← hsplit, List.takeWhile_append_dropWhile]
    · cases hrest : value.toList.dropWhile (· ≠ ';') with
      | nil => exact .inl rfl
      | cons c rest =>
        have hc : c = ';' := by
          have hhead := List.head?_dropWhile_not (fun d => decide (d ≠ ';')) value.toList
          rw [hrest] at hhead
          simpa using hhead
        exact .inr ⟨rest, hc ▸ rfl⟩

namespace Request

/-- A header is read as the text that its bytes are, if that has no character but those of text. -/
theorem headerText?_eq_some_iff {bytes : ByteArray} {value : String} :
    headerText? bytes = some value
      ↔ bytes = value.toUTF8 ∧ ∀ c ∈ value.toList, isHeaderText c = true := by
  rw [headerText?, Option.filter_eq_some_iff, Feed.fromUTF8?_eq_some_iff, List.all_eq_true]

/-- **A request says that its body is JSON** exactly if it has a content type that is text, and whose
media type is that of JSON. -/
theorem isJson_iff (r : Request) :
    r.isJson = true ↔ ∃ value : String, r.contentType = some value.toUTF8
      ∧ (∀ c ∈ value.toList, isHeaderText c = true) ∧ IsMediaType jsonType value := by
  rw [isJson, Option.any_eq_true]
  constructor
  · rintro ⟨value, hvalue, htype⟩
    obtain ⟨bytes, hbytes, htext⟩ := Option.bind_eq_some_iff.1 hvalue
    obtain ⟨rfl, hchars⟩ := headerText?_eq_some_iff.1 htext
    exact ⟨value, hbytes, hchars, isMediaType_iff.2 (beq_iff_eq.1 htype)⟩
  · rintro ⟨value, hbytes, hchars, htype⟩
    refine ⟨value, Option.bind_eq_some_iff.2 ⟨_, hbytes, ?_⟩, beq_iff_eq.2 (isMediaType_iff.1 htype)⟩
    exact headerText?_eq_some_iff.2 ⟨rfl, hchars⟩

end Request

end Http

/-! ### Requests -/

namespace Http.Request

/-- The body is a review, for the reader, that carries the request. -/
def Asks (r : Http.Request) (reader : AdmissionReview.Reader) (type : TypeMeta)
    (asked : AdmissionRequest) : Prop :=
  reader r.body = some ⟨type, some asked⟩

theorem Asks.unique {r : Http.Request} {reader : AdmissionReview.Reader} {type other : TypeMeta}
    {asked wanted : AdmissionRequest} (h : r.Asks reader type asked)
    (h' : r.Asks reader other wanted) : type = other ∧ asked = wanted := by
  have hsame := h.symm.trans h'
  simp only [Option.some.injEq, AdmissionReview.mk.injEq] at hsame
  exact hsame

/-- A request is read exactly if it says that its body is JSON, and the body is not empty and a
review that carries it. -/
theorem review_eq_ok_iff {r : Http.Request} {reader : AdmissionReview.Reader} {type : TypeMeta}
    {asked : AdmissionRequest} :
    r.review reader = .ok (type, asked)
      ↔ r.isJson = true ∧ r.body.size ≠ 0 ∧ r.Asks reader type asked := by
  unfold review Asks
  have hempty : r.body.isEmpty = true ↔ r.body.size = 0 := beq_iff_eq
  cases hjson : r.isJson with
  | false => simp
  | true =>
    by_cases hbody : r.body.size = 0
    · simp [hempty.2 hbody, hbody]
    · have hnot : ¬ r.body.isEmpty = true := fun h => hbody (hempty.1 h)
      cases hparse : reader r.body with
      | none => simp [hnot, hbody]
      | some review =>
        obtain ⟨seen, carried⟩ := review
        cases carried <;> simp [hnot, hbody]

end Http.Request

/-! ### Messages -/

theorem append_ne_empty {a : String} (h : a ≠ "") (b : String) : a ++ b ≠ "" :=
  fun hempty => h (String.append_eq_empty_iff.1 hempty).1

/-- Every error of a rule has something to say: the wording starts with words of its own. -/
theorem RuleError.message_ne_empty (e : RuleError) : e.message ≠ "" := by
  cases e with
  | invalidRequirementValues context operator =>
    have hplace : context.describe ≠ "" := by
      cases context <;> decide
    exact append_ne_empty (append_ne_empty (append_ne_empty hplace _) _) _
  | _ =>
    unfold message
    repeat apply append_ne_empty
    decide

/-- Every error of the engine has something to say. -/
theorem InjectionError.message_ne_empty (e : InjectionError) : e.message ≠ "" := by
  cases e with
  | missingSpec => decide
  | rule cause => exact cause.message_ne_empty

/-! ### Admissions -/

namespace AdmissionRequest

/-- A request about a pod: the kind of that name in the core group. -/
def IsForPod (r : AdmissionRequest) : Prop :=
  r.kind = "Pod" ∧ r.group = ""

/-- The pod that the request carries, if it carries an object and that is one. -/
def pod? (r : AdmissionRequest) : Option Cluster.Pod :=
  r.object.bind Cluster.Pod.ofJson?

end AdmissionRequest

namespace Engine

variable (engine : Engine) (fingerprint : String) (type : TypeMeta) {request : AdmissionRequest}
  (now : Timestamp)

/-- What is no pod is admitted as it is. -/
theorem admission_of_not_isForPod (h : ¬ request.IsForPod) :
    (engine.admission fingerprint type request now).response = .allow type request := by
  have hother : request.kind ≠ "Pod" ∨ request.group ≠ "" := by
    rwa [AdmissionRequest.IsForPod, Classical.not_and_iff_not_or_not] at h
  rw [admission, if_pos hother]

/-- A pod that cannot be read is admitted as it is, with a message. -/
theorem admission_of_unreadable (h : request.IsForPod) (hpod : request.pod? = none) :
    ∃ message, message ≠ "" ∧ (engine.admission fingerprint type request now).response
      = { AdmissionResponse.allow type request with message } := by
  have hother : ¬ (request.kind ≠ "Pod" ∨ request.group ≠ "") := by
    simp [h.1, h.2]
  rw [admission, if_neg hother]
  cases hobject : request.object with
  | none => exact ⟨_, by decide, rfl⟩
  | some object =>
    rw [AdmissionRequest.pod?, hobject, Option.bind_some] at hpod
    simp only [hpod]
    exact ⟨_, by decide, rfl⟩

/-- A pod that can be read is admitted with what the engine has for it. -/
theorem admission_of_pod (h : request.IsForPod) {pod : Cluster.Pod}
    (hpod : request.pod? = some pod) :
    (engine.admission fingerprint type request now).response
      = match engine.mutate fingerprint pod now with
        | .ok (.patched _ patch) => { AdmissionResponse.allow type request with patch := some patch }
        | .ok _ => .allow type request
        | .error e => { AdmissionResponse.allow type request with message := e.message } := by
  have hother : ¬ (request.kind ≠ "Pod" ∨ request.group ≠ "") := by
    simp [h.1, h.2]
  obtain ⟨object, hobject, hread⟩ := Option.bind_eq_some_iff.1 hpod
  rw [admission, if_neg hother]
  simp only [hobject, hread]
  cases engine.mutate fingerprint pod now with
  | error e => rfl
  | ok outcome => cases outcome <;> rfl

/-- **An admission has a patch** exactly if the request is for a pod, the pod can be read, and the
engine has that patch for it. -/
theorem admission_patch_iff (patch : Json.Patch) :
    (engine.admission fingerprint type request now).response.patch = some patch
      ↔ request.IsForPod ∧ ∃ pod rule, request.pod? = some pod
        ∧ engine.mutate fingerprint pod now = .ok (.patched rule patch) := by
  by_cases hkind : request.IsForPod
  · cases hpod : request.pod? with
    | none =>
      obtain ⟨message, _, hresponse⟩ :=
        engine.admission_of_unreadable fingerprint type now hkind hpod
      simp [hresponse, AdmissionResponse.allow]
    | some pod =>
      rw [engine.admission_of_pod fingerprint type now hkind hpod]
      cases hmutate : engine.mutate fingerprint pod now with
      | error e => simp [AdmissionResponse.allow, hmutate]
      | ok outcome => cases outcome <;> simp [AdmissionResponse.allow, hkind, hmutate]
  · rw [engine.admission_of_not_isForPod fingerprint type now hkind]
    simp [AdmissionResponse.allow, hkind]

/-- **An admission has a message** exactly if the request is for a pod, and the pod cannot be read
or the engine has no answer for it. -/
theorem admission_message_iff :
    (engine.admission fingerprint type request now).response.message ≠ ""
      ↔ request.IsForPod ∧ (request.pod? = none ∨ ∃ pod error, request.pod? = some pod
        ∧ engine.mutate fingerprint pod now = .error error) := by
  by_cases hkind : request.IsForPod
  · cases hpod : request.pod? with
    | none =>
      obtain ⟨message, hmessage, hresponse⟩ :=
        engine.admission_of_unreadable fingerprint type now hkind hpod
      simp [hresponse, hmessage, hkind]
    | some pod =>
      rw [engine.admission_of_pod fingerprint type now hkind hpod]
      cases hmutate : engine.mutate fingerprint pod now with
      | error e => simp [hkind, hmutate, e.message_ne_empty]
      | ok outcome => cases outcome <;> simp [AdmissionResponse.allow, hmutate]
  · rw [engine.admission_of_not_isForPod fingerprint type now hkind]
    simp [AdmissionResponse.allow, hkind]

/-- An admission that has a message has no patch. -/
theorem patch_eq_none_of_message
    (h : (engine.admission fingerprint type request now).response.message ≠ "") :
    (engine.admission fingerprint type request now).response.patch = none := by
  obtain ⟨_, hfailed⟩ := (engine.admission_message_iff fingerprint type now).1 h
  cases hpatch : (engine.admission fingerprint type request now).response.patch with
  | none => rfl
  | some patch =>
    obtain ⟨_, pod, rule, hpod, hpatched⟩ :=
      (engine.admission_patch_iff fingerprint type now patch).1 hpatch
    rcases hfailed with hnone | ⟨_, _, hpod', hfailed⟩
    · rw [hpod] at hnone
      cases hnone
    · rw [hpod] at hpod'
      cases hpod'
      rw [hpatched] at hfailed
      cases hfailed

end Engine

/-! ### Answers -/

/-- The status of an answer. -/
def WebhookReply.status : WebhookReply → Nat
  | .plain response => response.status
  | .review _ => 200

namespace Webhook

/-- What the handler of admissions makes of a request that it takes. -/
theorem admission_eq {w : Webhook} {captures : List (String × String)} {fingerprint : String}
    (hpath : fingerprintOf captures = .ok fingerprint) {request : Http.Request}
    (hbody : request.body.size ≤ Http.Request.maxBody) (now : Timestamp) :
    w.admission captures request now
      = match request.review w.reader with
        | .ok (type, asked) => .ok (w.engine.admission fingerprint type asked now)
        | .error refusal => .error (.text 400 refusal.message) := by
  have hsize : ¬ Http.Request.maxBody < request.body.size := Nat.not_lt.2 hbody
  cases hreview : request.review w.reader with
  | error refusal => simp [admission, hpath, hsize, hreview, bind, Except.bind, Except.mapError]
  | ok asked =>
    simp [admission, hpath, hsize, hreview, bind, Except.bind, Except.mapError, pure, Except.pure]

/-- The answer to a request that the router hands to the admissions. -/
theorem respond_eq {w : Webhook} {r : Http.Request}
    {captures : List (String × String)} {fingerprint : String}
    (hroute : w.router.dispatch r.method (Http.pathOf r.target)
      = .handler .admission captures)
    (hpath : fingerprintOf captures = .ok fingerprint)
    (hbody : r.body.size ≤ Http.Request.maxBody) (now : Timestamp)
    (seconds : Binary64) (metrics : Metrics) :
    (w.respond r now seconds metrics).1
      = match r.review w.reader with
        | .ok (type, asked) => .review (w.engine.admission fingerprint type asked now).response
        | .error refusal => .plain (.text 400 refusal.message) := by
  rw [respond, hroute]
  simp only [admission_eq hpath hbody]
  cases r.review w.reader <;> rfl

/-- **What every request to the admissions is answered**, whichever reader says what a body asks.
Let the router hand a request to the admissions, let its path give a fingerprint, and let its body
not be longer than is allowed.  The answer has the status 400 exactly if the request has no content
type that is text and of the media type of JSON, or if its body is empty or no review that carries a
request.  Otherwise it is a review
that admits the object of the request asked about, under the uid of that request: it has a patch
exactly if the request is for a pod that can be read and the engine has that patch for the pod and
the fingerprint; it has a message exactly if the request is for a pod, and that cannot be read or
the engine fails; and if it has a message, it has no patch. -/
theorem respond_of_admission {w : Webhook} {r : Http.Request}
    {captures : List (String × String)} {fingerprint : String}
    (hroute : w.router.dispatch r.method (Http.pathOf r.target)
      = .handler .admission captures)
    (hpath : fingerprintOf captures = .ok fingerprint)
    (hbody : r.body.size ≤ Http.Request.maxBody) (now : Timestamp)
    (seconds : Binary64) (metrics : Metrics) :
    ((w.respond r now seconds metrics).1.status = 400
        ↔ (¬ ∃ value : String, r.contentType = some value.toUTF8
            ∧ (∀ c ∈ value.toList, Http.Request.isHeaderText c = true)
            ∧ Http.IsMediaType Http.jsonType value)
          ∨ r.body.size = 0 ∨ ¬ ∃ type asked, r.Asks w.reader type asked)
      ∧ ((w.respond r now seconds metrics).1.status ≠ 400 →
        ∃ type asked response, r.Asks w.reader type asked
          ∧ (w.respond r now seconds metrics).1 = .review response
          ∧ (w.respond r now seconds metrics).1.status = 200
          ∧ response.isAllowed = true ∧ response.uid = asked.uid
          ∧ (∀ patch, response.patch = some patch
            ↔ asked.IsForPod ∧ ∃ pod rule, asked.pod? = some pod
              ∧ w.engine.mutate fingerprint pod now = .ok (.patched rule patch))
          ∧ (response.message ≠ ""
            ↔ asked.IsForPod ∧ (asked.pod? = none ∨ ∃ pod error, asked.pod? = some pod
              ∧ w.engine.mutate fingerprint pod now = .error error))
          ∧ (response.message ≠ "" → response.patch = none)) := by
  have hreply := respond_eq hroute hpath hbody now seconds metrics
  rw [← Http.Request.isJson_iff]
  cases hreview : r.review w.reader with
  | error refusal =>
    rw [hreview] at hreply
    have hstatus : (w.respond r now seconds metrics).1.status = 400 := by
      rw [hreply]
      rfl
    refine ⟨⟨fun _ => ?_, fun _ => hstatus⟩, fun h => absurd hstatus h⟩
    by_contra hgood
    simp only [not_or, not_not] at hgood
    obtain ⟨hjson, hne, type, asked, hasks⟩ := hgood
    have hok := Http.Request.review_eq_ok_iff.2 ⟨hjson, hne, hasks⟩
    rw [hreview] at hok
    cases hok
  | ok pair =>
    obtain ⟨type, asked⟩ := pair
    rw [hreview] at hreply
    obtain ⟨hjson, hne, hasks⟩ := Http.Request.review_eq_ok_iff.1 hreview
    have hstatus : (w.respond r now seconds metrics).1.status = 200 := by
      rw [hreply]
      rfl
    refine ⟨⟨fun h => ?_, ?_⟩, fun _ => ⟨type, asked, _, hasks, hreply, hstatus,
      w.engine.isAllowed_admission .., w.engine.uid_admission ..,
      w.engine.admission_patch_iff fingerprint type now,
      w.engine.admission_message_iff fingerprint type now,
      w.engine.patch_eq_none_of_message fingerprint type now⟩⟩
    · rw [hstatus] at h
      cases h
    · rintro (h | h | h)
      · exact absurd hjson h
      · exact absurd h hne
      · exact absurd ⟨type, asked, hasks⟩ h

/-- The text of a review that asks about the creation of a pod without carrying it. -/
def bareReview : String :=
  "\x7b\"apiVersion\":\"admission.k8s.io/v1\",\"kind\":\"AdmissionReview\",\"request\":\x7b"
    ++ "\"uid\":\"u\",\"kind\":\x7b\"group\":\"\",\"version\":\"v1\",\"kind\":\"Pod\"\x7d,"
    ++ "\"resource\":\x7b\"group\":\"\",\"version\":\"v1\",\"resource\":\"pods\"\x7d,"
    ++ "\"operation\":\"CREATE\",\"userInfo\":\x7b\x7d\x7d\x7d"

theorem asks_bareReview {r : Http.Request} (h : r.body = bareReview.toUTF8) :
    r.Asks AdmissionReview.parse? ⟨"admission.k8s.io/v1", "AdmissionReview"⟩
      ⟨"u", "", "Pod", none⟩ := by
  have hparse : AdmissionReview.parse? bareReview.toUTF8
      = some ⟨⟨"admission.k8s.io/v1", "AdmissionReview"⟩, some ⟨"u", "", "Pod", none⟩⟩ := by
    decide +kernel
  rw [Http.Request.Asks, h, hparse]

/-- The document of a pod that has a label and a container. -/
def webPod : Json :=
  .obj [("metadata", .obj [("labels", .obj [("app", .str "web")])]),
    ("spec", .obj [("containers", .arr [.obj [("name", .str "web")]])])]

/-- The text of a review that asks about the creation of that pod; a member of the request that is
unknown, and whose number no document could hold, is passed over. -/
def webReview : String :=
  "\x7b\"apiVersion\":\"admission.k8s.io/v1\",\"kind\":\"AdmissionReview\",\"request\":\x7b"
    ++ "\"uid\":\"v\",\"kind\":\x7b\"group\":\"\",\"version\":\"v1\",\"kind\":\"Pod\"\x7d,"
    ++ "\"resource\":\x7b\"group\":\"\",\"version\":\"v1\",\"resource\":\"pods\"\x7d,"
    ++ "\"cost\":1e999,\"operation\":\"CREATE\",\"userInfo\":\x7b\x7d,\"object\":"
    ++ "\x7b\"metadata\":\x7b\"labels\":\x7b\"app\":\"web\"\x7d\x7d,"
    ++ "\"spec\":\x7b\"containers\":[\x7b\"name\":\"web\"\x7d]\x7d\x7d\x7d\x7d"

theorem asks_webReview {r : Http.Request} (h : r.body = webReview.toUTF8) :
    r.Asks AdmissionReview.parse? ⟨"admission.k8s.io/v1", "AdmissionReview"⟩
      ⟨"v", "", "Pod", some webPod⟩ := by
  have hparse : AdmissionReview.parse? webReview.toUTF8
      = some ⟨⟨"admission.k8s.io/v1", "AdmissionReview"⟩,
        some ⟨"v", "", "Pod", some webPod⟩⟩ := by
    decide +kernel
  rw [Http.Request.Asks, h, hparse]

/-- A rule that adds a label. -/
def teamRule : Rule :=
  { (default : Rule) with labels := .ofList [("team", "a")] }

/-- The engine of that rule alone. -/
def teamEngine : Engine :=
  ⟨⟨[⟨"a555dfcd6afabf6e", teamRule⟩]⟩, "example.org"⟩

/-- What the rule adds to a pod without annotations, at the start of 1970. -/
def teamPatch : Json.Patch :=
  [.add ["metadata", "labels", "team"] (.str "a"),
    .add ["metadata", "annotations"] (.obj [("example.org/a555dfcd6afabf6e", .str "1"),
      ("example.org/a555dfcd6afabf6e-processed", .str "1970-01-01T00:00:00Z")])]

theorem mutate_webPod :
    teamEngine.mutate "a555dfcd6afabf6e" (Cluster.Pod.view webPod) .epoch
      = .ok (.patched "a555dfcd6afabf6e" teamPatch) := by
  decide +kernel

/-- The router of the default settings, and a path of it. -/
theorem exists_default_router :
    ∃ router, ({} : ServerSettings).router? = some router
      ∧ router.dispatch "POST" (Http.pathOf "/mutate/a555dfcd6afabf6e")
        = .handler .admission [("fingerprint", "a555dfcd6afabf6e")]
      ∧ fingerprintOf [("fingerprint", "a555dfcd6afabf6e")] = .ok "a555dfcd6afabf6e" := by
  obtain ⟨router, hrouter, hdispatch⟩ := ({} : ServerSettings).exists_router
    ⟨["mutate".toList], 0, by simp [Http.ArePlain]; decide, by decide⟩ (.inl rfl)
  refine ⟨router, hrouter, ?_, by decide +kernel⟩
  have hpath : Http.pathOf "/mutate/a555dfcd6afabf6e"
      = ({} : ServerSettings).webhookPath "a555dfcd6afabf6e" := by
    decide +kernel
  rw [hpath]
  exact hdispatch "a555dfcd6afabf6e" (by decide) (by decide +kernel)

/-- A request to the path of that rule. -/
def toTeam (contentType : String) (body : ByteArray) : Http.Request :=
  ⟨"POST", "/mutate/a555dfcd6afabf6e", some contentType.toUTF8, body⟩

theorem isMediaType_jsonType_in_capitals :
    Http.IsMediaType Http.jsonType " Application/JSON ;charset=utf-8" :=
  ⟨[' '], "Application/JSON".toList, [' '], ";charset=utf-8".toList, by decide,
    List.forall_mem_singleton.2 (by decide), List.forall_mem_singleton.2 (by decide),
    by decide, .inr ⟨_, rfl⟩⟩

/-- What is no text is refused; a pod that is asked about but not carried is admitted without a
patch, and with a message; a pod that lacks the label of the rule is admitted with a patch, and
without a message. -/
theorem respond_of_admission_of_reviews :
    Registry.build [teamRule] = .ok teamEngine.registry
      ∧ ∃ router, ({} : ServerSettings).router? = some router ∧ ∀ seconds metrics,
        let w : Webhook := ⟨teamEngine, router, AdmissionReview.parse?⟩
        let answer (body : ByteArray) : WebhookReply :=
          (w.respond (toTeam " Application/JSON ;charset=utf-8" body) .epoch seconds metrics).1
        (answer ⟨#[255]⟩).status = 400
          ∧ (∃ response, answer bareReview.toUTF8 = .review response
            ∧ response.isAllowed = true ∧ response.uid = "u" ∧ response.patch = none
            ∧ response.message ≠ "")
          ∧ ∃ response, answer webReview.toUTF8 = .review response
            ∧ response.isAllowed = true ∧ response.uid = "v"
            ∧ response.patch = some teamPatch ∧ response.message = "" := by
  obtain ⟨router, hrouter, hroute, hpath⟩ := exists_default_router
  refine ⟨by decide +kernel, router, hrouter, fun seconds metrics => ?_⟩
  intro w answer
  have hanswer := fun (body : ByteArray) (hsize : body.size ≤ Http.Request.maxBody) =>
    respond_of_admission (w := w) (r := toTeam " Application/JSON ;charset=utf-8" body)
      hroute hpath hsize .epoch seconds metrics
  -- a body that asks something is not refused
  have hstatus : ∀ (body : ByteArray) type asked, body.size ≤ Http.Request.maxBody →
      body.size ≠ 0 → AdmissionReview.parse? body = some ⟨type, some asked⟩ →
      (answer body).status ≠ 400 := by
    intro body type asked hsize hne hasks h
    rcases (hanswer body hsize).1.1 h with h | h | h
    · exact h ⟨_, rfl, List.all_eq_true.1 (by decide), isMediaType_jsonType_in_capitals⟩
    · exact hne h
    · exact h ⟨type, asked, hasks⟩
  refine ⟨?_, ?_, ?_⟩
  · refine (hanswer _ (by decide)).1.2 (.inr (.inr ?_))
    rintro ⟨type, asked, hasks⟩
    have hnone : AdmissionReview.parse? ⟨#[255]⟩ = none := by decide +kernel
    exact absurd (hnone.symm.trans hasks) nofun
  · have hasks := asks_bareReview
      (r := toTeam " Application/JSON ;charset=utf-8" bareReview.toUTF8) rfl
    obtain ⟨type, asked, response, hasks', hreply, _, hallowed, huid, _, hmessage, hpatch⟩ :=
      (hanswer bareReview.toUTF8 (by decide +kernel)).2
        (hstatus _ _ _ (by decide +kernel) (by decide +kernel) hasks)
    obtain ⟨rfl, rfl⟩ := hasks'.unique hasks
    have hsaid : response.message ≠ "" := hmessage.2 ⟨⟨rfl, rfl⟩, .inl rfl⟩
    exact ⟨response, hreply, hallowed, huid, hpatch hsaid, hsaid⟩
  · have hasks := asks_webReview
      (r := toTeam " Application/JSON ;charset=utf-8" webReview.toUTF8) rfl
    obtain ⟨type, asked, response, hasks', hreply, _, hallowed, huid, hpatch, hmessage, _⟩ :=
      (hanswer webReview.toUTF8 (by decide +kernel)).2
        (hstatus _ _ _ (by decide +kernel) (by decide +kernel) hasks)
    obtain ⟨rfl, rfl⟩ := hasks'.unique hasks
    have hpod : Cluster.Pod.ofJson? webPod = some (Cluster.Pod.view webPod) := by decide +kernel
    refine ⟨response, hreply, hallowed, huid,
      (hpatch _).2 ⟨⟨rfl, rfl⟩, _, _, hpod, mutate_webPod⟩, ?_⟩
    by_contra hsaid
    rcases (hmessage.1 hsaid).2 with hnone | ⟨pod, error, hpod', herror⟩
    · exact absurd (hnone.symm.trans hpod) nofun
    · obtain rfl : pod = _ := Option.some.inj (hpod'.symm.trans hpod)
      exact absurd (herror.symm.trans mutate_webPod) nofun

/-- The content type may have been sent by a program that quotes text of another language in a
parameter: that its media type is that of JSON does not keep the request from being refused. -/
theorem respond_refuses_foreign_parameter :
    ∃ router, ({} : ServerSettings).router? = some router
      ∧ router.dispatch "POST" (Http.pathOf "/mutate/a555dfcd6afabf6e")
        = .handler .admission [("fingerprint", "a555dfcd6afabf6e")]
      ∧ fingerprintOf [("fingerprint", "a555dfcd6afabf6e")] = .ok "a555dfcd6afabf6e"
      ∧ bareReview.toUTF8.size ≤ Http.Request.maxBody
      ∧ Http.IsMediaType Http.jsonType "application/json; note=\"é\""
      ∧ bareReview.toUTF8.size ≠ 0
      ∧ (∃ type asked, (toTeam "application/json; note=\"é\"" bareReview.toUTF8).Asks
          AdmissionReview.parse? type asked)
      ∧ ∀ registry keyPrefix now seconds metrics,
        ((⟨⟨registry, keyPrefix⟩, router, AdmissionReview.parse?⟩ : Webhook).respond
          (toTeam "application/json; note=\"é\"" bareReview.toUTF8)
          now seconds metrics).1.status = 400 := by
  obtain ⟨router, hrouter, hroute, hpath⟩ := exists_default_router
  have hbody : bareReview.toUTF8.size ≤ Http.Request.maxBody := by decide +kernel
  refine ⟨router, hrouter, hroute, hpath, hbody, ?_, by decide +kernel,
    ⟨_, _, asks_bareReview rfl⟩, fun registry keyPrefix now seconds metrics => ?_⟩
  · exact ⟨[], Http.jsonType.toList, [], "; note=\"é\"".toList, by decide, by simp, by simp,
      by decide, .inr ⟨_, rfl⟩⟩
  · have hjson :
        (toTeam "application/json; note=\"é\"" bareReview.toUTF8).isJson = false := by
      rw [Bool.eq_false_iff, ne_eq, Http.Request.isJson_iff]
      rintro ⟨value, hvalue, htext, _⟩
      have hsame : "application/json; note=\"é\"" = value :=
        String.toByteArray_inj.1 (Option.some.inj hvalue)
      exact absurd (htext 'é' (hsame ▸ by decide)) (by decide)
    have hreview : (toTeam "application/json; note=\"é\"" bareReview.toUTF8).review
        AdmissionReview.parse? = .error .contentType := by
      rw [Http.Request.review, hjson]
      rfl
    rw [respond_eq (w := ⟨⟨registry, keyPrefix⟩, router, AdmissionReview.parse?⟩)
      (r := toTeam "application/json; note=\"é\"" bareReview.toUTF8) hroute hpath hbody, hreview]
    rfl

end Webhook

end Sidecar
