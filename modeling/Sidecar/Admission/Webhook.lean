/-
**The webhooks.**

Every rule is served under its own path: what a request's path has beyond the base path is the
fingerprint of a rule.  A request that is no review of a request is refused; everything else is
admitted, with a patch if the engine has one, and with the reason if there should have been one.

Main definitions:

* `Sidecar.Http.Request`, `Sidecar.Http.Request.isJson` — a request;
* `Sidecar.Engine.admission` — what an admission comes to, for its requester and for the counts;
* `Sidecar.ServerSettings.router?` — the paths that are served;
* `Sidecar.Webhook.respond` — the answer to a request.

Main results: `Sidecar.Engine.isAllowed_admission`, `Sidecar.Engine.uid_admission` — every object under
review is admitted, by a response to its request.
-/

import Sidecar.Admission.Review
import Sidecar.Http.Router
import Sidecar.Injection
import Sidecar.Metrics
import Sidecar.Settings
import Sidecar.Text.Percent

set_option autoImplicit false

namespace Sidecar

namespace Http

/-- A request, as far as it counts. -/
structure Request where
  method : String
  target : String
  /-- The value of its first header of that name. -/
  contentType : Option ByteArray
  body : ByteArray

namespace Request

/-- Whether the character may stand in a header that is read as text. -/
def isHeaderText (c : Char) : Bool :=
  c = '\t' || (' ' ≤ c && c ≤ '~')

/-- The text of a header, if it is one. -/
def headerText? (value : ByteArray) : Option String :=
  (String.fromUTF8? value).filter (·.toList.all isHeaderText)

/-- Whether the request says that its body is JSON, in letters of any case and with any
parameters. -/
def isJson (r : Request) : Bool :=
  (r.contentType.bind headerText?).any fun value =>
    (Text.trimChars (value.toList.takeWhile (· ≠ ';'))).map Char.toLower
      == "application/json".toList

/-- The most bytes that a body may have. -/
def maxBody : Nat := 2097152

end Request

end Http

/-! ### Admission -/

/-- Why a request is refused. -/
inductive AdmissionRefusal where
  | contentType
  | emptyBody
  | undecodable
  | noRequest
deriving DecidableEq

/-- The wording of the refusal; what follows it is left out where it describes the body. -/
def AdmissionRefusal.message : AdmissionRefusal → String
  | .contentType => "expected content type application/json"
  | .emptyBody => "empty request body"
  | .undecodable => "failed to decode admission review"
  | .noRequest =>
    "invalid admission review: failed to convert AdmissionReview into AdmissionRequest"

/-- What an admission comes to: the response, and how it is counted. -/
structure Admission where
  response : AdmissionResponse
  /-- The name of the rule under which the admission is counted. -/
  label : String
  outcome : AdmissionOutcome
  /-- Whether the pod was read, so that the engine was asked. -/
  isTimed : Bool
deriving DecidableEq

namespace Admission

/-- How many operations the patch has. -/
def operations (a : Admission) : Nat :=
  (a.response.patch.map List.length).getD 0

/-- The counts after the admission, whose mutation took some seconds. -/
def count (a : Admission) (seconds : Binary64) (m : Metrics) : Metrics :=
  (if a.isTimed then m.observe seconds else m).record a.label a.outcome
    (UInt64.ofNat a.operations)

end Admission

/-- The request that a reader finds in the body, or why there is none. -/
def Http.Request.review (reader : AdmissionReview.Reader) (r : Http.Request) :
    Except AdmissionRefusal (TypeMeta × AdmissionRequest) :=
  if !r.isJson then .error .contentType
  else if r.body.isEmpty then .error .emptyBody
  else
    match reader r.body with
    | none => .error .undecodable
    | some review =>
      match review.request with
      | none => .error .noRequest
      | some request => .ok (review.type, request)

namespace Engine

/-- What the admission of a request under a fingerprint comes to. -/
def admission (engine : Engine) (fingerprint : String) (type : TypeMeta) (request : AdmissionRequest)
    (now : Timestamp) : Admission :=
  let response := AdmissionResponse.allow type request
  let failed (label message : String) (isTimed : Bool) : Admission :=
    ⟨{ response with message }, label, .error, isTimed⟩
  if request.kind ≠ "Pod" ∨ request.group ≠ "" then ⟨response, fingerprint, .ignored, false⟩
  else
    match request.object with
    | none => failed fingerprint "admission request carries no object" false
    | some object =>
      match Cluster.Pod.ofJson? object with
      | none => failed fingerprint "failed to decode pod" false
      | some pod =>
        match engine.mutate fingerprint pod now with
        | .ok (.patched rule patch) =>
          ⟨{ response with patch := some patch }, rule, .patched, true⟩
        | .ok .unknownRule => ⟨response, fingerprint, .ignored, true⟩
        | .ok (.nothingToInject rule) => ⟨response, rule, .skipped, true⟩
        | .ok (.iterationLimitReached rule _) => ⟨response, rule, .skipped, true⟩
        | .error e =>
          let label := ((engine.registry.resolve? fingerprint).map (·.displayName)).getD fingerprint
          failed label e.message true

/-- Every object under review is admitted. -/
theorem isAllowed_admission (engine : Engine) (fingerprint : String) (type : TypeMeta)
    (request : AdmissionRequest) (now : Timestamp) :
    (engine.admission fingerprint type request now).response.isAllowed = true := by
  unfold admission
  repeat' split
  all_goals rfl

/-- The response is one to the request. -/
theorem uid_admission (engine : Engine) (fingerprint : String) (type : TypeMeta)
    (request : AdmissionRequest) (now : Timestamp) :
    (engine.admission fingerprint type request now).response.uid = request.uid := by
  unfold admission
  repeat' split
  all_goals rfl

end Engine

/-! ### Serving -/

/-- Who takes a request on the address of the webhooks. -/
inductive WebhookRoute where
  | healthcheck
  | admission
deriving DecidableEq

/-- The name of the hole that a fingerprint fills. -/
def ServerSettings.holeName : String := "fingerprint"

/-- The pattern of the paths of all rules. -/
def ServerSettings.admissionPattern (s : ServerSettings) : String :=
  s.basePath ++ "/\x7b*" ++ holeName ++ "\x7d"

/-- The paths that are served, unless they are malformed or cannot be told apart. -/
def ServerSettings.router? (s : ServerSettings) : Option (Http.Router WebhookRoute) := do
  let router ← Http.Router.empty.add? "GET" s.pathHealthcheck .healthcheck
  router.add? "POST" s.admissionPattern .admission

/-- The answer to a request. -/
inductive WebhookReply where
  | plain (response : Http.Response)
  | review (response : AdmissionResponse)
deriving DecidableEq

/-- An engine behind a router, with the reader of what it is asked. -/
structure Webhook where
  engine : Engine
  router : Http.Router WebhookRoute
  reader : AdmissionReview.Reader

namespace Webhook

/-- The fingerprint in what fills the holes of a path, or the answer if there is none. -/
def fingerprintOf (captures : List (String × String)) : Except Http.Response String :=
  match captures.find? fun (_, text) => (Text.percentDecode? text).isNone with
  | some (name, _) =>
    .error (.text 400 ("Invalid URL: Invalid UTF-8 in `" ++ name ++ "`"))
  | none =>
    match captures with
    | [(_, text)] => .ok ((Text.percentDecode? text).getD "")
    | _ => .error (.text 500 ("Wrong number of path arguments for `Path`. Expected 1 but got "
        ++ toString captures.length ++ ". Note that multiple parameters must be extracted with a "
        ++ "tuple `Path<(_, _)>` or a struct `Path<YourParams>`"))

/-- What the handler of admissions makes of a request: an admission, or an answer instead. -/
def admission (w : Webhook) (captures : List (String × String)) (request : Http.Request)
    (now : Timestamp) : Except Http.Response Admission := do
  let fingerprint ← fingerprintOf captures
  if Http.Request.maxBody < request.body.size then
    throw (.text 413 "Failed to buffer the request body: length limit exceeded")
  let (type, review) ← (request.review w.reader).mapError fun refusal =>
    .text 400 refusal.message
  pure (w.engine.admission fingerprint type review now)

/-- The answer to a request that comes at a time and takes some seconds, and the counts after
it. -/
def respond (w : Webhook) (request : Http.Request) (now : Timestamp) (seconds : Binary64)
    (metrics : Metrics) : WebhookReply × Metrics :=
  match w.router.dispatch request.method (Http.pathOf request.target) with
  | .notFound => (.plain (.bare 404), metrics)
  | .methodNotAllowed => (.plain (.bare 405), metrics)
  | .handler .healthcheck _ => (.plain (.bare 200), metrics)
  | .handler .admission captures =>
    match w.admission captures request now with
    | .ok a => (.review a.response, a.count seconds metrics)
    | .error response => (.plain response, metrics)

end Webhook

end Sidecar
