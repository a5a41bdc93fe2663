/-
**Admission reviews.**

The cluster asks about an object by a review that carries a request, and is answered by a review
that carries a response.  Members that a review does not have are passed over, but no member that
it has may be given twice.  What a request passes over need not be understood, only be JSON; what
the review itself passes over does.

An object under review is read in two steps.  What it says of its type counts only if it says both
version and kind, as texts; otherwise what it says up to the first thing wrong is dropped, and the
rest is an object without a type.

Main definitions:

* `Sidecar.TypeMeta` — what an object says of its type;
* `Sidecar.AdmissionRequest`, `Sidecar.AdmissionReview` — what is asked;
* `Sidecar.AdmissionReview.Reader` — a reader of reviews;
* `Sidecar.AdmissionReview.parse?` — the review that bytes write;
* `Sidecar.AdmissionResponse`, `Sidecar.AdmissionResponse.toJson` — what is answered.
-/

import Sidecar.Cluster.PodShape
import Sidecar.Decode.Source
import Sidecar.Json.Parser
import Sidecar.Json.Patch

set_option autoImplicit false

namespace Sidecar

/-- What an object says of its type. -/
structure TypeMeta where
  apiVersion : String
  kind : String
deriving DecidableEq, Inhabited

/-- The question about an object. -/
structure AdmissionRequest where
  uid : String
  /-- The group of the object's kind; the core group has no name. -/
  group : String
  kind : String
  object : Option Json
deriving DecidableEq

/-- A review that comes from the cluster. -/
structure AdmissionReview where
  type : TypeMeta
  request : Option AdmissionRequest
deriving DecidableEq

namespace AdmissionReview

/-- The most levels that a review may nest. -/
def maxDepth : Nat := 127

/-- The object's members of these names. -/
def restrict (names : List String) : Json.Raw → Json.Raw
  | .obj members => .obj (members.filter fun (k, _) => k ∈ names)
  | raw => raw

/-- Reads a record of which members without a field are passed over. -/
def openRecord {α : Type} (typeName : String) (names : List String)
    (read : RecordView Json.Raw → Ranked α) (raw : Json.Raw) : Except DecodeError α :=
  Decode.record typeName names read (restrict names raw)

/-- Reads a value all of which has to be understood. -/
def readWhole (raw : Json.Raw) : Except DecodeError Json :=
  match raw.toJson? with
  | some json => pure json
  | none => throw (.invalidType raw.found "any value")

/-- Reads a value in a shape. -/
def readShape (shape : Cluster.Shape) (typeName : String) (raw : Json.Raw) :
    Except DecodeError Json :=
  match shape.read? raw with
  | some json => pure json
  | none => throw (.invalidType raw.found ("struct " ++ typeName))

/-- Reads a value of which nothing counts. -/
def checked {α : Type} (decode : Json.Raw → Except DecodeError α) (raw : Json.Raw) :
    Except DecodeError Unit :=
  (decode raw).map fun _ => ()

/-! ### The object under review -/

/-- The names of the members that say what type an object is of. -/
def typeNames : List String := ["apiVersion", "kind"]

/-- Takes from members those of the type: the type, if they say it, and the members left.  Taking
stops at the first thing wrong. -/
def takeTypes (seen : List (String × String)) :
    List (String × Json) → List (String × String) × List (String × Json)
  | [] => (if seen.length = typeNames.length then seen else [], [])
  | (k, v) :: members =>
    if k ∈ typeNames then
      match v, seen.lookup k with
      | .str s, none => takeTypes (seen ++ [(k, s)]) members
      | _, _ => ([], members)
    else
      let (types, left) := takeTypes seen members
      (types, (k, v) :: left)

/-- The object that members describe, with its type if it has one; its metadata is an object or
absent. -/
def readObject : Json.Raw → Except DecodeError Json
  | .obj members => do
    let others ← (members.filter (·.1 ≠ "metadata")).mapM fun (k, x) => do
      pure (k, ← readWhole x)
    let (types, left) := takeTypes [] others
    let typed := types.map fun (k, s) => (k, Json.str s)
    let metadata ← match members.filter (·.1 = "metadata") with
      | [] => pure (Json.obj [])
      | [(_, metadata)] => readShape Cluster.Shape.objectMeta "ObjectMeta" metadata
      | _ => throw (.duplicateField "metadata")
    pure (Json.obj (left ++ typed ++ [("metadata", metadata)])).canonical
  | raw => throw (.invalidType raw.found "struct DynamicObject")

/-! ### Requests -/

/-- Reads a group, a version and a name of what they hold; the group and the name count. -/
def readKind (typeName last : String) : Json.Raw → Except DecodeError (String × String) :=
  openRecord typeName ["group", "version", last]
    fun r => Ranked.pure (fun group (_ : String) name => (group, name))
      |>.ap (r.required "group" Decode.text)
      |>.ap (r.required "version" Decode.text)
      |>.ap (r.required last Decode.text)

/-- Reads the kind of an object. -/
def readObjectKind : Json.Raw → Except DecodeError (String × String) :=
  readKind "GroupVersionKind" "kind"

/-- Reads the resource of an object. -/
def readResource : Json.Raw → Except DecodeError (String × String) :=
  readKind "GroupVersionResource" "resource"

/-- The operations that may be reviewed. -/
def operations : List String := ["CREATE", "UPDATE", "DELETE", "CONNECT"]

/-- The shape of the user who asks. -/
def userShape : Cluster.Shape :=
  .object [("extra", .map Cluster.Shape.texts), ("groups", Cluster.Shape.texts), ("uid", .text),
    ("username", .text)]

/-- The fields of a request. -/
def requestNames : List String :=
  ["uid", "kind", "resource", "subResource", "requestKind", "requestResource",
    "requestSubResource", "name", "namespace", "operation", "userInfo", "object", "oldObject",
    "dryRun", "options"]

/-- Reads a request. -/
def readRequest : Json.Raw → Except DecodeError AdmissionRequest :=
  openRecord "AdmissionRequest" requestNames
    fun r =>
      Ranked.pure (fun uid (kind : String × String) _ _ _ _ _ _ _ _ _ object _ _ _ =>
        (⟨uid, kind.1, kind.2, object⟩ : AdmissionRequest))
      |>.ap (r.required "uid" Decode.text)
      |>.ap (r.required "kind" readObjectKind)
      |>.ap (r.required "resource" (checked readResource))
      |>.ap (r.orElse "subResource" () (checked (Decode.option Decode.text)))
      |>.ap (r.orElse "requestKind" () (checked (Decode.option readObjectKind)))
      |>.ap (r.orElse "requestResource" () (checked (Decode.option readResource)))
      |>.ap (r.orElse "requestSubResource" () (checked (Decode.option Decode.text)))
      |>.ap (r.orElse "name" () (checked Decode.text))
      |>.ap (r.orElse "namespace" () (checked (Decode.option Decode.text)))
      |>.ap (r.required "operation" (checked (Source.variant operations)))
      |>.ap (r.required "userInfo" (checked (readShape userShape "UserInfo")))
      |>.ap (r.orElse "object" none (Decode.option readObject))
      |>.ap (r.orElse "oldObject" () (checked (Decode.option readObject)))
      |>.ap (r.orElse "dryRun" () (checked Decode.bool))
      |>.ap (r.orElse "options" () (checked (Decode.option readWhole)))

/-! ### Reviews -/

/-- Reads the cause of a failure, of which nothing counts. -/
def readCause : Json.Raw → Except DecodeError Unit :=
  openRecord "StatusCause" ["reason", "message", "field"]
    fun r => Ranked.pure (fun _ _ _ => ())
      |>.ap (r.orElse "reason" () (checked Decode.text))
      |>.ap (r.orElse "message" () (checked Decode.text))
      |>.ap (r.orElse "field" () (checked Decode.text))

/-- Reads the details of a status, of which nothing counts. -/
def readDetails : Json.Raw → Except DecodeError Unit :=
  openRecord "StatusDetails" ["name", "group", "kind", "uid", "causes", "retryAfterSeconds"]
    fun r => Ranked.pure (fun _ _ _ _ _ _ => ())
      |>.ap (r.orElse "name" () (checked Decode.text))
      |>.ap (r.orElse "group" () (checked Decode.text))
      |>.ap (r.orElse "kind" () (checked Decode.text))
      |>.ap (r.orElse "uid" () (checked Decode.text))
      |>.ap (r.orElse "causes" () (checked (Decode.list readCause)))
      |>.ap (r.orElse "retryAfterSeconds" () (checked Decode.uint32))

/-- Reads a status, of which nothing counts. -/
def readStatus : Json.Raw → Except DecodeError Unit :=
  openRecord "Status" ["status", "code", "message", "reason", "details"]
    fun r => Ranked.pure (fun _ _ _ _ _ => ())
      |>.ap (r.orElse "status" ()
        (checked (Decode.option (Source.variant ["Success", "Failure"]))))
      |>.ap (r.orElse "code" () (checked Decode.uint16))
      |>.ap (r.orElse "message" () (checked Decode.text))
      |>.ap (r.orElse "reason" () (checked Decode.text))
      |>.ap (r.orElse "details" () (checked (Decode.option readDetails)))

/-- Reads a response; a review may carry one beside its request, and nothing of it counts. -/
def readResponse : Json.Raw → Except DecodeError Unit :=
  openRecord "AdmissionResponse"
    ["uid", "allowed", "status", "patch", "patchType", "auditAnnotations", "warnings"]
    fun r => Ranked.pure (fun _ _ _ _ _ _ _ => ())
      |>.ap (r.required "uid" (checked Decode.text))
      |>.ap (r.required "allowed" (checked Decode.bool))
      |>.ap (r.required "status" readStatus)
      |>.ap (r.orElse "patch" ()
        (checked (Decode.option (Decode.list (Decode.bounded "u8" 0 255)))))
      |>.ap (r.orElse "patchType" () (checked (Decode.option (Source.variant ["JSONPatch"]))))
      |>.ap (r.orElse "auditAnnotations" () (checked Decode.stringMap))
      |>.ap (r.orElse "warnings" () (checked (Decode.option Decode.texts)))

/-- The fields of a review. -/
def names : List String := typeNames ++ ["request", "response"]

/-- Reads a review, which is an object; what it has beyond its fields has to be understood. -/
def read : Json.Raw → Except DecodeError AdmissionReview
  | .obj members => do
    let _ ← (members.filter (·.1 ∉ names)).mapM fun (_, x) => readWhole x
    openRecord "AdmissionReview" names
      (fun r =>
        Ranked.pure (fun apiVersion kind request (_ : Unit) =>
          (⟨⟨apiVersion, kind⟩, request⟩ : AdmissionReview))
        |>.ap (r.required "apiVersion" Decode.text)
        |>.ap (r.required "kind" Decode.text)
        |>.ap (r.orElse "request" none (Decode.option readRequest))
        |>.ap (r.orElse "response" () (checked (Decode.option readResponse))))
      (.obj members)
  | raw => throw (.invalidType raw.found "struct AdmissionReview")

/-- A reader of reviews: the review that bytes write, or nothing if they write none. -/
abbrev Reader := ByteArray → Option AdmissionReview

/-- The review that bytes write. -/
def parse? : Reader := fun bytes =>
  (Json.Raw.parse? maxDepth bytes).bind fun raw => (read raw).toOption

end AdmissionReview

/-! ### Responses -/

/-- The answer to a request: the object is admitted, with a patch, or with the reason why there is
none. -/
structure AdmissionResponse where
  type : TypeMeta
  uid : String
  isAllowed : Bool
  /-- Empty if there is nothing to say. -/
  message : String
  patch : Option Json.Patch
deriving DecidableEq

namespace AdmissionResponse

/-- Admits the object of the request as it is. -/
def allow (type : TypeMeta) (request : AdmissionRequest) : AdmissionResponse :=
  ⟨type, request.uid, true, "", none⟩

/-- The review that carries the response; the patch stands in it as a document, which travels as
bytes. -/
def toJson (r : AdmissionResponse) : Json :=
  Json.object [("apiVersion", some (.str r.type.apiVersion)), ("kind", some (.str r.type.kind)),
    ("response", some (Json.object [
      ("uid", some (.str r.uid)),
      ("allowed", some (.bool r.isAllowed)),
      ("status", some (Json.object [("message", Json.nonEmptyText r.message)])),
      ("patch", r.patch.map Json.Patch.toJson),
      ("patchType", r.patch.map fun _ => .str "JSONPatch")]))]

end AdmissionResponse

end Sidecar
