/-
**Routing of requests.**

A router has endpoints, each a pattern of paths with a handler for some methods.  Of the endpoints
whose pattern a path is of, the preferred one takes the request; that two could be preferred is
ruled out when endpoints are added.

Main definitions:

* `Sidecar.Http.Router`, `Sidecar.Http.Router.add?` — routers, and adding a handler;
* `Sidecar.Http.Router.dispatch` — who takes a request;
* `Sidecar.Http.Response` — an answer.
-/

import Sidecar.Http.Pattern

set_option autoImplicit false

namespace Sidecar.Http

/-- An answer to a request. -/
structure Response where
  status : Nat
  contentType : Option String
  body : String
deriving DecidableEq

namespace Response

/-- An answer in plain text. -/
def text (status : Nat) (body : String) : Response :=
  ⟨status, some "text/plain; charset=utf-8", body⟩

/-- An answer that is its status alone. -/
def bare (status : Nat) : Response :=
  ⟨status, none, ""⟩

/-- The answer as it goes to the method: without its body if only the head is asked for. -/
def forMethod (response : Response) (method : String) : Response :=
  if method = "HEAD" then { response with body := "" } else response

end Response

/-- The path of a request's target: what stands before a query. -/
def pathOf (target : String) : String :=
  String.ofList (target.toList.takeWhile fun c => c ≠ '?' && c ≠ '#')

/-- A pattern of paths with a handler for some methods. -/
structure Endpoint (α : Type) where
  /-- The text of the pattern. -/
  path : String
  pattern : Pattern
  handlers : List (String × α)

/-- Who takes a request. -/
inductive Dispatch (α : Type) where
  /-- The path is of no endpoint. -/
  | notFound
  /-- The path is of an endpoint that has no handler for the method. -/
  | methodNotAllowed
  /-- A handler, and what fills the holes of its pattern. -/
  | handler (handler : α) (captures : List (String × String))

/-- Endpoints that can be told apart. -/
structure Router (α : Type) where
  endpoints : List (Endpoint α)

namespace Router

variable {α : Type}

/-- The router without endpoints. -/
def empty : Router α := ⟨[]⟩

/-- The endpoints with one handler more at the one whose pattern has the text, if there is one. -/
def extend? (path method : String) (handler : α) :
    List (Endpoint α) → Option (Option (List (Endpoint α)))
  | [] => none
  | e :: es =>
    if e.path = path then
      some (if (e.handlers.lookup method).isSome then none
        else some ({ e with handlers := e.handlers ++ [(method, handler)] } :: es))
    else (extend? path method handler es).map fun es => es.map (e :: ·)

/-- The router with a handler for the method and the paths of a pattern, unless the pattern is
malformed or conflicts with another, or there is such a handler. -/
def add? (router : Router α) (method path : String) (handler : α) : Option (Router α) :=
  match extend? path method handler router.endpoints with
  | some endpoints => endpoints.map (⟨·⟩)
  | none => do
    let pattern ← Pattern.parse? path
    if router.endpoints.any (·.pattern.conflicts pattern) then none
    else some ⟨router.endpoints ++ [⟨path, pattern, [(method, handler)]⟩]⟩

/-- The preferred one of two findings. -/
def prefer (found : Endpoint α × List (String × String)) :
    Option (Endpoint α × List (String × String)) → Endpoint α × List (String × String)
  | none => found
  | some other => if other.1.pattern.precedes found.1.pattern then other else found

/-- The preferred endpoint for the path, and what fills its holes. -/
def selectFrom (path : List Char) :
    List (Endpoint α) → Option (Endpoint α × List (String × String))
  | [] => none
  | e :: es =>
    match e.pattern.match? path with
    | some captures => some (prefer (e, captures) (selectFrom path es))
    | none => selectFrom path es

/-- The preferred endpoint for the path, and what fills its holes. -/
def select (router : Router α) (path : String) :
    Option (Endpoint α × List (String × String)) :=
  selectFrom path.toList router.endpoints

/-- The handler of an endpoint for a method; whoever answers GET answers HEAD. -/
def handlerFor (endpoint : Endpoint α) (method : String) : Option α :=
  match endpoint.handlers.lookup method with
  | some handler => some handler
  | none => if method = "HEAD" then endpoint.handlers.lookup "GET" else none

/-- Who takes a request. -/
def dispatch (router : Router α) (method path : String) : Dispatch α :=
  match router.select path with
  | none => .notFound
  | some (endpoint, captures) =>
    match handlerFor endpoint method with
    | some handler => .handler handler captures
    | none => .methodNotAllowed

end Router

end Sidecar.Http
