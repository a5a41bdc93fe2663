/-
**JSON patches.**

A patch is a list of operations (RFC 6902), carried out one after another; if one fails, the patch
does not apply.

Main definitions:

* `Sidecar.Json.Operation`, `Sidecar.Json.Operation.run?` — one operation and what it does;
* `Sidecar.Json.Patch.run?` — a whole patch;
* `Sidecar.Json.Patch.append`, `Sidecar.Json.Patch.mergeMap` — the patches that extend a list and
  a map of texts;
* `Sidecar.Json.Operation.toJson`, `Sidecar.Json.Operation.ofJson?` — the written form.

Main result: `Sidecar.Json.Patch.run?_append` — carrying out two patches in turn is carrying out
the patch of both.
-/

import Sidecar.Json.Pointer

set_option autoImplicit false

namespace Sidecar.Json

/-- One operation of a patch. -/
inductive Operation where
  /-- Sets a member, or inserts into a list before the given position or, with `-`, at its end. -/
  | add (path : Pointer) (value : Json)
  /-- Removes a value that is there. -/
  | remove (path : Pointer)
  /-- Sets a value that is there. -/
  | replace (path : Pointer) (value : Json)
  /-- Removes the value at `source` and adds it at `path`. -/
  | move (source path : Pointer)
  /-- Adds the value at `source` at `path`. -/
  | copy (source path : Pointer)
  /-- Fails unless the value at `path` is the given one. -/
  | test (path : Pointer) (value : Json)
deriving DecidableEq, Inhabited

namespace Operation

/-- The value added as the member or item that the segment names. -/
def addChild? (segment : String) (value : Json) : Json → Option Json
  | .obj members => some (.obj (Entries.insert segment value members))
  | .arr items =>
    if segment = "-" then some (.arr (items ++ [value]))
    else do
      let i ← Pointer.index? segment
      if i ≤ items.length then pure (.arr (items.insertIdx i value)) else none
  | _ => none

/-- The document with the value added at the place. -/
def addAt? (value : Json) : Pointer → Json → Option Json
  | [], _ => some value
  | [segment], json => addChild? segment value json
  | segment :: rest, json => Pointer.updateChild? segment (addAt? value rest) json

/-- The document with the value at the place, which has to exist, replaced. -/
def replaceAt? (value : Json) : Pointer → Json → Option Json
  | [], _ => some value
  | segment :: rest, json => Pointer.updateChild? segment (replaceAt? value rest) json

/-- The document without the child that the segment names, which has to exist. -/
def removeChild? (segment : String) : Json → Option Json
  | .obj members =>
    if (Entries.find? segment members).isSome then some (.obj (Entries.erase segment members))
    else none
  | .arr items => do
    let i ← Pointer.index? segment
    if i < items.length then pure (.arr (items.eraseIdx i)) else none
  | _ => none

/-- The document without the value at the place, which has to exist; the whole document cannot be
removed. -/
def removeAt? : Pointer → Json → Option Json
  | [], _ => none
  | [segment], json => removeChild? segment json
  | segment :: rest, json => Pointer.updateChild? segment (removeAt? rest) json

/-- The document after the operation. -/
def run? (json : Json) : Operation → Option Json
  | .add path value => addAt? value path json
  | .remove path => removeAt? path json
  | .replace path value => replaceAt? value path json
  | .move source path =>
    -- a value cannot move into itself
    if source.isPrefixOf path ∧ source ≠ path then none
    else do
      let value ← Pointer.get? source json
      let json ← removeAt? source json
      addAt? value path json
  | .copy source path => do
    let value ← Pointer.get? source json
    addAt? value path json
  | .test path value => do
    let found ← Pointer.get? path json
    if found = value then pure json else none

/-- The written form of an operation. -/
def toJson : Operation → Json
  | .add path value => .object
    [("op", some (.str "add")), ("path", some (.str path.render)), ("value", some value)]
  | .remove path => .object [("op", some (.str "remove")), ("path", some (.str path.render))]
  | .replace path value => .object
    [("op", some (.str "replace")), ("path", some (.str path.render)), ("value", some value)]
  | .move source path => .object
    [("from", some (.str source.render)), ("op", some (.str "move")),
      ("path", some (.str path.render))]
  | .copy source path => .object
    [("from", some (.str source.render)), ("op", some (.str "copy")),
      ("path", some (.str path.render))]
  | .test path value => .object
    [("op", some (.str "test")), ("path", some (.str path.render)), ("value", some value)]

/-- The pointer written under the name. -/
def pointer? (name : String) (json : Json) : Option Pointer :=
  match json.member? name with
  | some (.str text) => Pointer.parse? text
  | _ => none

/-- The operation that an object writes; members that it does not need are passed over. -/
def ofJson? (json : Json) : Option Operation := do
  let .str op ← json.member? "op" | none
  match op with
  | "add" => pure (.add (← pointer? "path" json) (← json.member? "value"))
  | "remove" => pure (.remove (← pointer? "path" json))
  | "replace" => pure (.replace (← pointer? "path" json) (← json.member? "value"))
  | "move" => pure (.move (← pointer? "from" json) (← pointer? "path" json))
  | "copy" => pure (.copy (← pointer? "from" json) (← pointer? "path" json))
  | "test" => pure (.test (← pointer? "path" json) (← json.member? "value"))
  | _ => none

end Operation

/-- The operations of a patch in order. -/
abbrev Patch := List Operation

namespace Patch

/-- The document after all operations of the patch, if each of them succeeds. -/
def run? (patch : Patch) (json : Json) : Option Json :=
  patch.foldlM Operation.run? json

@[simp] theorem run?_nil (json : Json) : run? [] json = some json := rfl

theorem run?_cons (op : Operation) (patch : Patch) (json : Json) :
    run? (op :: patch) json = (op.run? json).bind (run? patch) := by
  simp only [run?, List.foldlM_cons, Option.bind_eq_bind]
  rfl

/-- Two patches in turn do what the patch of both does. -/
theorem run?_append (p q : Patch) (json : Json) :
    run? (p ++ q) json = (run? p json).bind (run? q) := by
  simp only [run?, List.foldlM_append, Option.bind_eq_bind]
  rfl

/-- Appends the items to the list of `length` items at the place.  A list that is absent or empty
is set as a whole, since nothing can be appended to a list that is not there. -/
def append (base : Pointer) (length : Nat) (items : List Json) : Patch :=
  if items.isEmpty then []
  else if length = 0 then [.add base (.arr items)]
  else items.map fun item => .add (base ++ ["-"]) item

/-- Brings the entries of `desired` into the map at the place, which holds `existing`.  A map that
is absent or empty is set as a whole; otherwise each entry is added, replaced or left as it is. -/
def mergeMap (base : Pointer) (existing : Option StringMap) (desired : StringMap) : Patch :=
  if desired.isEmpty then []
  else
    match existing with
    | none => [.add base (.stringMap desired)]
    | some existing =>
      if existing.isEmpty then [.add base (.stringMap desired)]
      else desired.entries.flatMap fun (key, value) =>
        match existing.find? key with
        | none => [.add (base ++ [key]) (.str value)]
        | some current =>
          if current = value then [] else [.replace (base ++ [key]) (.str value)]

@[simp] theorem append_nil_items (base : Pointer) (length : Nat) : append base length [] = [] :=
  rfl

@[simp] theorem mergeMap_empty (base : Pointer) (existing : Option StringMap) :
    mergeMap base existing .empty = [] := rfl

/-- The written form of a patch. -/
def toJson (patch : Patch) : Json :=
  .arr (patch.map Operation.toJson)

/-- The patch that a list of objects writes. -/
def ofJson? : Json → Option Patch
  | .arr items => items.mapM Operation.ofJson?
  | _ => none

end Patch

end Sidecar.Json
