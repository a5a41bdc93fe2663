/-
**JSON pointers.**

A pointer names a place in a document by the segments on the way to it (RFC 6901).  Its text is a
slash before each segment, in which a tilde is written `~0` and a slash `~1`.

Main definitions:

* `Sidecar.Json.Pointer` — the segments;
* `Sidecar.Json.Pointer.escape`, `Sidecar.Json.Pointer.render` — the text;
* `Sidecar.Json.Pointer.parse?` — reading it back;
* `Sidecar.Json.Pointer.get?` — the value at the place.
-/

import Sidecar.Json.Basic

set_option autoImplicit false

namespace Sidecar.Json

/-- The segments on the way to a place in a document. -/
abbrev Pointer := List String

namespace Pointer

/-- How one character of a segment is written. -/
def escapeChar (c : Char) : List Char :=
  if c = '~' then ['~', '0'] else if c = '/' then ['~', '1'] else [c]

/-- How the characters of a segment are written. -/
def escapeChars (cs : List Char) : List Char :=
  cs.flatMap escapeChar

/-- The written form of a segment. -/
def escape (segment : String) : String :=
  String.ofList (escapeChars segment.toList)

/-- The text of a pointer, as characters. -/
def renderChars (pointer : Pointer) : List Char :=
  pointer.flatMap fun segment => '/' :: escapeChars segment.toList

/-- The text of a pointer. -/
def render (pointer : Pointer) : String :=
  String.ofList pointer.renderChars

/-- Reads the segments after the first slash; `read` holds the current segment so far, the last
character first.  A tilde must be followed by `0` or `1`. -/
def segments (read : List Char) : List Char → Option Pointer
  | [] => some [String.ofList read.reverse]
  | '/' :: rest => (segments [] rest).map (String.ofList read.reverse :: ·)
  | '~' :: '0' :: rest => segments ('~' :: read) rest
  | '~' :: '1' :: rest => segments ('/' :: read) rest
  | c :: rest => if c = '~' then none else segments (c :: read) rest

/-- The pointer that the text writes: nothing for the whole document, else a slash first. -/
def parse? (text : String) : Option Pointer :=
  match text.toList with
  | [] => some []
  | '/' :: rest => segments [] rest
  | _ => none

/-- The position that a segment names in a list: decimal digits without leading zeros. -/
def index? (segment : String) : Option Nat :=
  match segment.toList with
  | [] => none
  | ['0'] => some 0
  | '0' :: _ => none
  | cs =>
    if cs.all Char.isDigit then some (Nat.ofDigitChars 10 cs 0) else none

/-- The value one segment down. -/
def child? (segment : String) : Json → Option Json
  | .obj members => Entries.find? segment members
  | .arr items => (index? segment).bind (items[·]?)
  | _ => none

/-- The value at the place. -/
def get? : Pointer → Json → Option Json
  | [], json => some json
  | segment :: rest, json => (child? segment json).bind (get? rest)

@[simp] theorem get?_nil (json : Json) : get? [] json = some json := rfl

theorem get?_cons (segment : String) (rest : Pointer) (json : Json) :
    get? (segment :: rest) json = (child? segment json).bind (get? rest) := rfl

/-- The document with its child at the segment changed, if it has one and the change succeeds. -/
def updateChild? (segment : String) (change : Json → Option Json) : Json → Option Json
  | .obj members => do
    let old ← Entries.find? segment members
    let new ← change old
    pure (.obj (Entries.insert segment new members))
  | .arr items => do
    let i ← index? segment
    let old ← items[i]?
    let new ← change old
    pure (.arr (items.set i new))
  | _ => none

end Pointer

end Sidecar.Json
