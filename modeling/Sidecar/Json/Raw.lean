/-
**JSON texts as they are written.**

A text is first read as it stands: an object has its members in the order given, a name as often as
it is given, and what cannot be understood is marked as such.  That is a literal which is no text of
Unicode, a number beyond all floating numbers, or a value that nests too deep.  Whoever passes over a
member does not care; whoever reads it fails.

Main definitions:

* `Sidecar.Json.Raw` — what a text writes, an instance of `Sidecar.Source`;
* `Sidecar.Json.Raw.toJson?` — the document, if all of it can be understood.
-/

import Sidecar.Decode.Source

set_option autoImplicit false

namespace Sidecar.Json

/-- What a text writes. -/
inductive Raw where
  /-- Something of the grammar that cannot be understood. -/
  | obscure
  | null
  | bool (value : Bool)
  | int (value : Int)
  | float (value : Binary64)
  | str (value : String)
  | arr (items : List Raw)
  | obj (members : List (String × Raw))
deriving Inhabited

namespace Raw

mutual

/-- The document that is written, with the members of objects as they are given. -/
def toJson? : Raw → Option Json
  | .obscure => none
  | .null => some .null
  | .bool b => some (.bool b)
  | .int n => some (.int n)
  | .float x => some (.float x)
  | .str s => some (.str s)
  | .arr items => (itemsToJson? items).map .arr
  | .obj members => (membersToJson? members).map .obj

/-- The items of a list. -/
def itemsToJson? : List Raw → Option (List Json)
  | [] => some []
  | x :: xs => do
    let x ← toJson? x
    let xs ← itemsToJson? xs
    some (x :: xs)

/-- The members of an object. -/
def membersToJson? : List (String × Raw) → Option (List (String × Json))
  | [] => some []
  | (k, x) :: members => do
    let x ← toJson? x
    let members ← membersToJson? members
    some ((k, x) :: members)

end

/-- What a decoder finds. -/
def found : Raw → Found
  | .obscure | .null => .null
  | .bool b => .bool b
  | .int n => .int n
  | .float x => .float x
  | .str s => .text s
  | .arr _ => .list
  | .obj _ => .map

/-- The variant that a value names: a text, or an object whose only member has the name and is
null. -/
def variant (names : List String) (raw : Raw) : Except DecodeError String :=
  let known (name : String) : Except DecodeError String :=
    if name ∈ names then pure name else throw (.unknownVariant name names)
  match raw with
  | .str name => known name
  | .obj [(name, .null)] => known name
  | raw => throw (.invalidType raw.found "string or map")

instance : Source Raw where
  text
    | .str s => pure s
    | raw => throw (.invalidType raw.found "a string")
  bool
    | .bool b => pure b
    | raw => throw (.invalidType raw.found "a boolean")
  int _ expected
    | .int n => pure n
    | raw => throw (.invalidType raw.found expected)
  option
    | .null => pure none
    | raw => pure (some raw)
  items
    | .arr items => pure items
    | raw => throw (.invalidType raw.found "a sequence")
  entries
    | .obj members => pure members
    | raw => throw (.invalidType raw.found "a map")
  record typeName names
    | .obj members => pure (.ofEntries names members)
    | .arr items => pure (.ofItems typeName names items)
    | raw => throw (.invalidType raw.found ("struct " ++ typeName))
  variant := variant

end Raw

end Sidecar.Json
