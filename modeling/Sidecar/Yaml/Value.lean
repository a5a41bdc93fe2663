/-
**Documents of YAML texts as a source for decoders.**

What a scalar reads as depends on what is asked for.  Any scalar is a text; only a plain one is a
truth value or a number, or a literal one whose tag says so; and only a plain one is absent.  A
scalar that is not written is also an empty list, map or record.

Main definitions:

* `Sidecar.Yaml.Value` — a node with the document it belongs to, an instance of
  `Sidecar.Source`;
* `Sidecar.Yaml.Value.parse?` — the root of the document of a text.
-/

import Sidecar.Decode.Source
import Sidecar.Yaml.Node
import Sidecar.Yaml.Plain

set_option autoImplicit false

namespace Sidecar.Yaml

/-- A node with the document it belongs to. -/
structure Value where
  document : Document
  node : Node

namespace Value

/-- The root of the document of a text. -/
def parse? (text : String) : Option Value :=
  (Document.parse? text).map fun document => ⟨document, document.root⟩

/-- The value of another node of the document. -/
def withNode (v : Value) (node : Node) : Value := { v with node }

/-- The node itself, or the one that an alias refers to. -/
def content (v : Value) : Node := v.document.resolve v.node

/-- What a decoder finds. -/
def found (v : Value) : Found :=
  match v.content with
  | .scalar _ _ text => .text text
  | .sequence .. => .list
  | .mapping .. => .map
  | .alias _ => .null

/-- The tag of a common type. -/
def commonTag (name : String) : String := "tag:yaml.org,2002:" ++ name

/-- The text of a scalar that may be a truth value or number: of a plain one, or of a literal one
with the tag of the type. -/
def bare? (type : String) (v : Value) : Option String :=
  match v.content with
  | .scalar _ .plain text => some text
  | .scalar mark .literal text =>
    if mark.tag = some (commonTag type) then some text else none
  | _ => none

/-- Whether the value is a scalar that is not written. -/
def isEmpty (v : Value) : Bool :=
  match v.content with
  | .scalar _ .plain text => text.isEmpty
  | _ => false

/-- The name that a tag with a single exclamation mark gives. -/
def tagName? (mark : Mark) : Option String :=
  match mark.tag.map (·.toList) with
  | some ['!'] => some "!"
  | some ('!' :: name) => some (String.ofList name)
  | _ => none

/-- The text of a scalar. -/
def text (v : Value) : Except DecodeError String :=
  match v.content with
  | .scalar _ _ text => pure text
  | _ => throw (.invalidType v.found "a string")

/-- A truth value. -/
def bool (v : Value) : Except DecodeError Bool :=
  match (v.bare? "bool").bind Plain.bool? with
  | some b => pure b
  | none => throw (.invalidType v.found "a boolean")

/-- A whole number of 64 bits. -/
def int (signed : Bool) (expected : String) (v : Value) : Except DecodeError Int :=
  let read (text : String) : Option Int :=
    if signed then Plain.signed? text else (Plain.unsigned? text).map Int.ofNat
  match (v.bare? "int").bind read with
  | some n => pure n
  | none => throw (.invalidType v.found expected)

/-- The value unless it is absent: a plain scalar that is not written or reads as null.  With a tag
only null itself is absent, and only if the tag says so. -/
def option (v : Value) : Except DecodeError (Option Value) :=
  match v.content with
  | .scalar mark .plain text =>
    match mark.tag with
    | some tag =>
      if tag = commonTag "null" then
        if Plain.isNull text then pure none else throw (.invalidValue (.text text) "null")
      else pure (some v)
    | none => pure (if text.isEmpty || Plain.isNull text then none else some v)
  | _ => pure (some v)

/-- The items of a sequence. -/
def items (v : Value) : Except DecodeError (List Value) :=
  match v.content with
  | .sequence _ items => pure (items.map v.withNode)
  | _ => if v.isEmpty then pure [] else throw (.invalidType v.found "a sequence")

/-- The entries of a mapping with their keys as texts. -/
def named (v : Value) (entries : List (Node × Node)) :
    Except DecodeError (List (String × Value)) :=
  entries.mapM fun (k, x) => do pure (← text (v.withNode k), v.withNode x)

/-- The entries of a map. -/
def entries (v : Value) : Except DecodeError (List (String × Value)) :=
  match v.content with
  | .mapping _ entries => v.named entries
  | _ => if v.isEmpty then pure [] else throw (.invalidType v.found "a map")

/-- The fields of a record, which is a mapping. -/
def record (typeName : String) (names : List String) (v : Value) :
    Except DecodeError (RecordView Value) :=
  match v.content with
  | .mapping _ entries => (v.named entries).map (.ofEntries names)
  | _ =>
    if v.isEmpty then pure (.ofEntries names [])
    else throw (.invalidType v.found ("struct " ++ typeName))

/-- The variant that a value names: as a scalar, or by a tag with nothing after it. -/
def variant (names : List String) (v : Value) : Except DecodeError String :=
  let known (name : String) : Except DecodeError String :=
    if name ∈ names then pure name else throw (.unknownVariant name names)
  let tagged (mark : Mark) (isAbsent : Bool) (plain : Except DecodeError String) :
      Except DecodeError String :=
    match tagName? mark with
    | some name => do
      let name ← known name
      if isAbsent then pure name else throw (.invalidType v.found "null")
    | none => plain
  match v.content with
  | .scalar mark style text =>
    tagged mark (style = .plain && (text.isEmpty || Plain.isNull text)) (known text)
  | .sequence mark _ | .mapping mark _ =>
    tagged mark false (throw (.invalidType v.found "a tag"))
  | .alias _ => throw (.invalidType v.found "a tag")

instance : Source Value where
  text := text
  bool := bool
  int := int
  option := option
  items := items
  entries := entries
  record := record
  variant := variant

end Value

end Sidecar.Yaml
