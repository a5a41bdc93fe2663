/-
**Decoding rules and settings from a tree of values.**

Rules and settings are read from JSON documents and from configuration files.  A `Source` says how
a tree of values answers the questions that a decoder asks (is this a text, which fields has this
record, …); the decoders are written once, for every source.

The fields of a record are met one after another, and the first thing wrong with any of them is
the error of the record.  So every failure carries its *rank*, the moment at which it is met: the
place of the entry for a bad value or an unknown name, and for a missing field a moment after all
entries.  Reading the fields of a record combines results and keeps the failure of lowest rank.

Main definitions:

* `Sidecar.Source` — the questions;
* `Sidecar.Ranked` — a result or a failure with its rank; `Sidecar.Ranked.ap` combines two;
* `Sidecar.RecordView` — the fields of a record; `Sidecar.RecordView.required`,
  `Sidecar.RecordView.orElse` read one;
* `Sidecar.Decode.record` — a whole record;
* `Sidecar.Decode.text`, `Sidecar.Decode.list`, … — decoders of the other shapes.
-/

import Sidecar.Decode.Error
import Sidecar.Entries

set_option autoImplicit false

namespace Sidecar

/-- A result, or a failure with the moment at which it is met. -/
abbrev Ranked (α : Type) := Except (Nat × DecodeError) α

namespace Ranked

variable {α β : Type}

/-- A result that needs no field. -/
def pure (a : α) : Ranked α := .ok a

/-- Applies the one result to the other; of two failures the one met first stands. -/
def ap (f : Ranked (α → β)) (x : Ranked α) : Ranked β :=
  match f, x with
  | .ok f, .ok a => .ok (f a)
  | .error e, .ok _ => .error e
  | .ok _, .error e => .error e
  | .error d, .error e => .error (if d.1 ≤ e.1 then d else e)

@[simp] theorem ap_ok (f : α → β) (a : α) :
    ap (.ok f : Ranked (α → β)) (.ok a) = .ok (f a) := rfl

/-- Gives every failure the same rank. -/
def met (rank : Nat) : Except DecodeError α → Ranked α
  | .ok a => .ok a
  | .error e => .error (rank, e)

@[simp] theorem met_ok (rank : Nat) (a : α) : met rank (.ok a) = .ok a := rfl

end Ranked

/-- The fields of a record as they are given. -/
structure RecordView (δ : Type) where
  /-- The value of a field and the rank at which it is met. -/
  field? : String → Option (Nat × δ)
  /-- The failure if a field without a default is not given. -/
  absent : String → Nat × DecodeError
  /-- The first thing given that belongs to no field, or belongs to one for a second time. -/
  stray : Option (Nat × DecodeError)

namespace RecordView

variable {δ α β : Type}

/-- Reads a field that must be given. -/
def required (view : RecordView δ) (name : String) (decode : δ → Except DecodeError α) :
    Ranked α :=
  match view.field? name with
  | some (rank, d) => Ranked.met rank (decode d)
  | none => .error (view.absent name)

/-- Reads a field that has a default. -/
def orElse (view : RecordView δ) (name : String) (default : α)
    (decode : δ → Except DecodeError α) : Ranked α :=
  match view.field? name with
  | some (rank, d) => Ranked.met rank (decode d)
  | none => .ok default

/-- The place of the first entry that a record cannot take. -/
def firstStray (names : List String) (seen : List String) (rank : Nat) :
    List (String × δ) → Option (Nat × DecodeError)
  | [] => none
  | (k, _) :: rest =>
    if k ∉ names then some (rank, .unknownField k names)
    else if k ∈ seen then some (rank, .duplicateField k)
    else firstStray names (k :: seen) (rank + 1) rest

/-- The first entry of that name and its place. -/
def findEntry (name : String) (rank : Nat) : List (String × δ) → Option (Nat × δ)
  | [] => none
  | (k, d) :: rest => if k = name then some (rank, d) else findEntry name (rank + 1) rest

/-- The fields named by entries: an entry is met at its place, and a missing field after all
entries, in the order of the declaration. -/
def ofEntries (names : List String) (entries : List (String × δ)) : RecordView δ where
  field? name := findEntry name 0 entries
  absent name := (entries.length + names.idxOf name, .missingField name)
  stray := firstStray names [] 0 entries

/-- The fields given by position, in the order of the declaration. -/
def ofItems (typeName : String) (names : List String) (items : List δ) : RecordView δ where
  field? name := (items[names.idxOf name]?).map (names.idxOf name, ·)
  absent name :=
    (names.idxOf name, .invalidLength (names.idxOf name)
      ("struct " ++ typeName ++ " with " ++ toString names.length
        ++ if names.length = 1 then " element" else " elements"))
  stray :=
    if names.length < items.length then
      some (names.length, .invalidLength items.length "fewer elements in array")
    else none

end RecordView

/-- A tree of values and its answers to a decoder's questions. -/
class Source (δ : Type) where
  /-- The text of the value. -/
  text : δ → Except DecodeError String
  /-- The truth value. -/
  bool : δ → Except DecodeError Bool
  /-- The whole number, of 64 bits without a sign if `signed` is false; `expected` names the type
  that is asked for. -/
  int : (signed : Bool) → (expected : String) → δ → Except DecodeError Int
  /-- The value unless it is absent. -/
  option : δ → Except DecodeError (Option δ)
  /-- The items of a list. -/
  items : δ → Except DecodeError (List δ)
  /-- The entries of a map. -/
  entries : δ → Except DecodeError (List (String × δ))
  /-- The fields of the record type of that name, its field names in order. -/
  record : (typeName : String) → (names : List String) → δ → Except DecodeError (RecordView δ)
  /-- The one of the names that the value has: a variant without content. -/
  variant : (names : List String) → δ → Except DecodeError String

namespace Decode

variable {δ α : Type} [Source δ]

/-- A text. -/
def text (d : δ) : Except DecodeError String := Source.text d

/-- A truth value. -/
def bool (d : δ) : Except DecodeError Bool := Source.bool d

/-- A whole number between two bounds, of a type without sign if the lower bound is zero. -/
def bounded (expected : String) (low high : Int) (d : δ) : Except DecodeError Int := do
  let n ← Source.int (low < 0) expected d
  if low ≤ n ∧ n ≤ high then pure n else throw (.invalidValue (.int n) expected)

/-- A whole number of 32 bits with sign. -/
def int32 (d : δ) : Except DecodeError Int32 := do
  pure (Int32.ofInt (← bounded "i32" Int32.minValue.toInt Int32.maxValue.toInt d))

/-- A whole number of 64 bits with sign. -/
def int64 (d : δ) : Except DecodeError Int64 := do
  pure (Int64.ofInt (← bounded "i64" Int64.minValue.toInt Int64.maxValue.toInt d))

/-- A whole number of 32 bits without sign. -/
def uint32 (d : δ) : Except DecodeError UInt32 := do
  pure (UInt32.ofNat (← bounded "u32" 0 (UInt32.size - 1) d).toNat)

/-- A whole number of 16 bits without sign. -/
def uint16 (d : δ) : Except DecodeError UInt16 := do
  pure (UInt16.ofNat (← bounded "u16" 0 (UInt16.size - 1) d).toNat)

/-- A value that may be absent. -/
def option (decode : δ → Except DecodeError α) (d : δ) : Except DecodeError (Option α) := do
  match ← Source.option d with
  | some d => pure (some (← decode d))
  | none => pure none

/-- A list, whose first bad item is the error. -/
def list (decode : δ → Except DecodeError α) (d : δ) : Except DecodeError (List α) := do
  (← Source.items d).mapM decode

/-- A list of texts. -/
def texts (d : δ) : Except DecodeError (List String) := list text d

/-- A map of texts, the last text of a name winning. -/
def stringMap (d : δ) : Except DecodeError StringMap := do
  let entries ← Source.entries d
  let pairs ← entries.mapM fun (k, d) => do pure (k, ← text d)
  pure (StringMap.ofList pairs)

/-- A record: the failure of lowest rank, if any, else what the reader made of its fields. -/
def record (typeName : String) (names : List String) (read : RecordView δ → Ranked α) (d : δ) :
    Except DecodeError α := do
  let view ← Source.record typeName names d
  match read view, view.stray with
  | .ok a, none => pure a
  | .ok _, some e => throw e.2
  | .error e, none => throw e.2
  | .error d, some e => throw (if d.1 ≤ e.1 then d.2 else e.2)

end Decode

/-! ### Documents as a source -/

namespace Json

/-- The variant that a document names: a text, or an object whose only member has the name and is
null. -/
def variant (names : List String) (json : Json) :
    Except DecodeError String :=
  let known (name : String) : Except DecodeError String :=
    if name ∈ names then pure name else throw (.unknownVariant name names)
  match json with
  | .str name => known name
  | .obj [(name, content)] => do
    let name ← known name
    if content.isNull then pure name else throw (.invalidType (Found.ofJson content) "unit")
  | .obj _ => throw (.invalidValue .map "map with a single key")
  | json => throw (.invalidType (Found.ofJson json) "string or map")

instance : Source Json where
  text
    | .str s => pure s
    | json => throw (.invalidType (Found.ofJson json) "a string")
  bool
    | .bool b => pure b
    | json => throw (.invalidType (Found.ofJson json) "a boolean")
  int _ expected
    | .int n => pure n
    | json => throw (.invalidType (Found.ofJson json) expected)
  option
    | .null => pure none
    | json => pure (some json)
  items
    | .arr items => pure items
    | json => throw (.invalidType (Found.ofJson json) "a sequence")
  entries
    | .obj members => pure members
    | json => throw (.invalidType (Found.ofJson json) "a map")
  record typeName names
    | .obj members => pure (.ofEntries names members)
    | .arr items => pure (.ofItems typeName names items)
    | json => throw (.invalidType (Found.ofJson json) ("struct " ++ typeName))
  variant := variant

end Json

end Sidecar
