/-
**The bytes that a fingerprint is taken of.**

A value is fed to its fingerprint field by field.  A field starts with its name and a colon and
ends with the byte `0xff`, which no text contains, so neighbours cannot run together; so does every
element of a list and every entry of a map.  Empty and absent fields feed nothing, so that a new
optional field leaves the fingerprints of all values without it as they were.

Main definitions:

* `Sidecar.Feed.text`, `Sidecar.Feed.uint32`, `Sidecar.Feed.list`, … — what one field feeds;
* `Sidecar.fingerprint` — the first eight bytes of the digest, in lowercase hexadecimal.

Main result: `Sidecar.length_fingerprint` — a fingerprint has sixteen characters.
-/

import Sidecar.Entries
import Sidecar.Fingerprint.Sha256

set_option autoImplicit false

namespace Sidecar

/-- The bytes that a value feeds. -/
abbrev Feed := List UInt8

namespace Feed

/-- The byte that ends a field, an element and an entry. -/
def sentinel : UInt8 := 0xff

/-- The UTF-8 form of a text. -/
def utf8 (s : String) : Feed := s.toUTF8.data.toList

/-- A field: its name, a colon, the content and the sentinel. -/
def field (name : String) (content : Feed) : Feed :=
  utf8 name ++ utf8 ":" ++ content ++ [sentinel]

/-- The lowest `n` bytes of a number, the highest first. -/
def bigEndian (n value : Nat) : Feed :=
  (List.range n).reverse.map fun i => UInt8.ofNat (value >>> (8 * i))

/-- A text; the empty one feeds nothing. -/
def text (name value : String) : Feed :=
  if value.isEmpty then [] else field name (utf8 value)

/-- A number of 32 bits. -/
def uint32 (name : String) (value : UInt32) : Feed :=
  field name (bigEndian 4 value.toNat)

/-- An optional value; absent it feeds nothing. -/
def optional {α : Type} (value : Option α) (feed : α → Feed) : Feed :=
  match value with
  | some a => feed a
  | none => []

/-- An optional number of 32 bits, in two's complement. -/
def optInt32 (name : String) (value : Option Int32) : Feed :=
  optional value fun n => field name (bigEndian 4 n.toUInt32.toNat)

/-- An optional number of 64 bits, in two's complement. -/
def optInt64 (name : String) (value : Option Int64) : Feed :=
  optional value fun n => field name (bigEndian 8 n.toUInt64.toNat)

/-- An optional truth value. -/
def optBool (name : String) (value : Option Bool) : Feed :=
  optional value fun b => field name [if b then 1 else 0]

/-- An element of a list or an entry of a map. -/
def element (content : Feed) : Feed :=
  content ++ [sentinel]

/-- A list; the empty one feeds nothing. -/
def list {α : Type} (name : String) (values : List α) (feed : α → Feed) : Feed :=
  if values.isEmpty then [] else field name (values.flatMap fun a => element (feed a))

/-- A list of texts. -/
def texts (name : String) (values : List String) : Feed :=
  list name values utf8

/-- A map of texts, in the order of its names. -/
def map (name : String) (values : StringMap) : Feed :=
  list name values.entries fun (k, v) => text "key" k ++ text "value" v

/-- A value within another. -/
def nested (name : String) (content : Feed) : Feed :=
  field name content

/-- An optional value within another. -/
def optNested {α : Type} (name : String) (value : Option α) (feed : α → Feed) : Feed :=
  optional value fun a => nested name (feed a)

@[simp] theorem text_empty (name : String) : text name "" = [] := rfl

@[simp] theorem list_nil {α : Type} (name : String) (feed : α → Feed) :
    list name [] feed = [] := rfl

@[simp] theorem length_bigEndian (n value : Nat) : (bigEndian n value).length = n := by
  simp [bigEndian]

end Feed

/-- A digit in lowercase hexadecimal. -/
def hexDigit (n : Nat) : Char :=
  if n < 10 then Char.ofNat ('0'.toNat + n) else Char.ofNat ('a'.toNat + (n - 10))

/-- The two hexadecimal digits of a byte. -/
def hexByte (b : UInt8) : List Char :=
  [hexDigit (b.toNat / 16), hexDigit (b.toNat % 16)]

/-- The fingerprint of the bytes fed: the first eight bytes of their digest. -/
def fingerprint (feed : Feed) : String :=
  String.ofList (((Sha256.digest feed).take 8).flatMap hexByte)

/-- A fingerprint has sixteen characters. -/
theorem length_fingerprint (feed : Feed) : (fingerprint feed).length = 16 := by
  have h : ∀ bytes : List UInt8, (bytes.flatMap hexByte).length = 2 * bytes.length := by
    intro bytes
    induction bytes with
    | nil => rfl
    | cons b bytes ih => simp [hexByte, ih]; omega
  simp [fingerprint, h, Sha256.length_digest]

end Sidecar
