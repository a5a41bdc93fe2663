/-
**How the cluster's objects are read and written back.**

A form says of a type of objects which members it has, which of them are always written, and how
each is read.  Members that the form does not have are passed over, and a member that is null
counts as absent.

Main definitions:

* `Sidecar.Cluster.Form` — a form;
* `Sidecar.Cluster.Form.absent` — what is written for a member that is required but absent;
* `Sidecar.Cluster.Form.read` — a document as an object of the form is written back, or why it is
  none.
-/

import Sidecar.Cluster.Time
import Sidecar.Decode.Error
import Sidecar.Text.Base64

set_option autoImplicit false

namespace Sidecar.Cluster

/-- How values of a type are read and written back. -/
inductive Form where
  /-- Any value. -/
  | any
  | text
  | bool
  | int32
  | int64
  /-- The text of a moment in time, of whole seconds when it is written back. -/
  | time
  /-- Bytes in base 64. -/
  | bytes
  /-- One text alone; a null is not accepted in its place. -/
  | constant (expected : String)
  | list (item : Form)
  | map (value : Form)
  /-- An object of a type; of its members the flag says which are always written. -/
  | object (typeName : String) (fields : List (String × Bool × Form))

namespace Form

mutual

/-- What is written for a required member that is absent. -/
def absent : Form → Json
  | .any => .null
  | .text | .time | .bytes => .str ""
  | .bool => .bool false
  | .int32 | .int64 => .int 0
  | .constant expected => .str expected
  | .list _ => .arr []
  | .map _ => .obj []
  | .object _ fields => .obj (Entries.ofList (absentFields fields))

/-- The required members of an object that has none. -/
def absentFields : List (String × Bool × Form) → List (String × Json)
  | [] => []
  | (name, required, form) :: fields =>
    if required then (name, absent form) :: absentFields fields else absentFields fields

end

/-- A whole number between the bounds of a type. -/
def readInt (low high : Int) (typeName : String) : Json → Except DecodeError Json
  | .int n =>
    if low ≤ n ∧ n ≤ high then .ok (.int n)
    else .error (.invalidValue (.int n) typeName)
  | json => .error (.invalidType (Found.ofJson json) typeName)

/-- Text that means something, written back in its canonical form. -/
def readText (canonical : String → Option String) (expected : String) :
    Json → Except DecodeError Json
  | .str s => match canonical s with
    | some s => .ok (.str s)
    | none => .error (.invalidValue (.text s) expected)
  | json => .error (.invalidType (Found.ofJson json) "a string")

mutual

/-- A document as an object of the form is written back. -/
def read : Form → Json → Except DecodeError Json
  | .any, json => .ok json
  | .text, .str s => .ok (.str s)
  | .text, json => .error (.invalidType (Found.ofJson json) "a string")
  | .bool, .bool b => .ok (.bool b)
  | .bool, json => .error (.invalidType (Found.ofJson json) "a boolean")
  | .int32, json => readInt Int32.minValue.toInt Int32.maxValue.toInt "i32" json
  | .int64, json => readInt Int64.minValue.toInt Int64.maxValue.toInt "i64" json
  | .time, json => readText (fun s => (Time.parse? s).map Time.render) "a time" json
  | .bytes, json => readText (fun s => (Text.Base64.decode? s).map Text.Base64.encode)
      "a base64-encoded string" json
  | .constant expected, json => readText (fun s => if s = expected then some s else none)
      (Text.quoted expected) json
  | .list item, .arr items => (readItems item items).map .arr
  | .list _, json => .error (.invalidType (Found.ofJson json) "a sequence")
  | .map value, .obj members => (readMembers value members).map .obj
  | .map _, json => .error (.invalidType (Found.ofJson json) "a map")
  | .object _ fields, .obj members =>
    (readEntries fields members).map fun given =>
      .obj (Entries.override (Entries.ofList (absentFields fields)) given)
  | .object typeName _, json => .error (.invalidType (Found.ofJson json) typeName)

/-- The items of a list. -/
def readItems (item : Form) : List Json → Except DecodeError (List Json)
  | [] => .ok []
  | x :: xs => do
    let x ← read item x
    let xs ← readItems item xs
    pure (x :: xs)

/-- The members of a map. -/
def readMembers (value : Form) :
    List (String × Json) → Except DecodeError (List (String × Json))
  | [] => .ok []
  | (k, x) :: members => do
    let x ← read value x
    let members ← readMembers value members
    pure ((k, x) :: members)

/-- The members of an object that its type has. -/
def readEntries (fields : List (String × Bool × Form)) :
    List (String × Json) → Except DecodeError (List (String × Json))
  | [] => .ok []
  | (k, x) :: members => do
    let here ← match fields.lookup k with
      | none => pure []
      | some (_, form) =>
        match form, x with
        | .constant _, x => pure [(k, ← read form x)]
        | _, .null => pure []
        | form, x => pure [(k, ← read form x)]
    let members ← readEntries fields members
    pure (here ++ members)

end

end Form

end Sidecar.Cluster
