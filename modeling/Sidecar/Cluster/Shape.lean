/-
**The shapes of the cluster's objects.**

A shape says which JSON values are read as an object of some type.  Members that the type does not
have are passed over, and a member that is null counts as absent; everything else has to be of the
right kind, all the way down.

Of a document that has been understood each member is there once.  Of one that is read as it is
written a member is read as often as it is given, and the last of a name counts; what is passed over
need not be understood.

Main definitions:

* `Sidecar.Cluster.Shape` — a shape;
* `Sidecar.Cluster.Shape.accepts` — whether a value has it;
* `Sidecar.Cluster.Shape.read?` — what is read of a value as it is written.

Main result: `Sidecar.Cluster.Shape.accepts_object_iff` — an object is accepted exactly if each
member with a shape is absent or accepted.
-/

import Sidecar.Cluster.Time
import Sidecar.Json.Raw

set_option autoImplicit false

namespace Sidecar.Cluster

/-- A set of JSON values that are read alike. -/
inductive Shape where
  /-- Any value. -/
  | any
  | text
  | bool
  | int32
  | int64
  /-- A number of 32 bits or a text, as for ports. -/
  | intOrText
  /-- The text of a moment in time. -/
  | time
  /-- One text alone; a null is not accepted in its place. -/
  | constant (expected : String)
  | list (item : Shape)
  /-- An object whose members are all of one shape. -/
  | map (value : Shape)
  /-- An object whose members of these names have these shapes. -/
  | object (fields : List (String × Shape))

namespace Shape

/-- Whether the number has 32 bits. -/
def isInt32 (n : Int) : Bool :=
  Int32.minValue.toInt ≤ n && n ≤ Int32.maxValue.toInt

/-- Whether the number has 64 bits. -/
def isInt64 (n : Int) : Bool :=
  Int64.minValue.toInt ≤ n && n ≤ Int64.maxValue.toInt

/-- Whether a member of this shape may be null. -/
def isNullable : Shape → Bool
  | .constant _ => false
  | _ => true

mutual

/-- Whether the value has the shape. -/
def accepts : Shape → Json → Bool
  | .any, _ => true
  | .text, .str _ => true
  | .bool, .bool _ => true
  | .int32, .int n => isInt32 n
  | .int64, .int n => isInt64 n
  | .intOrText, .int n => isInt32 n
  | .intOrText, .str _ => true
  | .time, .str s => (Time.parse? s).isSome
  | .constant expected, .str s => s = expected
  | .list item, .arr items => items.all fun x => accepts item x
  | .map value, .obj members => members.all fun (_, x) => accepts value x
  | .object fields, .obj members => acceptsFields fields members
  | _, _ => false

/-- Whether every member that has a shape is accepted, or null where that is allowed. -/
def acceptsFields : List (String × Shape) → List (String × Json) → Bool
  | [], _ => true
  | (name, shape) :: fields, members =>
    (match Entries.find? name members with
      | none => true
      | some .null => shape.isNullable
      | some x => accepts shape x)
    && acceptsFields fields members

end

/-- Whether a member of the shape may be what is given: absent, null where that is allowed, or
accepted. -/
def acceptsMember (shape : Shape) : Option Json → Bool
  | none => true
  | some .null => shape.isNullable
  | some x => accepts shape x

theorem acceptsFields_iff (fields : List (String × Shape)) (members : List (String × Json)) :
    acceptsFields fields members = true
      ↔ ∀ f ∈ fields, f.2.acceptsMember (Entries.find? f.1 members) = true := by
  induction fields with
  | nil => simp [acceptsFields]
  | cons f fields ih =>
    obtain ⟨name, shape⟩ := f
    simp only [acceptsFields, Bool.and_eq_true, ih, List.mem_cons, forall_eq_or_imp]
    refine and_congr_left fun _ => ?_
    cases Entries.find? name members with
    | none => rfl
    | some x => cases x <;> rfl

/-- An object is accepted exactly if each member with a shape is absent or accepted. -/
theorem accepts_object_iff (fields : List (String × Shape)) (members : List (String × Json)) :
    accepts (.object fields) (.obj members) = true
      ↔ ∀ f ∈ fields, f.2.acceptsMember (Entries.find? f.1 members) = true := by
  rw [accepts, acceptsFields_iff]

/-- A list of texts. -/
def texts : Shape := .list .text

/-- A map of texts. -/
def textMap : Shape := .map .text

/-- An object whose members of these names are texts. -/
def textFields (names : List String) : Shape :=
  .object (names.map (·, .text))

/-! ### Reading what is written -/

/-- What is read of a value if all of it has to be understood. -/
def readWhole? (shape : Shape) (raw : Json.Raw) : Option Json :=
  (raw.toJson?.map Json.canonical).filter shape.accepts

mutual

/-- What is read of a value in this shape: the members that the shape has, each name once. -/
def read? (shape : Shape) : Json.Raw → Option Json
  | .arr items =>
    match shape with
    | .list item => (readItems? item items).map .arr
    | shape => readWhole? shape (.arr items)
  | .obj members =>
    match shape with
    | .map value => (readEntries? value members).map fun entries => .obj (Entries.ofList entries)
    | .object fields =>
      (readMembers? fields members).map fun members => .obj (Entries.ofList members)
    | shape => readWhole? shape (.obj members)
  | raw => readWhole? shape raw

/-- The items of a list. -/
def readItems? (item : Shape) : List Json.Raw → Option (List Json)
  | [] => some []
  | x :: xs => do
    let x ← read? item x
    let xs ← readItems? item xs
    some (x :: xs)

/-- The entries of an object whose members are all of one shape. -/
def readEntries? (value : Shape) : List (String × Json.Raw) → Option (List (String × Json))
  | [] => some []
  | (k, x) :: entries => do
    let x ← read? value x
    let entries ← readEntries? value entries
    some ((k, x) :: entries)

/-- The members of an object that have a shape. -/
def readMembers? (fields : List (String × Shape)) :
    List (String × Json.Raw) → Option (List (String × Json))
  | [] => some []
  | (k, x) :: members => do
    let rest ← readMembers? fields members
    match fields.lookup k, x with
    | none, _ => some rest
    | some shape, .null => if shape.isNullable then some ((k, .null) :: rest) else none
    | some shape, x => (read? shape x).map fun json => (k, json) :: rest

end

end Shape

end Sidecar.Cluster
