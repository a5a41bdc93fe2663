/-
**JSON documents.**

A document is a tree of objects, lists and scalars.  Numbers are whole or floating, and the two
never equal each other.  A *canonical* document lists the members of each object in ascending order
of their names; all documents that the library computes with are canonical, and
`Sidecar.Json.canonical` makes one of a text's raw members, of which the last of a name counts.

Main definitions:

* `Sidecar.Json` — the type, with decidable equality;
* `Sidecar.Json.canonical` — the canonical form;
* `Sidecar.Json.member?` — a member of an object;
* `Sidecar.Json.object` — a canonical object of the members that are present;
* `Sidecar.Json.record` — the same with the members in the order given.
-/

import Sidecar.Entries
import Sidecar.Number.Binary64

set_option autoImplicit false

namespace Sidecar

/-- A JSON document. -/
inductive Json where
  | null
  | bool (value : Bool)
  | int (value : Int)
  | float (value : Binary64)
  | str (value : String)
  | arr (items : List Json)
  | obj (members : List (String × Json))
deriving Inhabited

namespace Json

mutual

/-- Whether two documents are equal. -/
def decideEq : (a b : Json) → Decidable (a = b)
  | .null, .null => isTrue rfl
  | .bool x, .bool y => if h : x = y then isTrue (h ▸ rfl) else isFalse (by simpa using h)
  | .int x, .int y => if h : x = y then isTrue (h ▸ rfl) else isFalse (by simpa using h)
  | .float x, .float y => if h : x = y then isTrue (h ▸ rfl) else isFalse (by simpa using h)
  | .str x, .str y => if h : x = y then isTrue (h ▸ rfl) else isFalse (by simpa using h)
  | .arr xs, .arr ys =>
    match decideEqItems xs ys with
    | isTrue h => isTrue (h ▸ rfl)
    | isFalse h => isFalse (by simpa using h)
  | .obj xs, .obj ys =>
    match decideEqMembers xs ys with
    | isTrue h => isTrue (h ▸ rfl)
    | isFalse h => isFalse (by simpa using h)
  | .null, .bool _ | .null, .int _ | .null, .float _ | .null, .str _ | .null, .arr _
  | .null, .obj _ | .bool _, .null | .bool _, .int _ | .bool _, .float _ | .bool _, .str _
  | .bool _, .arr _ | .bool _, .obj _ | .int _, .null | .int _, .bool _ | .int _, .float _
  | .int _, .str _ | .int _, .arr _ | .int _, .obj _ | .float _, .null | .float _, .bool _
  | .float _, .int _ | .float _, .str _ | .float _, .arr _ | .float _, .obj _ | .str _, .null
  | .str _, .bool _ | .str _, .int _ | .str _, .float _ | .str _, .arr _ | .str _, .obj _
  | .arr _, .null | .arr _, .bool _ | .arr _, .int _ | .arr _, .float _ | .arr _, .str _
  | .arr _, .obj _ | .obj _, .null | .obj _, .bool _ | .obj _, .int _ | .obj _, .float _
  | .obj _, .str _ | .obj _, .arr _ => isFalse (by simp)

/-- Whether two lists of documents are equal. -/
def decideEqItems : (xs ys : List Json) → Decidable (xs = ys)
  | [], [] => isTrue rfl
  | x :: xs, y :: ys =>
    match decideEq x y, decideEqItems xs ys with
    | isTrue hx, isTrue hxs => isTrue (hx ▸ hxs ▸ rfl)
    | isFalse hx, _ => isFalse (by simp [hx])
    | _, isFalse hxs => isFalse (by simp [hxs])
  | [], _ :: _ | _ :: _, [] => isFalse (by simp)

/-- Whether two lists of members are equal. -/
def decideEqMembers : (xs ys : List (String × Json)) → Decidable (xs = ys)
  | [], [] => isTrue rfl
  | (k, x) :: xs, (l, y) :: ys =>
    if hk : k = l then
      match decideEq x y, decideEqMembers xs ys with
      | isTrue hx, isTrue hxs => isTrue (hk ▸ hx ▸ hxs ▸ rfl)
      | isFalse hx, _ => isFalse (by simp [hx])
      | _, isFalse hxs => isFalse (by simp [hxs])
    else isFalse (by simp [hk])
  | [], _ :: _ | _ :: _, [] => isFalse (by simp)

end

instance : DecidableEq Json := decideEq

mutual

/-- The document with the members of every object in order, the last of a name winning. -/
def canonical : Json → Json
  | .arr items => .arr (canonicalItems items)
  | .obj members => .obj (Entries.ofList (canonicalMembers members))
  | scalar => scalar

/-- The canonical forms of the items of a list. -/
def canonicalItems : List Json → List Json
  | [] => []
  | x :: xs => canonical x :: canonicalItems xs

/-- The members with canonical values, in the order given. -/
def canonicalMembers : List (String × Json) → List (String × Json)
  | [] => []
  | (k, x) :: xs => (k, canonical x) :: canonicalMembers xs

end

/-- The member of that name, if the document is an object that has it. -/
def member? (name : String) : Json → Option Json
  | .obj members => Entries.find? name members
  | _ => none

/-- Whether the document is `null`. -/
def isNull : Json → Bool
  | .null => true
  | _ => false

/-- A canonical object of the members that are present. -/
def object (members : List (String × Option Json)) : Json :=
  .obj (Entries.ofList (members.filterMap fun (k, v) => v.map (k, ·)))

/-- An object of the members that are present, in the order given. -/
def record (members : List (String × Option Json)) : Json :=
  .obj (members.filterMap fun (k, v) => v.map (k, ·))

/-- A list of texts. -/
def strings (texts : List String) : Json :=
  .arr (texts.map .str)

/-- A map of texts. -/
def stringMap (m : StringMap) : Json :=
  .obj (m.entries.map fun (k, v) => (k, .str v))

/-- The list, its items written by `toJson`, if it is not empty. -/
def nonEmptyList {α : Type} (toJson : α → Json) (items : List α) : Option Json :=
  if items.isEmpty then none else some (.arr (items.map toJson))

/-- The text if it is not empty. -/
def nonEmptyText (text : String) : Option Json :=
  if text.isEmpty then none else some (.str text)

/-- The map if it is not empty. -/
def nonEmptyMap (m : StringMap) : Option Json :=
  if m.isEmpty then none else some (stringMap m)

end Json

end Sidecar
