/-
**Canonical documents.**

Every document that the library reads has been made canonical: the members of each object, all the
way down, stand in ascending order of their names, each name once.  Whoever changes one member of
such a document by a canonical value has a canonical document again, and setting a member to what
it is already changes nothing.

Main definitions:

* `Sidecar.Json.IsCanonical`, `Sidecar.Json.IsCanonicalMember` — the property, and that of a member
  that may be absent;
* `Sidecar.Json.withMember` — the object with one member set, if there is a value for it.

Main results:

* `Sidecar.Entries.insert_insert`, `Sidecar.Entries.insert_self` — of two insertions under one name
  the last counts, and one of what is there changes nothing;
* `Sidecar.Json.isCanonical_canonical` — **what has been made canonical is canonical**;
* `Sidecar.Json.IsCanonical.withMember`, `Sidecar.Json.isCanonical_object` — canonical values make
  canonical objects.
-/

import Sidecar.Json.Basic

set_option autoImplicit false

namespace Sidecar

namespace Entries

variable {α β : Type}

/-! ### Insertions -/

/-- Of two insertions under one name the last counts. -/
theorem insert_insert (name : String) (first last : α) (entries : List (String × α)) :
    insert name last (insert name first entries) = insert name last entries := by
  induction entries with
  | nil => simp [insert]
  | cons e rest ih =>
      obtain ⟨k, v⟩ := e
      by_cases hlt : name < k
      · simp [insert, hlt]
      · by_cases heq : k = name
        · simp [insert, heq]
        · simp [insert, hlt, heq, ih]

/-- An insertion of what is found already changes nothing. -/
theorem insert_self {name : String} {value : α} {entries : List (String × α)}
    (hs : Sorted entries) (h : find? name entries = some value) :
    insert name value entries = entries := by
  refine ext_find? (sorted_insert hs) hs fun other => ?_
  rw [find?_insert]
  split
  · next heq => rw [← heq, h]
  · rfl

/-- What is found is an entry. -/
theorem mem_of_find? {name : String} {value : α} {entries : List (String × α)}
    (h : find? name entries = some value) : (name, value) ∈ entries := by
  induction entries with
  | nil => cases h
  | cons e rest ih =>
      obtain ⟨k, v⟩ := e
      rw [find?_cons] at h
      split at h
      · next heq =>
        obtain rfl := Option.some.inj h
        exact heq ▸ List.mem_cons_self ..
      · exact List.mem_cons_of_mem _ (ih h)

theorem find?_append (name : String) (xs ys : List (String × α)) :
    find? name (xs ++ ys) = (find? name xs).or (find? name ys) := by
  induction xs with
  | nil => rfl
  | cons e xs ih =>
      obtain ⟨k, v⟩ := e
      rw [List.cons_append, find?_cons, find?_cons, ih]
      split <;> rfl

/-- Of entries in order each name has one, so the direction of a look-up does not matter. -/
theorem find?_reverse {entries : List (String × α)} (hs : Sorted entries) (name : String) :
    find? name entries.reverse = find? name entries := by
  induction entries with
  | nil => rfl
  | cons e rest ih =>
      obtain ⟨k, v⟩ := e
      obtain ⟨hfirst, hrest⟩ := List.pairwise_cons.1 hs
      rw [List.reverse_cons, find?_append, ih hrest, find?_cons, find?_cons]
      split
      · next heq =>
        -- the names behind the first are greater
        rw [find?_eq_none_of_lt (heq ▸ hfirst)]
        rfl
      · rw [find?_nil, Option.or_none]

/-- What overrides stands in the result, and what is not overridden stays. -/
theorem mem_override {base changes : List (String × α)} {e : String × α}
    (h : e ∈ override base changes) : e ∈ base ∨ e ∈ changes := by
  induction changes generalizing base with
  | nil => exact .inl h
  | cons change changes ih =>
      have hnext : e ∈ override (insert change.1 change.2 base) changes := h
      rcases ih hnext with h | h
      · rcases mem_insert h with rfl | h
        · exact .inr (List.mem_cons_self ..)
        · exact .inl h
      · exact .inr (List.mem_cons_of_mem _ h)

/-- What stands in the entries of a list of pairs stands in the list. -/
theorem mem_ofList {pairs : List (String × α)} {e : String × α} (h : e ∈ ofList pairs) :
    e ∈ pairs := by
  have hbase : e ∈ override [] pairs := h
  rcases mem_override hbase with h | h
  · cases h
  · exact h

/-- Changing the values goes through a look-up. -/
theorem find?_map (name : String) (f : α → β) (entries : List (String × α)) :
    find? name (entries.map fun e => (e.1, f e.2)) = (find? name entries).map f := by
  induction entries with
  | nil => rfl
  | cons e rest ih =>
      obtain ⟨k, v⟩ := e
      rw [List.map_cons, find?_cons, find?_cons, ih]
      split <;> rfl

/-- Changing the values keeps the order. -/
theorem Sorted.map {entries : List (String × α)} (h : Sorted entries) (f : α → β) :
    Sorted (entries.map fun e => (e.1, f e.2)) :=
  List.pairwise_map.2 h

end Entries

namespace StringMap

/-- What is overridden is found as the changes have it, the rest as it was. -/
theorem find?_override (m changes : StringMap) (name : String) :
    (m.override changes).find? name = (changes.find? name).or (m.find? name) := by
  change Entries.find? name (Entries.override m.entries changes.entries) = _
  rw [Entries.find?_override, Entries.find?_reverse changes.sorted]
  rfl

theorem isEmpty_eq_false_of_find? {m : StringMap} {name text : String}
    (h : m.find? name = some text) : m.isEmpty = false := by
  cases hm : m.isEmpty with
  | false => rfl
  | true =>
      rw [find?, List.isEmpty_iff.1 hm] at h
      cases h

theorem override_eq_of_isEmpty {m : StringMap} (h : m.isEmpty = true) (changes : StringMap) :
    m.override changes = changes := by
  refine ext_find? fun name => ?_
  have hnone : m.find? name = none := by
    rw [find?, List.isEmpty_iff.1 h, Entries.find?_nil]
  rw [find?_override, hnone, Option.or_none]

end StringMap

namespace Json

/-! ### Canonical documents -/

/-- The members of each object in the document are in order. -/
inductive IsCanonical : Json → Prop
  | null : IsCanonical .null
  | bool (value : Bool) : IsCanonical (.bool value)
  | int (value : Int) : IsCanonical (.int value)
  | float (value : Binary64) : IsCanonical (.float value)
  | str (value : String) : IsCanonical (.str value)
  | arr {items : List Json} : (∀ x ∈ items, IsCanonical x) → IsCanonical (.arr items)
  | obj {members : List (String × Json)} : Entries.Sorted members →
      (∀ e ∈ members, IsCanonical e.2) → IsCanonical (.obj members)

theorem isCanonical_arr_iff {items : List Json} :
    IsCanonical (.arr items) ↔ ∀ x ∈ items, IsCanonical x :=
  ⟨fun h => by cases h; assumption, .arr⟩

theorem isCanonical_obj_iff {members : List (String × Json)} :
    IsCanonical (.obj members) ↔ Entries.Sorted members ∧ ∀ e ∈ members, IsCanonical e.2 :=
  ⟨fun h => by cases h; exact ⟨‹_›, ‹_›⟩, fun h => .obj h.1 h.2⟩

mutual

/-- **What has been made canonical is canonical.** -/
theorem isCanonical_canonical : (json : Json) → json.canonical.IsCanonical
  | .null => .null
  | .bool value => .bool value
  | .int value => .int value
  | .float value => .float value
  | .str value => .str value
  | .arr items => .arr (isCanonical_of_mem_canonicalItems items)
  | .obj members => .obj (Entries.sorted_ofList _) fun e he =>
      isCanonical_of_mem_canonicalMembers members e (Entries.mem_ofList he)

theorem isCanonical_of_mem_canonicalItems :
    (items : List Json) → ∀ x ∈ canonicalItems items, x.IsCanonical
  | [], _, h => by cases h
  | y :: ys, x, h => by
      rw [canonicalItems] at h
      rcases List.mem_cons.1 h with rfl | h
      · exact isCanonical_canonical y
      · exact isCanonical_of_mem_canonicalItems ys x h

theorem isCanonical_of_mem_canonicalMembers :
    (members : List (String × Json)) → ∀ e ∈ canonicalMembers members, e.2.IsCanonical
  | [], _, h => by cases h
  | (_, y) :: members, e, h => by
      rw [canonicalMembers] at h
      rcases List.mem_cons.1 h with rfl | h
      · exact isCanonical_canonical y
      · exact isCanonical_of_mem_canonicalMembers members e h

end

/-- A member of a canonical object is canonical. -/
theorem IsCanonical.member? {json value : Json} {name : String} (h : json.IsCanonical)
    (hv : json.member? name = some value) : value.IsCanonical := by
  cases h with
  | obj _ hmembers => exact hmembers _ (Entries.mem_of_find? hv)
  | _ => cases hv

/-- The member is absent or canonical. -/
def IsCanonicalMember (member : Option Json) : Prop :=
  ∀ value, member = some value → value.IsCanonical

@[simp] theorem isCanonicalMember_some {value : Json} :
    IsCanonicalMember (some value) ↔ value.IsCanonical :=
  ⟨fun h => h value rfl, fun h _ heq => Option.some.inj heq ▸ h⟩

attribute [simp] IsCanonical.str IsCanonical.int IsCanonical.bool

theorem isCanonical_strings (texts : List String) : (strings texts).IsCanonical := by
  refine .arr fun x hx => ?_
  obtain ⟨text, _, rfl⟩ := List.mem_map.1 hx
  exact .str text

theorem isCanonical_stringMap (m : StringMap) : (stringMap m).IsCanonical := by
  refine .obj (m.sorted.map Json.str) fun e he => ?_
  obtain ⟨entry, _, rfl⟩ := List.mem_map.1 he
  exact .str entry.2

/-- An object made of canonical values is canonical. -/
theorem isCanonical_object {members : List (String × Option Json)}
    (h : ∀ e ∈ members, IsCanonicalMember e.2) : (object members).IsCanonical := by
  refine .obj (Entries.sorted_ofList _) fun e he => ?_
  obtain ⟨⟨name, value⟩, hmem, heq⟩ := List.mem_filterMap.1 (Entries.mem_ofList he)
  obtain ⟨v, hv, rfl⟩ := Option.map_eq_some_iff.1 heq
  exact h _ hmem v hv

/-! ### Setting a member -/

/-- The object with the member set, if there is a value for it. -/
def withMember (json : Json) (name : String) (value : Option Json) : Json :=
  match json, value with
  | .obj members, some v => .obj (Entries.insert name v members)
  | json, _ => json

@[simp] theorem withMember_none (json : Json) (name : String) :
    json.withMember name none = json := by
  cases json <;> rfl

@[simp] theorem withMember_obj_some (members : List (String × Json)) (name : String) (v : Json) :
    (obj members).withMember name (some v) = .obj (Entries.insert name v members) := rfl

/-- The member that was set is found, the others are as they were. -/
theorem member?_withMember (members : List (String × Json)) (name other : String)
    (value : Option Json) : ((obj members).withMember name value).member? other
      = if name = other then value.or (Entries.find? other members)
        else Entries.find? other members := by
  cases value with
  | none => simp [Json.member?]
  | some v =>
      rw [withMember_obj_some, Json.member?, Entries.find?_insert]
      simp

/-- Setting one member leaves the others alone. -/
@[simp] theorem member?_withMember_of_ne (json : Json) {name other : String} (h : name ≠ other)
    (value : Option Json) : (json.withMember name value).member? other = json.member? other := by
  cases json with
  | obj members => rw [member?_withMember, if_neg h, Json.member?]
  | _ => cases value <;> rfl

/-- A member of an object is what it was set to. -/
@[simp] theorem member?_withMember_self (members : List (String × Json)) (name : String)
    (v : Json) : ((obj members).withMember name (some v)).member? name = some v := by
  rw [member?_withMember, if_pos rfl, Option.some_or]

/-- A document with a member is an object. -/
theorem exists_members_of_member? {json child : Json} {name : String}
    (h : json.member? name = some child) : ∃ members, json = .obj members := by
  cases json with
  | obj members => exact ⟨members, rfl⟩
  | _ => cases h

/-- An object with a member set is an object. -/
theorem exists_members_withMember (members : List (String × Json)) (name : String)
    (value : Option Json) : ∃ fields, (obj members).withMember name value = .obj fields := by
  cases value with
  | none => exact ⟨members, withMember_none _ _⟩
  | some v => exact ⟨_, rfl⟩

/-- A member set to what it is. -/
theorem withMember_self {json v : Json} {name : String} (hc : json.IsCanonical)
    (h : json.member? name = some v) : json.withMember name (some v) = json := by
  cases hc with
  | obj hs _ => rw [withMember_obj_some, Entries.insert_self hs h]
  | _ => cases h

/-- Of two values for one member the last counts. -/
theorem withMember_withMember (json : Json) (name : String) (first : Option Json) (last : Json) :
    (json.withMember name first).withMember name (some last)
      = json.withMember name (some last) := by
  cases json with
  | obj members =>
      cases first with
      | none => rw [withMember_none]
      | some v => rw [withMember_obj_some, withMember_obj_some, Entries.insert_insert]; rfl
  | _ => cases first <;> rfl

/-- An object with a canonical member set is canonical. -/
theorem IsCanonical.withMember {json : Json} (h : json.IsCanonical) (name : String)
    {value : Option Json} (hv : IsCanonicalMember value) :
    (json.withMember name value).IsCanonical := by
  cases value with
  | none => rwa [withMember_none]
  | some v =>
      cases h with
      | obj hs hmembers =>
          refine .obj (Entries.sorted_insert hs) fun e he => ?_
          rcases Entries.mem_insert he with rfl | he
          · exact hv v rfl
          · exact hmembers e he
      | null => exact .null
      | bool b => exact .bool b
      | int n => exact .int n
      | float x => exact .float x
      | str s => exact .str s
      | arr hitems => exact .arr hitems

/-- A canonical document that is an object. -/
structure IsCanonicalObject (json : Json) : Prop where
  isCanonical : json.IsCanonical
  exists_members : ∃ members, json = .obj members

/-- With a canonical member set it is still one. -/
theorem IsCanonicalObject.withMember {json : Json} (h : json.IsCanonicalObject) (name : String)
    {value : Option Json} (hv : IsCanonicalMember value) :
    (json.withMember name value).IsCanonicalObject := by
  refine ⟨h.isCanonical.withMember name hv, ?_⟩
  obtain ⟨members, rfl⟩ := h.exists_members
  exact exists_members_withMember members name value

end Json

end Sidecar
