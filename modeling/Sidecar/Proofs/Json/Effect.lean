/-
**What the patches of the library do to a document.**

Patches are built of two pieces: one extends a list, the other a map of texts.  Each is computed
from what stood at its place before the patch, and is carried out operation by operation; its
effect is one change of one member.  Operations below a member, or below an item of a list, act on
it as they would on a document of its own.

Main definitions:

* `Sidecar.Json.Operation.under`, `Sidecar.Json.Operation.WritesBelow` — an operation moved below a
  segment, and those that can be moved;
* `Sidecar.Json.grown` — the list under a name, its items changed, with new items behind them;
* `Sidecar.Json.merged` — the map under a name overridden by another.

Main results:

* `Sidecar.Json.Patch.run?_under_member`, `Sidecar.Json.Patch.run?_under_item` — a patch below a
  member or an item;
* `Sidecar.Json.Patch.run?_append_items` — **the first piece grows a list**;
* `Sidecar.Json.Patch.run?_mergeMap` — **the second overrides a map.**
-/

import Sidecar.Cluster.Pod
import Sidecar.Proofs.Json.Canonical
import Sidecar.Proofs.Json.Written

set_option autoImplicit false

namespace Sidecar.Json

open Cluster

/-! ### Operations below a segment -/

namespace Operation

/-- The operation on the child that the segment names. -/
def under (segment : String) : Operation → Operation
  | .add path value => .add (segment :: path) value
  | .remove path => .remove (segment :: path)
  | .replace path value => .replace (segment :: path) value
  | .move source path => .move (segment :: source) (segment :: path)
  | .copy source path => .copy (segment :: source) (segment :: path)
  | .test path value => .test (segment :: path) value

/-- The operation sets a value somewhere below the top of the document. -/
def WritesBelow : Operation → Prop
  | .add path _ => path ≠ []
  | .replace path _ => path ≠ []
  | _ => False

theorem WritesBelow.under {op : Operation} (h : op.WritesBelow) (segment : String) :
    (op.under segment).WritesBelow := by
  cases op with
  | add path value => exact List.cons_ne_nil _ _
  | replace path value => exact List.cons_ne_nil _ _
  | _ => exact h

/-- Below a segment a write changes the child that the segment names. -/
theorem run?_under {op : Operation} (h : op.WritesBelow) (segment : String) (json : Json) :
    (op.under segment).run? json
      = Pointer.updateChild? segment (fun child => op.run? child) json := by
  cases op with
  | add path value =>
      obtain ⟨first, rest, rfl⟩ := List.exists_cons_of_ne_nil h
      rfl
  | replace path value => rfl
  | _ => exact h.elim

end Operation

/-- Changing a member that is there. -/
theorem updateChild?_member {json child : Json} {name : String} (change : Json → Option Json)
    (h : json.member? name = some child) : Pointer.updateChild? name change json
      = (change child).map fun new => json.withMember name (some new) := by
  cases json with
  | obj members =>
      have hfind : Entries.find? name members = some child := h
      simp only [Pointer.updateChild?, hfind, Option.bind_eq_bind, Option.bind_some]
      cases change child <;> rfl
  | _ => cases h

/-- Changing an item that is there. -/
theorem updateChild?_item {items : List Json} {child : Json} {i : Nat}
    (change : Json → Option Json) (h : items[i]? = some child) :
    Pointer.updateChild? (toString i) change (.arr items)
      = (change child).map fun new => .arr (items.set i new) := by
  simp only [Pointer.updateChild?, Pointer.index?_toString, h, Option.bind_eq_bind,
    Option.bind_some]
  cases change child <;> rfl

namespace Patch

/-- The patch on the child that the segment names. -/
def under (segment : String) (patch : Patch) : Patch := patch.map (Operation.under segment)

/-- Each operation sets a value somewhere below the top of the document. -/
def WritesBelow (patch : Patch) : Prop := ∀ op ∈ patch, op.WritesBelow

theorem WritesBelow.under {patch : Patch} (h : patch.WritesBelow) (segment : String) :
    (patch.under segment).WritesBelow := by
  intro op hop
  obtain ⟨inner, hinner, rfl⟩ := List.mem_map.1 hop
  exact (h inner hinner).under segment

theorem WritesBelow.append {p q : Patch} (hp : p.WritesBelow) (hq : q.WritesBelow) :
    Patch.WritesBelow (p ++ q) := by
  intro op hop
  rcases List.mem_append.1 hop with hop | hop
  · exact hp op hop
  · exact hq op hop

theorem writesBelow_cons {op : Operation} {patch : Patch} :
    Patch.WritesBelow (op :: patch) ↔ op.WritesBelow ∧ patch.WritesBelow :=
  List.forall_mem_cons

/-- Two patches in turn, step by step. -/
theorem run?_append_of_eq_some {p q : Patch} {first next last : Json}
    (hp : run? p first = some next) (hq : run? q next = some last) :
    run? (p ++ q) first = some last := by
  rw [run?_append, hp, Option.bind_some, hq]

/-- A patch below a member does to it what it would do to a document of its own. -/
theorem run?_under_member {patch : Patch} (hw : patch.WritesBelow) {name : String} :
    ∀ {json child : Json}, json.member? name = some child →
      json.withMember name (some child) = json →
      (patch.under name).run? json
        = (patch.run? child).map fun new => json.withMember name (some new) := by
  induction patch with
  | nil =>
      intro json child _ hself
      exact congrArg some hself.symm
  | cons op patch ih =>
      intro json child hchild hself
      obtain ⟨hop, hrest⟩ := writesBelow_cons.1 hw
      have hunder : Patch.under name (op :: patch) = op.under name :: Patch.under name patch := rfl
      rw [hunder, run?_cons, run?_cons, Operation.run?_under hop, updateChild?_member _ hchild]
      cases op.run? child with
      | none => rfl
      | some next =>
          -- the child stands where it stood, as the first operation leaves it
          obtain ⟨members, rfl⟩ := exists_members_of_member? hchild
          have hnext := member?_withMember_self members name next
          have hself' := withMember_withMember (obj members) name (some next) next
          simp only [Option.map_some, Option.bind_some]
          rw [ih hrest hnext hself']
          simp only [withMember_withMember]

/-- Nothing can be written below a null. -/
theorem run?_null_of_writesBelow {op : Operation} (h : op.WritesBelow) : op.run? .null = none := by
  cases op with
  | add path value =>
      obtain ⟨first, rest, rfl⟩ := List.exists_cons_of_ne_nil h
      cases rest <;> rfl
  | replace path value =>
      obtain ⟨first, rest, rfl⟩ := List.exists_cons_of_ne_nil h
      rfl
  | _ => exact h.elim

/-- Nor below a member that is absent or null. -/
theorem run?_under_eq_none {patch : Patch} (hw : patch.WritesBelow) (hne : patch ≠ [])
    {members : List (String × Json)} {name : String}
    (hmember : (obj members).member? name = none ∨ (obj members).member? name = some .null) :
    (patch.under name).run? (.obj members) = none := by
  obtain ⟨op, rest, rfl⟩ := List.exists_cons_of_ne_nil hne
  have hop := (writesBelow_cons.1 hw).1
  have hunder : Patch.under name (op :: rest) = op.under name :: Patch.under name rest := rfl
  rw [hunder, run?_cons, Operation.run?_under hop]
  rcases hmember with hmember | hmember
  · have hfind : Entries.find? name members = none := hmember
    simp only [Pointer.updateChild?, hfind, Option.bind_eq_bind, Option.bind_none]
  · rw [updateChild?_member _ hmember, run?_null_of_writesBelow hop]
    rfl

/-- A patch below an item does to it what it would do to a document of its own. -/
theorem run?_under_item {patch : Patch} (hw : patch.WritesBelow) {i : Nat} :
    ∀ {items : List Json} {child : Json}, items[i]? = some child →
      (patch.under (toString i)).run? (.arr items)
        = (patch.run? child).map fun new => .arr (items.set i new) := by
  induction patch with
  | nil =>
      intro items child hchild
      obtain ⟨hi, rfl⟩ := List.getElem?_eq_some_iff.1 hchild
      exact congrArg (some ∘ arr) (List.set_getElem_self hi).symm
  | cons op patch ih =>
      intro items child hchild
      obtain ⟨hop, hrest⟩ := writesBelow_cons.1 hw
      have hunder : Patch.under (toString i) (op :: patch)
          = op.under (toString i) :: Patch.under (toString i) patch := rfl
      rw [hunder, run?_cons, run?_cons, Operation.run?_under hop, updateChild?_item _ hchild]
      cases op.run? child with
      | none => rfl
      | some next =>
          obtain ⟨hi, _⟩ := List.getElem?_eq_some_iff.1 hchild
          have hnext : (items.set i next)[i]? = some next := by simp [hi]
          simp only [Option.map_some, Option.bind_some]
          rw [ih hrest hnext]
          simp only [List.set_set]

end Patch

/-! ### Growing a list -/

/-- The list under the name, its items changed, with new items behind them.  Where there is no list
and no new item there is nothing to set. -/
def grown (name : String) (change : Json → Json) (new : List Json) (json : Json) : Option Json :=
  match json.member? name with
  | some (.arr items) => some (.arr (items.map change ++ new))
  | _ => if new.isEmpty then none else some (.arr new)

/-- A list that is there grows behind its items. -/
theorem grown_of_arr {name : String} {json : Json} {items : List Json}
    (h : json.member? name = some (.arr items)) (change : Json → Json) (new : List Json) :
    grown name change new json = some (.arr (items.map change ++ new)) := by
  rw [grown, h]

theorem grown_congr {json origin : Json} {name : String}
    (h : json.member? name = origin.member? name) (change : Json → Json) (new : List Json) :
    grown name change new json = grown name change new origin := by
  rw [grown, h]
  rfl

/-- A list that grows has canonical items if the new ones are, and the old ones as changed. -/
theorem isCanonicalMember_grown {name : String} {json : Json} {change : Json → Json}
    {new : List Json} (hc : json.IsCanonical)
    (hchange : ∀ x, x.IsCanonical → (change x).IsCanonical) (hnew : ∀ x ∈ new, x.IsCanonical) :
    IsCanonicalMember (grown name change new json) := by
  intro value hvalue
  unfold grown at hvalue
  split at hvalue
  · next items heq =>
    obtain rfl := Option.some.inj hvalue
    have hitems := isCanonical_arr_iff.1 (hc.member? heq)
    refine .arr fun x hx => ?_
    rcases List.mem_append.1 hx with hx | hx
    · obtain ⟨y, hy, rfl⟩ := List.mem_map.1 hx
      exact hchange y (hitems y hy)
    · exact hnew x hx
  · split at hvalue
    · cases hvalue
    · obtain rfl := Option.some.inj hvalue
      exact .arr hnew

/-- Without items there, the new ones are all. -/
theorem grown_of_items_eq_nil {name : String} {json : Json} (h : View.items name json = [])
    {new : List Json} (hne : new ≠ []) (change : Json → Json) :
    grown name change new json = some (.arr new) := by
  unfold View.items at h
  unfold grown
  split
  · next items heq =>
    rw [heq] at h
    simp only at h
    rw [h]
    rfl
  · rw [if_neg (by simpa using hne)]

/-- A list whose items have been changed has as many as before. -/
theorem length_items_grown {json : Json} (h : json.IsCanonicalObject) (name : String)
    (change : Json → Json) :
    (View.items name (json.withMember name (grown name change [] json))).length
      = (View.items name json).length := by
  obtain ⟨members, rfl⟩ := h.exists_members
  cases hmember : (obj members).member? name with
  | none => simp [grown, hmember]
  | some value =>
      cases value with
      | arr items =>
          rw [grown_of_arr hmember, View.items, member?_withMember_self, View.items, hmember]
          simp
      | _ => simp [grown, hmember]

/-- A list whose items have been changed grows as it would with the change. -/
theorem withMember_grown_grown {json : Json} (h : json.IsCanonicalObject) (name : String)
    (change : Json → Json) (new : List Json) :
    (json.withMember name (grown name change [] json)).withMember name
        (grown name id new (json.withMember name (grown name change [] json)))
      = json.withMember name (grown name change new json) := by
  obtain ⟨members, rfl⟩ := h.exists_members
  cases hmember : (obj members).member? name with
  | none => simp [grown, hmember]
  | some value =>
      cases value with
      | arr items =>
          rw [grown_of_arr hmember, grown_of_arr (member?_withMember_self _ _ _),
            withMember_withMember, grown_of_arr hmember]
          simp
      | _ => simp [grown, hmember]

/-- Items that are there are those of a list. -/
theorem member?_of_items_ne_nil {name : String} {json : Json} (h : View.items name json ≠ []) :
    json.member? name = some (.arr (View.items name json)) := by
  unfold View.items at h ⊢
  split
  · next items heq => exact heq
  · next hno =>
    exfalso
    revert h
    split
    · next items heq => exact absurd heq (hno items)
    · exact fun h => h rfl

namespace Patch

/-- Adding at the end of a list, item by item. -/
theorem run?_add_last (new items : List Json) :
    run? (new.map fun item => .add ["-"] item) (.arr items) = some (.arr (items ++ new)) := by
  induction new generalizing items with
  | nil => rw [List.append_nil]; rfl
  | cons item new ih =>
      have hadd : Operation.run? (.arr items) (.add ["-"] item) = some (.arr (items ++ [item])) :=
        rfl
      rw [List.map_cons, run?_cons, hadd, Option.bind_some, ih, List.append_assoc,
        List.singleton_append]

theorem writesBelow_append_items (name : String) (length : Nat) (new : List Json) :
    (append [name] length new).WritesBelow := by
  intro op hop
  unfold append at hop
  split at hop
  · cases hop
  · split at hop
    · obtain rfl := List.mem_singleton.1 hop
      exact List.cons_ne_nil _ _
    · obtain ⟨item, _, rfl⟩ := List.mem_map.1 hop
      exact List.cons_ne_nil _ _

/-- **The patch that appends grows the list**, computed from its length before the patch. -/
theorem run?_append_items {json : Json} (h : json.IsCanonicalObject) {name : String} {length : Nat}
    (hlength : (View.items name json).length = length) (new : List Json) :
    run? (append [name] length new) json = some (json.withMember name (grown name id new json)) := by
  have hc := h.isCanonical
  obtain ⟨members, rfl⟩ := h.exists_members
  unfold append
  split
  · next hempty =>
    obtain rfl := List.isEmpty_iff.1 hempty
    -- nothing is appended, and what is there stays
    unfold grown
    split
    · next items heq =>
      rw [List.map_id, List.append_nil, withMember_self hc heq]
      rfl
    · rfl
  · next hempty =>
    have hne : new ≠ [] := by simpa using hempty
    split
    · next hzero =>
      -- the whole list is set, over whatever stood there without being a list with items
      have hnone : View.items name (obj members) = [] :=
        List.length_eq_zero_iff.1 (hlength.trans hzero)
      rw [grown_of_items_eq_nil hnone hne]
      rfl
    · next hpos =>
      -- there is a list, and each new item goes to its end
      have hitems : View.items name (obj members) ≠ [] := by
        intro hnil
        rw [hnil] at hlength
        exact hpos hlength.symm
      have hmember := member?_of_items_ne_nil hitems
      have hunder : (new.map fun item => Operation.add ([name] ++ ["-"]) item)
          = Patch.under name (new.map fun item => .add ["-"] item) := by
        rw [Patch.under, List.map_map]
        rfl
      have hw : Patch.WritesBelow (new.map fun item => .add ["-"] item) := by
        intro op hop
        obtain ⟨item, _, rfl⟩ := List.mem_map.1 hop
        exact List.cons_ne_nil _ _
      rw [hunder, run?_under_member hw hmember (withMember_self hc hmember), run?_add_last,
        grown_of_arr hmember, List.map_id]
      rfl

end Patch

/-! ### Overriding a map -/

/-- The map under the name overridden by the entries wanted, if there are any. -/
def merged (name : String) (desired : StringMap) (json : Json) : Option Json :=
  if desired.isEmpty then none
  else some (stringMap (((View.map? name json).getD .empty).override desired))

theorem merged_congr {json origin : Json} {name : String}
    (h : json.member? name = origin.member? name) (desired : StringMap) :
    merged name desired json = merged name desired origin := by
  rw [merged, View.map?, h]
  rfl

theorem isCanonicalMember_merged (name : String) (desired : StringMap) (json : Json) :
    IsCanonicalMember (merged name desired json) := by
  intro value hvalue
  unfold merged at hvalue
  split at hvalue
  · cases hvalue
  · obtain rfl := Option.some.inj hvalue
    exact isCanonical_stringMap _

/-- An entry set in a map of texts. -/
theorem insert_stringMap (m : StringMap) (key text : String) :
    Entries.insert key (.str text) (m.entries.map fun e => (e.1, Json.str e.2))
      = (m.insert key text).entries.map fun e => (e.1, Json.str e.2) := by
  refine Entries.ext_find? (Entries.sorted_insert (m.sorted.map Json.str))
    ((m.insert key text).sorted.map Json.str) fun name => ?_
  rw [Entries.find?_insert, Entries.find?_map, Entries.find?_map]
  change _ = Option.map Json.str ((m.insert key text).find? name)
  rw [StringMap.find?_insert]
  split <;> rfl

namespace Patch

/-- The operations that bring one entry into the map that holds `existing`. -/
def mergeEntry (existing : StringMap) (entry : String × String) : Patch :=
  match existing.find? entry.1 with
  | none => [.add [entry.1] (.str entry.2)]
  | some current => if current = entry.2 then [] else [.replace [entry.1] (.str entry.2)]

theorem writesBelow_mergeEntry (existing : StringMap) (entry : String × String) :
    (mergeEntry existing entry).WritesBelow := by
  intro op hop
  unfold mergeEntry at hop
  split at hop
  · obtain rfl := List.mem_singleton.1 hop
    exact List.cons_ne_nil _ _
  · split at hop
    · cases hop
    · obtain rfl := List.mem_singleton.1 hop
      exact List.cons_ne_nil _ _

/-- Bringing in one entry sets it, whatever the map has become elsewhere. -/
theorem run?_mergeEntry {existing now : StringMap} {entry : String × String}
    (h : now.find? entry.1 = existing.find? entry.1) :
    run? (mergeEntry existing entry) (stringMap now)
      = some (stringMap (now.insert entry.1 entry.2)) := by
  have hfind : Entries.find? entry.1 (now.entries.map fun e => (e.1, Json.str e.2))
      = (existing.find? entry.1).map .str := by
    rw [Entries.find?_map, ← h]
    rfl
  have hset : stringMap (now.insert entry.1 entry.2)
      = .obj (Entries.insert entry.1 (.str entry.2)
        (now.entries.map fun e => (e.1, Json.str e.2))) := by
    rw [insert_stringMap]
    rfl
  unfold mergeEntry
  split
  · rw [hset]
    rfl
  · next current hcurrent =>
    split
    · next heq =>
      -- the entry is there already
      have hself : now.insert entry.1 entry.2 = now := by
        refine StringMap.ext_find? fun name => ?_
        rw [StringMap.find?_insert]
        split
        · next hname => rw [← hname, h, hcurrent, heq]
        · rfl
      rw [hself]
      rfl
    · rw [hset, run?_cons]
      have hupdate : Operation.run? (stringMap now) (.replace [entry.1] (.str entry.2))
          = some (.obj (Entries.insert entry.1 (.str entry.2)
            (now.entries.map fun e => (e.1, Json.str e.2)))) := by
        simp only [Operation.run?, Operation.replaceAt?, stringMap, Pointer.updateChild?]
        rw [hfind, hcurrent]
        rfl
      rw [hupdate]
      rfl

/-- Entries of different names come in one by one. -/
theorem run?_flatMap_mergeEntry {existing : StringMap} {entries : List (String × String)}
    (hsorted : Entries.Sorted entries) {now : StringMap}
    (h : ∀ e ∈ entries, now.find? e.1 = existing.find? e.1) :
    run? (entries.flatMap (mergeEntry existing)) (stringMap now)
      = some (stringMap ⟨Entries.override now.entries entries,
          Entries.sorted_override now.sorted⟩) := by
  induction entries generalizing now with
  | nil => rfl
  | cons entry entries ih =>
      -- the names ascend, so the entry set now is none of those still to come
      obtain ⟨hfirst, hrest⟩ := List.pairwise_cons.1 hsorted
      have hnext : ∀ e ∈ entries, (now.insert entry.1 entry.2).find? e.1 = existing.find? e.1 := by
        intro e he
        rw [StringMap.find?_insert, if_neg]
        · exact h e (List.mem_cons_of_mem _ he)
        · intro heq
          exact String.lt_irrefl e.1 (heq ▸ hfirst e he)
      rw [List.flatMap_cons, run?_append, run?_mergeEntry (h entry (List.mem_cons_self ..)),
        Option.bind_some, ih hrest hnext]
      rfl

/-- Into a map that is not empty entries are brought one by one. -/
theorem mergeMap_of_populated {existing desired : StringMap} (hd : desired.isEmpty = false)
    (he : existing.isEmpty = false) (name : String) :
    mergeMap [name] (some existing) desired
      = Patch.under name (desired.entries.flatMap (mergeEntry existing)) := by
  unfold mergeMap
  rw [if_neg (Bool.eq_false_iff.1 hd)]
  simp only
  rw [if_neg (Bool.eq_false_iff.1 he), Patch.under, List.map_flatMap]
  congr 1
  funext entry
  cases hfind : existing.find? entry.1 with
  | none => simp only [mergeEntry, hfind]; rfl
  | some current =>
      simp only [mergeEntry, hfind]
      split <;> rfl

theorem writesBelow_flatMap_mergeEntry (existing : StringMap) (entries : List (String × String)) :
    Patch.WritesBelow (entries.flatMap (mergeEntry existing)) := by
  intro op hop
  obtain ⟨entry, _, hop⟩ := List.mem_flatMap.1 hop
  exact writesBelow_mergeEntry existing entry op hop

theorem writesBelow_mergeMap (name : String) (existing : Option StringMap) (desired : StringMap) :
    (mergeMap [name] existing desired).WritesBelow := by
  have hset : Patch.WritesBelow [.add [name] (.stringMap desired)] :=
    writesBelow_cons.2 ⟨List.cons_ne_nil _ _, fun _ h => by cases h⟩
  cases hd : desired.isEmpty with
  | true =>
      unfold mergeMap
      rw [if_pos hd]
      exact fun _ h => by cases h
  | false =>
      cases existing with
      | none =>
          rw [mergeMap, if_neg (Bool.eq_false_iff.1 hd)]
          exact hset
      | some existing =>
          cases he : existing.isEmpty with
          | true =>
              rw [mergeMap, if_neg (Bool.eq_false_iff.1 hd)]
              simp only [he, if_true]
              exact hset
          | false =>
              rw [mergeMap_of_populated hd he]
              exact (writesBelow_flatMap_mergeEntry existing _).under name

/-- **The patch that merges overrides the map**, computed from what it held before the patch. -/
theorem run?_mergeMap {json : Json} (h : json.IsCanonicalObject) {name : String}
    (hmap : ∀ m, View.map? name json = some m → json.member? name = some (stringMap m))
    (desired : StringMap) :
    run? (mergeMap [name] (View.map? name json) desired) json
      = some (json.withMember name (merged name desired json)) := by
  have hc := h.isCanonical
  obtain ⟨members, rfl⟩ := h.exists_members
  cases hd : desired.isEmpty with
  | true =>
      unfold mergeMap
      rw [if_pos hd, merged, if_pos hd]
      rfl
  | false =>
      rw [merged, if_neg (Bool.eq_false_iff.1 hd)]
      cases hview : View.map? name (obj members) with
      | none =>
          rw [mergeMap, if_neg (Bool.eq_false_iff.1 hd), Option.getD_none,
            StringMap.override_eq_of_isEmpty rfl]
          rfl
      | some existing =>
          rw [Option.getD_some]
          cases he : existing.isEmpty with
          | true =>
              -- an empty map is set as a whole, like an absent one
              have hset : mergeMap [name] (some existing) desired
                  = [.add [name] (.stringMap desired)] := by
                rw [mergeMap, if_neg (Bool.eq_false_iff.1 hd)]
                exact if_pos he
              rw [hset, StringMap.override_eq_of_isEmpty he]
              rfl
          | false =>
              have hw := writesBelow_flatMap_mergeEntry existing desired.entries
              have hmember := hmap existing hview
              rw [mergeMap_of_populated hd he, run?_under_member hw hmember
                (withMember_self hc hmember), run?_flatMap_mergeEntry desired.sorted fun _ _ => rfl]
              rfl

end Patch

end Sidecar.Json
