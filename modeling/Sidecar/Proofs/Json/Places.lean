/-
**The patches of the library at any place of a document.**

A list is extended and a map overridden by operations below the place where it stands, or by one
operation that sets it as a whole; which of them a patch is made of depends on what stood there
before.  Either way the document changes as if one value had been put at the place, however deep the
place is and whatever the segments on the way to it hold, and nothing changes at any place apart
from it.

Main definitions:

* `Sidecar.Json.Pointer.put` — the document with a value at a place;
* `Sidecar.Json.Pointer.Apart`, `Sidecar.Json.Pointer.Reachable` — places of which none holds the
  other, and places where a value can be put;
* `Sidecar.Json.HoldsItems`, `Sidecar.Json.HoldsMap` — the list and the map of texts at a place;
* `Sidecar.Json.PutAt`, `Sidecar.Json.Patch.Achieves` — what becomes of a document by a value put
  at a place, and by a patch.

Main results:

* `Sidecar.Json.Pointer.index?_eq_some_iff` — a position has one written form;
* `Sidecar.Json.Pointer.get?_put`, `Sidecar.Json.Pointer.get?_put_of_apart` — what is found after a
  value has been put;
* `Sidecar.Json.Patch.run?_below` — a patch below a place;
* `Sidecar.Json.Patch.run?_append_at`, `Sidecar.Json.Patch.run?_mergeMap_at` — the two patches as
  one value put at a place;
* `Sidecar.Json.Patch.put_by_append_and_mergeMap` — **the two patches do what the plain updates
  do**.
-/

import Sidecar.Proofs.Cluster.Accepted
import Sidecar.Proofs.Injection.Operations
import Sidecar.Proofs.Injection.Pointers

set_option autoImplicit false

namespace Sidecar.Json

open Cluster

namespace Pointer

/-! ### Positions in a list -/

/-- A digit is that of its value. -/
theorem digitChar_of_isDigit {c : Char} (h : c.isDigit = true) :
    c.toNat - '0'.toNat < 10 ∧ Nat.digitChar (c.toNat - '0'.toNat) = c := by
  have hrange : 48 ≤ c.toNat ∧ c.toNat ≤ 57 := by
    simp only [Char.isDigit, Bool.and_eq_true, decide_eq_true_eq] at h
    exact h
  have hzero : '0'.toNat = 48 := rfl
  refine ⟨by omega, Char.toNat_inj.1 ?_⟩
  rw [Nat.toNat_digitChar_of_lt_ten (by omega)]
  omega

/-- Digits without a zero before them are those of the number that they write. -/
theorem toDigits_ofDigitChars {cs : List Char} (hne : cs ≠ []) (hzero : cs.head? ≠ some '0')
    (hdigits : ∀ c ∈ cs, c.isDigit = true) :
    Nat.toDigits 10 (Nat.ofDigitChars 10 cs 0) = cs := by
  induction cs using List.reverseRecOn with
  | nil => exact absurd rfl hne
  | append_singleton cs c ih =>
      obtain ⟨hlt, hc⟩ := digitChar_of_isDigit (hdigits c (by simp))
      have hlast : Nat.toDigits 10 (c.toNat - '0'.toNat) = [c] := by
        rw [Nat.toDigits_of_lt_base hlt, hc]
      rw [Nat.ofDigitChars_append, Nat.ofDigitChars_cons, Nat.ofDigitChars_nil]
      cases cs with
      | nil => simpa using hlast
      | cons d ds =>
          have hrest := ih (by simp) hzero fun x hx => hdigits x (List.mem_append_left _ hx)
          -- the number before the last digit is not zero, since it does not start with one
          have hpos : 0 < Nat.ofDigitChars 10 (d :: ds) 0 := by
            refine Nat.pos_of_ne_zero fun hnone => ?_
            rw [hnone, Nat.toDigits_zero] at hrest
            exact hzero (by rw [← hrest]; rfl)
          rw [← Nat.toDigits_append_toDigits (by decide) hpos hlt, hrest, hlast]

/-- **A position has one written form.** -/
theorem index?_eq_some_iff {segment : String} {n : Nat} :
    index? segment = some n ↔ segment = toString n := by
  constructor
  · intro h
    have hdigits : segment.toList = Nat.toDigits 10 n := by
      unfold index? at h
      split at h
      · cases h
      · next hcs =>
        obtain rfl := Option.some.inj h
        rw [hcs, Nat.toDigits_zero]
      · cases h
      · next hne hone hzero =>
        split at h
        · next hall =>
          obtain rfl := Option.some.inj h
          refine (toDigits_ofDigitChars hne (fun hhead => ?_) (by simpa using hall)).symm
          obtain ⟨rest, hcs⟩ := List.head?_eq_some_iff.1 hhead
          exact hzero rest hcs
        · cases h
    rw [Nat.toString_eq_repr, Nat.repr_eq_ofList_toDigits, ← hdigits, String.ofList_toList]
  · rintro rfl
    exact index?_toString n

/-! ### A value at a place -/

/-- The document with the value as the child at the segment: a member of an object is set, and an
item of a list that is there. -/
def putChild (segment : String) (value : Json) : Json → Json
  | .obj members => .obj (Entries.insert segment value members)
  | .arr items =>
    match index? segment with
    | some i => .arr (items.set i value)
    | none => .arr items
  | json => json

/-- **The document with the value at the place**, all the way to which is there. -/
def put (value : Json) : Pointer → Json → Json
  | [], _ => value
  | segment :: rest, json =>
    putChild segment (put value rest ((child? segment json).getD .null)) json

/-- Neither of two places is the other, or holds it. -/
def Apart (p q : Pointer) : Prop :=
  ¬ p <+: q ∧ ¬ q <+: p

/-- A value can be put at the place: it is the whole document, or a member of an object that is
there, whether or not the object has the member. -/
def Reachable (place : Pointer) (json : Json) : Prop :=
  place = [] ∨ ∃ above name members, place = above ++ [name] ∧ get? above json = some (.obj members)

@[simp] theorem put_nil (value json : Json) : put value [] json = value := rfl

theorem put_cons (value : Json) (segment : String) (rest : Pointer) (json : Json) :
    put value (segment :: rest) json
      = putChild segment (put value rest ((child? segment json).getD .null)) json := rfl

theorem get?_append (p q : Pointer) (json : Json) :
    get? (p ++ q) json = (get? p json).bind (get? q) := by
  induction p generalizing json with
  | nil => rfl
  | cons segment p ih =>
      rw [List.cons_append, get?_cons, get?_cons, Option.bind_assoc]
      congr 1
      funext child
      exact ih child

/-- What stands at a member of an object that stands somewhere. -/
theorem get?_concat {above : Pointer} {json : Json} {members : List (String × Json)}
    (h : get? above json = some (.obj members)) (name : String) :
    get? (above ++ [name]) json = (obj members).member? name := by
  rw [get?_append, h, Option.bind_some]
  exact Option.bind_fun_some _

section Child

variable {segment other : String} {json child : Json} (value : Json)

/-- A child that is there is what it was set to. -/
theorem child?_putChild (h : child? segment json = some child) :
    child? segment (putChild segment value json) = some value := by
  cases json with
  | obj members => rw [putChild, child?, Entries.find?_insert, if_pos rfl]
  | arr items =>
      obtain ⟨i, hi, hitem⟩ := Option.bind_eq_some_iff.1 h
      obtain ⟨hlt, _⟩ := List.getElem?_eq_some_iff.1 hitem
      simp only [putChild, child?, hi, Option.bind_some]
      exact List.getElem?_set_self hlt
  | _ => cases h

/-- If the child is not there, a place below it that the value does not have holds nothing
afterwards either. -/
theorem get?_child?_putChild_of_eq_none (h : child? segment json = none) {rest : Pointer}
    (hvalue : get? rest value = none) :
    (child? segment (putChild segment value json)).bind (get? rest) = none := by
  cases json with
  | obj members =>
      rw [putChild, child?, Entries.find?_insert, if_pos rfl, Option.bind_some, hvalue]
  | arr items =>
      rw [child?] at h
      cases hi : index? segment with
      | none => simp [putChild, child?, hi]
      | some i =>
          rw [hi, Option.bind_some, List.getElem?_eq_none_iff] at h
          simp [putChild, child?, hi, h]
  | _ => rfl

/-- Setting one child leaves the others alone. -/
theorem child?_putChild_of_ne (h : segment ≠ other) :
    child? other (putChild segment value json) = child? other json := by
  cases json with
  | obj members => rw [putChild, child?, Entries.find?_insert, if_neg h, child?]
  | arr items =>
      cases hi : index? segment with
      | none => simp [putChild, hi]
      | some i =>
          cases hj : index? other with
          | none => simp [putChild, child?, hi, hj]
          | some j =>
              -- two segments that name one position are one
              have hne : i ≠ j := by
                rintro rfl
                exact h ((index?_eq_some_iff.1 hi).trans (index?_eq_some_iff.1 hj).symm)
              simp only [putChild, child?, hi, hj, Option.bind_some]
              exact List.getElem?_set_ne hne
  | _ => rfl

end Child

/-- Below a value that has no children nothing is found. -/
theorem get?_null_eq_none {place : Pointer} (h : place ≠ []) : get? place .null = none := by
  obtain ⟨segment, rest, rfl⟩ := List.exists_cons_of_ne_nil h
  rfl

/-- A value put below a value that is there is put there. -/
theorem put_append {p q : Pointer} {json child : Json} (h : get? p json = some child)
    (value : Json) : put value (p ++ q) json = put (put value q child) p json := by
  induction p generalizing json with
  | nil =>
      obtain rfl := Option.some.inj h
      rfl
  | cons segment p ih =>
      obtain ⟨next, hnext, hrest⟩ := Option.bind_eq_some_iff.1 h
      rw [List.cons_append, put_cons, put_cons, hnext, Option.getD_some, ih hrest]

/-- A value that was put at a place that is there is found there. -/
theorem get?_put_of_get? {place : Pointer} {json child : Json} (h : get? place json = some child)
    (value : Json) : get? place (put value place json) = some value := by
  induction place generalizing json with
  | nil => rfl
  | cons segment place ih =>
      obtain ⟨next, hnext, hrest⟩ := Option.bind_eq_some_iff.1 h
      rw [put_cons, get?_cons, child?_putChild _ hnext, Option.bind_some, hnext, Option.getD_some]
      exact ih hrest

/-- **A value that was put is found at its place.** -/
theorem get?_put {place : Pointer} {json : Json} (h : place.Reachable json) (value : Json) :
    get? place (put value place json) = some value := by
  rcases h with rfl | ⟨above, name, members, rfl, habove⟩
  · rfl
  · rw [put_append habove, get?_append, get?_put_of_get? habove, Option.bind_some, put_cons,
      put_nil, get?_cons, putChild, child?, Entries.find?_insert, if_pos rfl]
    rfl

/-- **At a place apart from it nothing changes.** -/
theorem get?_put_of_apart {place base : Pointer} (h : Apart base place) (value json : Json) :
    get? place (put value base json) = get? place json := by
  induction base generalizing place json with
  | nil => exact absurd List.nil_prefix h.1
  | cons segment base ih =>
      cases place with
      | nil => exact absurd List.nil_prefix h.2
      | cons other place =>
          rw [put_cons, get?_cons, get?_cons]
          by_cases heq : segment = other
          · subst heq
            have hrest : Apart base place :=
              ⟨fun hp => h.1 (List.cons_prefix_cons.2 ⟨rfl, hp⟩),
                fun hp => h.2 (List.cons_prefix_cons.2 ⟨rfl, hp⟩)⟩
            cases hchild : child? segment json with
            | some child =>
                rw [child?_putChild _ hchild, Option.bind_some, Option.bind_some, Option.getD_some]
                exact ih hrest child
            | none =>
                have hne : place ≠ [] := fun hnil => hrest.2 (hnil ▸ List.nil_prefix)
                refine get?_child?_putChild_of_eq_none _ hchild ?_
                rw [Option.getD_none, ih hrest, get?_null_eq_none hne]
          · rw [child?_putChild_of_ne _ heq]

end Pointer

open Pointer

/-! ### Patches below a place -/

namespace Patch

/-- The patch on what stands at the place. -/
def below (base : Pointer) (patch : Patch) : Patch := base.foldr under patch

theorem WritesBelow.below {patch : Patch} (h : patch.WritesBelow) (base : Pointer) :
    (patch.below base).WritesBelow := by
  induction base with
  | nil => exact h
  | cons segment base ih => exact ih.under segment

/-- Appending below a place. -/
theorem below_append (base place : Pointer) (length : Nat) (items : List Json) :
    below base (append place length items) = append (base ++ place) length items := by
  induction base with
  | nil => rfl
  | cons segment base ih =>
      rw [below, List.foldr_cons, ← below, ih, under_append, List.cons_append]

/-- Merging below a place. -/
theorem below_mergeMap (base place : Pointer) (existing : Option StringMap)
    (desired : StringMap) :
    below base (mergeMap place existing desired) = mergeMap (base ++ place) existing desired := by
  induction base with
  | nil => rfl
  | cons segment base ih =>
      rw [below, List.foldr_cons, ← below, ih, under_mergeMap, List.cons_append]

/-- A patch below a segment changes the child that is there. -/
theorem run?_under_child {patch : Patch} (hw : patch.WritesBelow) {json child : Json}
    (hc : json.IsCanonical) {segment : String} (h : child? segment json = some child) :
    (patch.under segment).run? json
      = (patch.run? child).map fun new => putChild segment new json := by
  cases json with
  | obj members => exact run?_under_member hw h (withMember_self hc h)
  | arr items =>
      obtain ⟨i, hi, hitem⟩ := Option.bind_eq_some_iff.1 h
      obtain rfl := index?_eq_some_iff.1 hi
      rw [run?_under_item hw hitem]
      simp only [putChild, hi]
  | _ => cases h

end Patch

/-- What a place holds of a canonical document is canonical. -/
theorem IsCanonical.child? {json child : Json} (hc : json.IsCanonical) {segment : String}
    (h : child? segment json = some child) : child.IsCanonical := by
  cases json with
  | obj members => exact hc.member? h
  | arr items =>
      obtain ⟨i, _, hitem⟩ := Option.bind_eq_some_iff.1 h
      exact isCanonical_arr_iff.1 hc _ (List.mem_of_getElem? hitem)
  | _ => cases h

theorem IsCanonical.get? {json child : Json} (hc : json.IsCanonical) {place : Pointer}
    (h : get? place json = some child) : child.IsCanonical := by
  induction place generalizing json with
  | nil =>
      obtain rfl := Option.some.inj h
      exact hc
  | cons segment place ih =>
      obtain ⟨next, hnext, hrest⟩ := Option.bind_eq_some_iff.1 h
      exact ih (hc.child? hnext) hrest

namespace Patch

/-- **A patch below a place changes what stands there** as it would change a document of its own. -/
theorem run?_below {patch : Patch} (hw : patch.WritesBelow) {base : Pointer} {json child : Json}
    (hc : json.IsCanonical) (h : get? base json = some child) :
    (patch.below base).run? json = (patch.run? child).map fun new => put new base json := by
  induction base generalizing json with
  | nil =>
      obtain rfl := Option.some.inj h
      exact Option.map_id'.symm
  | cons segment base ih =>
      obtain ⟨next, hnext, hrest⟩ := Option.bind_eq_some_iff.1 h
      have hbelow : below (segment :: base) patch = under segment (below base patch) := rfl
      rw [hbelow, run?_under_child (hw.below base) hc hnext, ih (hc.child? hnext) hrest,
        Option.map_map]
      simp only [Function.comp_def, put_cons, hnext, Option.getD_some]

/-- A patch that sets one member of an object that stands somewhere puts the value there. -/
theorem run?_below_member {patch : Patch} (hw : patch.WritesBelow) {above : Pointer} {json : Json}
    (hc : json.IsCanonical) {members : List (String × Json)}
    (habove : get? above json = some (.obj members)) {name : String} {value : Json}
    (hrun : patch.run? (.obj members) = some ((obj members).withMember name (some value))) :
    (patch.below above).run? json = some (put value (above ++ [name]) json) := by
  rw [run?_below hw hc habove, hrun, Option.map_some, put_append habove]
  rfl

end Patch

/-! ### Lists -/

/-- The list at the place has the items; one that is absent or null has none. -/
def HoldsItems (json : Json) (place : Pointer) (items : List Json) : Prop :=
  get? place json = some (.arr items)
    ∨ (get? place json = none ∨ get? place json = some .null) ∧ items = []

/-- The map of texts at the place, which may be absent or null. -/
def HoldsMap (json : Json) (place : Pointer) : Option StringMap → Prop
  | some m => get? place json = some (.stringMap m)
  | none => get? place json = none ∨ get? place json = some .null

namespace Patch

/-- **The patch that appends puts the longer list at its place.** -/
theorem run?_append_at {json : Json} (hc : json.IsCanonical) {base : Pointer}
    (hbase : base.Reachable json) {items : List Json} (hitems : HoldsItems json base items)
    {new : List Json} (hne : new ≠ []) :
    (append base items.length new).run? json = some (put (.arr (items ++ new)) base json) := by
  rcases hbase with rfl | ⟨above, name, members, rfl, habove⟩
  · -- the document itself is the list, or null
    have hdocument : json = .arr items ∨ items = [] := by
      rcases hitems with h | ⟨_, h⟩
      · exact .inl (Option.some.inj h)
      · exact .inr h
    unfold append
    rw [if_neg (by simpa using hne), put_nil]
    split
    · next hzero =>
      rw [List.length_eq_zero_iff.1 hzero]
      rfl
    · next hpos =>
      rcases hdocument with rfl | rfl
      · exact run?_add_last new items
      · exact absurd rfl hpos
  · have hmember := get?_concat habove name
    have hgrown : View.items name (obj members) = items
        ∧ grown name id new (obj members) = some (.arr (items ++ new)) := by
      rcases hitems with h | ⟨h, rfl⟩
      · rw [hmember] at h
        exact ⟨by rw [View.items, h], by rw [grown_of_arr h, List.map_id]⟩
      · have hview : View.items name (obj members) = [] := by
          rw [hmember] at h
          rcases h with h | h <;> rw [View.items, h]
        exact ⟨hview, grown_of_items_eq_nil hview hne id⟩
    have hrun := run?_append_items ⟨hc.get? habove, members, rfl⟩
      (congrArg List.length hgrown.1) new
    rw [hgrown.2] at hrun
    rw [← below_append]
    exact run?_below_member (writesBelow_append_items _ _ _) hc habove hrun

/-! ### Maps -/

/-- **The patch that merges puts the overridden map at its place.** -/
theorem run?_mergeMap_at {json : Json} (hc : json.IsCanonical) {base : Pointer}
    (hbase : base.Reachable json) {existing : Option StringMap}
    (hmap : HoldsMap json base existing) {desired : StringMap} (hd : desired.isEmpty = false) :
    (mergeMap base existing desired).run? json
      = some (put (.stringMap ((existing.getD .empty).override desired)) base json) := by
  have hset : ∀ m : StringMap, m.isEmpty = true → m.override desired = desired :=
    fun m hm => StringMap.override_eq_of_isEmpty hm desired
  rcases hbase with rfl | ⟨above, name, members, rfl, habove⟩
  · -- the document itself is the map, or null
    rw [put_nil]
    cases existing with
    | none =>
        rw [mergeMap, if_neg (Bool.eq_false_iff.1 hd), Option.getD_none, hset .empty rfl]
        rfl
    | some m =>
        obtain rfl : json = .stringMap m := Option.some.inj hmap
        rw [Option.getD_some]
        cases hm : m.isEmpty with
        | true =>
            rw [mergeMap, if_neg (Bool.eq_false_iff.1 hd), hset m hm]
            simp only [hm, if_true]
            rfl
        | false =>
            have hentries : mergeMap [] (some m) desired
                = desired.entries.flatMap (mergeEntry m) := by
              rw [mergeMap, if_neg (Bool.eq_false_iff.1 hd)]
              simp only [hm, Bool.false_eq_true, if_false, List.nil_append]
              rfl
            rw [hentries, run?_flatMap_mergeEntry desired.sorted fun _ _ => rfl]
            rfl
  · have hmember := get?_concat habove name
    have hview : View.map? name (obj members) = existing := by
      cases existing with
      | some m => exact View.map?_of_member? (hmember.symm.trans hmap)
      | none =>
          rcases hmap with h | h <;> rw [hmember] at h <;> rw [View.map?, h]
    have hrun := run?_mergeMap ⟨hc.get? habove, members, rfl⟩ (fun m hm => by
      obtain rfl : existing = some m := hview.symm.trans hm
      exact hmember.symm.trans hmap) desired
    rw [hview, merged, if_neg (Bool.eq_false_iff.1 hd), hview] at hrun
    rw [← below_mergeMap]
    exact run?_below_member (writesBelow_mergeMap _ _ _) hc habove hrun

/-- Into a map that is not empty an operation brings each entry that the map lacks, in turn, and
there is none for an entry that it has. -/
theorem pointers_mergeMap (base : Pointer) {m : StringMap} (hm : m.isEmpty = false)
    (desired : StringMap) :
    (mergeMap base (some m) desired).flatMap Operation.pointers
      = (desired.entries.filter fun e => m.find? e.1 ≠ some e.2).map fun e => base ++ [e.1] := by
  cases hd : desired.isEmpty with
  | true =>
      rw [mergeMap, if_pos hd, List.isEmpty_iff.1 hd]
      rfl
  | false =>
      rw [mergeMap, if_neg (Bool.eq_false_iff.1 hd)]
      simp only [hm, Bool.false_eq_true, if_false]
      induction desired.entries with
      | nil => rfl
      | cons e entries ih =>
          rw [List.flatMap_cons, List.flatMap_append, ih]
          cases hfind : m.find? e.1 with
          | none => simp [hfind, Operation.pointers]
          | some current =>
              by_cases hsame : current = e.2 <;> simp [hfind, hsame, Operation.pointers]

end Patch

/-! ### Plain updates -/

/-- `after` is the document with the value put at the place: it is found there, and at every place
apart from it there is what there was. -/
structure PutAt (place : Pointer) (value before after : Json) : Prop where
  eq : after = put value place before
  here : get? place after = some value
  elsewhere : ∀ other, Apart place other → get? other after = get? other before

theorem putAt_put {place : Pointer} {before : Json} (h : place.Reachable before) (value : Json) :
    PutAt place value before (put value place before) :=
  ⟨rfl, get?_put h value, fun _ hother => get?_put_of_apart hother value before⟩

namespace Patch

/-- The patch, written and read back, applies to the document and leaves `after`. -/
def Achieves (patch : Patch) (before after : Json) : Prop :=
  ∃ read, Patch.ofJson? patch.toJson = some read ∧ read.run? before = some after

theorem achieves_of_run? {patch : Patch} {before after : Json}
    (h : patch.run? before = some after) : patch.Achieves before after :=
  ⟨patch, ofJson?_toJson patch, h⟩

/-- **The two patches do what the plain updates do.**  Let the objects of a document have their
members in order and each name once, as those have that are read, and let a place be the whole
document or a member of an object that is there, whatever the segments on the way to it hold.  If it
holds a list, which has no items if it is absent or null, the patch that appends to it applies, also
after it has been written and read back, and puts the list with the new items behind the old at the
place.  If it holds a map of texts, or is absent or null, the patch that merges into it applies
likewise and puts the map overridden by the entries wanted at the place; in a map that is not empty
it has an operation for each entry that the map lacks and for no other.  At all places apart from it
the document stays as it was.  There is no operation if there is no item to append and no entry to
bring in. -/
theorem put_by_append_and_mergeMap {json : Json} (hc : json.IsCanonical) {base : Pointer}
    (hbase : base.Reachable json) :
    (∀ items, HoldsItems json base items →
      append base items.length [] = []
        ∧ ∀ new, new ≠ [] → ∃ after, (append base items.length new).Achieves json after
          ∧ PutAt base (.arr (items ++ new)) json after)
      ∧ ∀ existing, HoldsMap json base existing → ∀ desired : StringMap,
        (desired.isEmpty = true → mergeMap base existing desired = [])
          ∧ (desired.isEmpty = false → ∃ after, (mergeMap base existing desired).Achieves json after
            ∧ PutAt base (.stringMap ((existing.getD .empty).override desired)) json after)
          ∧ ∀ m, existing = some m → m.isEmpty = false →
            (mergeMap base existing desired).flatMap Operation.pointers
              = (desired.entries.filter fun e => m.find? e.1 ≠ some e.2).map
                fun e => base ++ [e.1] := by
  refine ⟨fun items hitems => ⟨append_nil_items _ _, fun new hne => ?_⟩,
    fun existing hmap desired => ⟨fun hd => ?_, fun hd => ?_, ?_⟩⟩
  · exact ⟨_, achieves_of_run? (run?_append_at hc hbase hitems hne), putAt_put hbase _⟩
  · unfold mergeMap
    rw [if_pos hd]
  · exact ⟨_, achieves_of_run? (run?_mergeMap_at hc hbase hmap hd), putAt_put hbase _⟩
  · rintro m rfl hm
    exact pointers_mergeMap base hm desired

/-- A document with a list and a map below an item of a list. -/
def nestedDocument : Json :=
  .obj [("a/b", .arr [.obj [("-", .arr [.str "p"]), ("~", .obj [("x", .str "1"), ("y", .str "2")])]])]

/-- A list that stands under a hyphen, in an item of a list under a name with a slash, gets two more
items, and the map beside it a name that is a slash and another value for the second of its names. -/
theorem put_by_append_and_mergeMap_nested :
    (∃ after, (append ["a/b", "0", "-"] 1 [.null, .str "q"]).Achieves nestedDocument after
        ∧ get? ["a/b", "0", "-"] after = some (.arr [.str "p", .null, .str "q"])
        ∧ get? ["a/b", "0", "~", "x"] after = some (.str "1"))
      ∧ ∃ after, (mergeMap ["a/b", "0", "~"] (some (.ofList [("x", "1"), ("y", "2")]))
            (.ofList [("/", "3"), ("x", "1"), ("y", "4")])).Achieves nestedDocument after
        ∧ get? ["a/b", "0", "~"] after
          = some (.stringMap (.ofList [("/", "3"), ("x", "1"), ("y", "4")]))
        ∧ get? ["a/b", "0", "-"] after = some (.arr [.str "p"])
        ∧ (mergeMap ["a/b", "0", "~"] (some (.ofList [("x", "1"), ("y", "2")]))
            (.ofList [("/", "3"), ("x", "1"), ("y", "4")])).flatMap Operation.pointers
          = [["a/b", "0", "~", "/"], ["a/b", "0", "~", "y"]] := by
  have hc : nestedDocument.IsCanonical := isCanonical_canonical nestedDocument
  have hapart : Apart ["a/b", "0", "-"] ["a/b", "0", "~", "x"]
      ∧ Apart ["a/b", "0", "~"] ["a/b", "0", "-"] := by
    simp [Apart]
  have hlist : Reachable ["a/b", "0", "-"] nestedDocument :=
    .inr ⟨["a/b", "0"], "-", _, rfl, rfl⟩
  have hmap : Reachable ["a/b", "0", "~"] nestedDocument :=
    .inr ⟨["a/b", "0"], "~", _, rfl, rfl⟩
  constructor
  · obtain ⟨_, happend⟩ := (put_by_append_and_mergeMap hc hlist).1 [.str "p"] (.inl rfl)
    obtain ⟨after, hachieves, hput⟩ := happend [.null, .str "q"] (by simp)
    exact ⟨after, hachieves, hput.here, hput.elsewhere _ hapart.1⟩
  · obtain ⟨_, hmerge, hpointers⟩ := (put_by_append_and_mergeMap hc hmap).2
      (some (.ofList [("x", "1"), ("y", "2")])) rfl (.ofList [("/", "3"), ("x", "1"), ("y", "4")])
    obtain ⟨after, hachieves, hput⟩ := hmerge rfl
    exact ⟨after, hachieves, hput.here, hput.elsewhere _ hapart.2, hpointers _ rfl rfl⟩

end Patch

end Sidecar.Json
