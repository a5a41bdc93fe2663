/-
**What is written is read back.**

Decoders are written once for every source, and see of a value only what it answers to their
questions.  So the law that ties a decoder to its encoder is stated once as well: of every value, of
whatever source, that answers as the written document does.

A record is the one thing that takes some care.  Its encoder leaves out fields that have a default,
and its decoder asks for one field after another.  The law of a record is put together along the
decoder, one field at a time, each with the law of the way in which it is written; the names are the
only thing that is left to check.

Main definitions:

* `Sidecar.Json.IsRegular` — a document has no floating numbers, and no object of it has two members
  of one name;
* `Sidecar.Answers` — a value that answers the questions of a decoder as a document does;
* `Sidecar.ReadsBack` — a decoder reads a document as a value;
* `Sidecar.Fields` — the reader of some fields of a record reads them as a value.

Main results:

* `Sidecar.readsBack_text`, `Sidecar.readsBack_int32`, …, `Sidecar.ReadsBack.list`,
  `Sidecar.readsBack_stringMap` — scalars, lists and maps are read back;
* `Sidecar.Fields.record` — **a record is read back if its fields are**;
* `Sidecar.Json.answers_self`, `Sidecar.Json.answers_canonical` — a document answers for itself, in
  whatever order its members stand.
-/

import Mathlib.Algebra.Group.Int.Defs
import Mathlib.Algebra.Group.Nat.Defs
import Sidecar.Decode.Source
import Sidecar.Proofs.Computation
import Sidecar.Proofs.Json.Canonical

set_option autoImplicit false

namespace Sidecar

/-! ### Names -/

namespace Entries

variable {α : Type}

/-- Of entries with distinct names each is found. -/
theorem find?_eq_some_of_mem {entries : List (String × α)} (h : (entries.map Prod.fst).Nodup)
    {name : String} {value : α} (hmem : (name, value) ∈ entries) :
    find? name entries = some value := by
  induction entries with
  | nil => cases hmem
  | cons e rest ih =>
    obtain ⟨k, v⟩ := e
    obtain ⟨hk, hrest⟩ := List.nodup_cons.1 h
    rcases List.mem_cons.1 hmem with heq | hmem
    · cases heq
      exact if_pos rfl
    · have hne : k ≠ name := fun heq => hk (List.mem_map.2 ⟨(name, value), hmem, heq.symm⟩)
      rw [find?_cons, if_neg hne]
      exact ih hrest hmem

/-- An entry of a new name takes its place among the others. -/
theorem perm_insert {name : String} {value : α} {entries : List (String × α)}
    (h : name ∉ entries.map Prod.fst) :
    (insert name value entries).Perm ((name, value) :: entries) := by
  induction entries with
  | nil => exact .refl _
  | cons e rest ih =>
    obtain ⟨k, v⟩ := e
    rw [List.map_cons, List.mem_cons, not_or] at h
    rw [insert]
    split
    · exact .refl _
    · rw [if_neg (Ne.symm h.1)]
      exact ((ih h.2).cons _).trans (.swap ..)

/-- Of distinct names none is lost when entries are put in order. -/
theorem perm_ofList {pairs : List (String × α)} (h : (pairs.map Prod.fst).Nodup) :
    (ofList pairs).Perm pairs := by
  have hoverride : ∀ changes base : List (String × α),
      ((base ++ changes).map Prod.fst).Nodup → (override base changes).Perm (base ++ changes) := by
    intro changes
    induction changes with
    | nil => exact fun base _ => by rw [List.append_nil]; exact .refl _
    | cons e changes ih =>
      obtain ⟨k, v⟩ := e
      intro base hbase
      have hmiddle : (base ++ (k, v) :: changes).Perm ((k, v) :: base ++ changes) :=
        List.perm_middle
      have hnodup := (hmiddle.map Prod.fst).nodup_iff.1 hbase
      rw [List.cons_append, List.map_cons, List.nodup_cons, List.map_append, List.mem_append,
        not_or] at hnodup
      have hinsert : (insert k v base ++ changes).Perm ((k, v) :: base ++ changes) :=
        (perm_insert hnodup.1.1).append_right changes
      refine (ih (insert k v base) ?_).trans (hinsert.trans hmiddle.symm)
      exact ((hinsert.trans hmiddle.symm).map Prod.fst).nodup_iff.2 hbase
  exact hoverride pairs [] h

theorem Sorted.nodup {entries : List (String × α)} (h : Sorted entries) :
    (entries.map Prod.fst).Nodup := by
  refine List.pairwise_map.2 (List.Pairwise.imp ?_ h)
  intro a b hlt heq
  exact absurd hlt (heq ▸ String.lt_irrefl _)

/-- Entries in order are what any arrangement of them is when put in order. -/
theorem ofList_eq_of_perm {pairs entries : List (String × α)} (hs : Sorted entries)
    (h : pairs.Perm entries) : ofList pairs = entries := by
  have hperm := (perm_ofList ((h.map Prod.fst).nodup_iff.2 hs.nodup)).trans h
  refine List.Perm.eq_of_pairwise (fun a b _ _ hab hba => ?_) (sorted_ofList pairs) hs hperm
  exact absurd (String.lt_trans hab hba) (String.lt_irrefl _)

end Entries

/-- No number in the document is floating, and the members of each object have distinct names. -/
inductive Json.IsRegular : Json → Prop
  | null : IsRegular .null
  | bool (value : Bool) : IsRegular (.bool value)
  | int (value : Int) : IsRegular (.int value)
  | str (value : String) : IsRegular (.str value)
  | arr {items : List Json} : (∀ x ∈ items, IsRegular x) → IsRegular (.arr items)
  | obj {members : List (String × Json)} : (members.map Prod.fst).Nodup →
      (∀ e ∈ members, IsRegular e.2) → IsRegular (.obj members)

/-! ### Answers -/

/-- The number has 64 bits, with a sign or without. -/
def FitsInt64 (signed : Bool) (n : Int) : Prop :=
  if signed then -2 ^ 63 ≤ n ∧ n < 2 ^ 63 else 0 ≤ n ∧ n < 2 ^ 64

/-- A value answers the questions of a decoder as a document does.  The entries of an object may
come in any order. -/
inductive Answers {δ : Type} [Source δ] : δ → Json → Prop
  | null {d : δ} (absent : Source.option d = .ok none) : Answers d .null
  | bool {d : δ} {b : Bool} (present : Source.option d = .ok (some d))
      (bool : Source.bool d = .ok b) : Answers d (.bool b)
  | int {d : δ} {n : Int} (present : Source.option d = .ok (some d))
      (int : ∀ signed expected, FitsInt64 signed n → Source.int signed expected d = .ok n) :
      Answers d (.int n)
  | float {d : δ} {x : Binary64} (present : Source.option d = .ok (some d)) : Answers d (.float x)
  | str {d : δ} {s : String} (present : Source.option d = .ok (some d))
      (text : Source.text d = .ok s)
      (variant : ∀ names, s ∈ names → Source.variant names d = .ok s) : Answers d (.str s)
  | arr {d : δ} {items : List Json} {given : List δ} (present : Source.option d = .ok (some d))
      (list : Source.items d = .ok given) (answer : List.Forall₂ Answers given items) :
      Answers d (.arr items)
  | obj {d : δ} {members : List (String × Json)} {given : List (String × δ)}
      (present : Source.option d = .ok (some d)) (entries : Source.entries d = .ok given)
      (record : ∀ typeName names, Source.record typeName names d = .ok (.ofEntries names given))
      (names : (given.map Prod.fst).Perm (members.map Prod.fst))
      (answer : ∀ name value json, (name, value) ∈ given → (name, json) ∈ members →
        Answers value json) :
      Answers d (.obj members)

namespace Answers

variable {δ : Type} [Source δ] {d : δ}

/-- Only what answers as null does is absent. -/
theorem option_eq {json : Json} (h : Answers d json) (hnull : json ≠ .null) :
    Source.option d = .ok (some d) := by
  cases h with
  | null => exact absurd rfl hnull
  | _ => assumption

theorem text_eq {s : String} (h : Answers d (.str s)) : Source.text d = .ok s := by
  cases h with
  | str _ htext => exact htext

theorem int_eq {n : Int} (h : Answers d (.int n)) {signed : Bool} (hfits : FitsInt64 signed n)
    (expected : String) : Source.int signed expected d = .ok n := by
  cases h with
  | int _ hint => exact hint signed expected hfits

end Answers

/-! ### Decoders that read back -/

/-- A decoder reads every value that answers as the document does as the same value.  The document
is not null, so that it can stand where a value may be absent, and it is regular. -/
structure ReadsBack {δ α : Type} [Source δ] (decode : δ → Except DecodeError α) (json : Json)
    (a : α) : Prop where
  ne_null : json ≠ .null
  regular : json.IsRegular
  decode_eq : ∀ {d : δ}, Answers d json → decode d = .ok a

/-! ### Scalars -/

section Scalars

variable {δ : Type} [Source δ]

theorem readsBack_text (s : String) : ReadsBack (Decode.text (δ := δ)) (.str s) s where
  ne_null := by simp
  regular := .str s
  decode_eq h := h.text_eq

theorem readsBack_bool (b : Bool) : ReadsBack (Decode.bool (δ := δ)) (.bool b) b where
  ne_null := by simp
  regular := .bool b
  decode_eq h := by
    cases h with
    | bool _ hbool => exact hbool

/-- A type of numbers of at most 64 bits is read back: its decoder takes every number between two
bounds. -/
theorem readsBack_of_bounded {α : Type} {decode : δ → Except DecodeError α} {expected : String}
    {low high n : Int} {ofInt : Int → α} {a : α}
    (hdecode : ∀ d, decode d = do pure (ofInt (← Decode.bounded expected low high d)))
    (hlow : low ≤ n) (hhigh : n ≤ high) (hfits : FitsInt64 (low < 0) n) (ha : ofInt n = a) :
    ReadsBack decode (.int n) a where
  ne_null := by simp
  regular := .int n
  decode_eq h := by
    simp [hdecode, Decode.bounded, h.int_eq hfits, bind, Except.bind, hlow, hhigh, ha, pure,
      Except.pure]

theorem readsBack_int32 (n : Int32) : ReadsBack (Decode.int32 (δ := δ)) (.int n.toInt) n := by
  have hlow : -2 ^ 31 ≤ n.toInt := n.le_toInt
  have hhigh : n.toInt < 2 ^ 31 := n.toInt_lt
  refine readsBack_of_bounded (fun _ => rfl) hlow (Int.le_of_lt_add_one hhigh) ?_ n.ofInt_toInt
  exact ⟨by omega, by omega⟩

theorem readsBack_int64 (n : Int64) : ReadsBack (Decode.int64 (δ := δ)) (.int n.toInt) n := by
  have hlow : -2 ^ 63 ≤ n.toInt := n.le_toInt
  have hhigh : n.toInt < 2 ^ 63 := n.toInt_lt
  exact readsBack_of_bounded (fun _ => rfl) hlow (Int.le_of_lt_add_one hhigh) ⟨hlow, hhigh⟩
    n.ofInt_toInt

theorem readsBack_uint32 (n : UInt32) : ReadsBack (Decode.uint32 (δ := δ)) (.int n.toNat) n := by
  have hhigh : n.toNat < 2 ^ 32 := n.toNat_lt
  have hmax : ((UInt32.size : Int) - 1) = 2 ^ 32 - 1 := rfl
  refine readsBack_of_bounded (fun _ => rfl) (Int.natCast_nonneg _) (by omega) ?_ n.ofNat_toNat
  exact ⟨Int.natCast_nonneg _, by omega⟩

theorem readsBack_uint16 (n : UInt16) : ReadsBack (Decode.uint16 (δ := δ)) (.int n.toNat) n := by
  have hhigh : n.toNat < 2 ^ 16 := n.toNat_lt
  have hmax : ((UInt16.size : Int) - 1) = 2 ^ 16 - 1 := rfl
  refine readsBack_of_bounded (fun _ => rfl) (Int.natCast_nonneg _) (by omega) ?_ n.ofNat_toNat
  exact ⟨Int.natCast_nonneg _, by omega⟩

/-! ### Lists and maps -/

/-- A list is read back if its items are. -/
theorem ReadsBack.list {α : Type} {decode : δ → Except DecodeError α} {encode : α → Json}
    (h : ∀ a, ReadsBack decode (encode a) a) (as : List α) :
    ReadsBack (Decode.list decode) (.arr (as.map encode)) as where
  ne_null := by simp
  regular := .arr fun json hjson => by
    obtain ⟨a, _, rfl⟩ := List.mem_map.1 hjson
    exact (h a).regular
  decode_eq hanswers := by
    cases hanswers with
    | arr _ hlist hitems =>
      rw [List.forall₂_map_right_iff] at hitems
      have hread := mapM_eq_ok_iff.2 (hitems.imp fun d a hd => (h a).decode_eq hd)
      simp [Decode.list, hlist, bind, Except.bind, hread]

/-- A map is read back, in whatever order its entries come. -/
theorem readsBack_stringMap (m : StringMap) :
    ReadsBack (Decode.stringMap (δ := δ)) (Json.stringMap m) m where
  ne_null := by simp [Json.stringMap]
  regular := by
    refine .obj ?_ fun e he => ?_
    · rw [List.map_map]
      exact m.sorted.nodup
    · obtain ⟨entry, _, rfl⟩ := List.mem_map.1 he
      exact .str entry.2
  decode_eq hanswers := by
    cases hanswers with
    | @obj _ _ given _ hentries _ hnames hanswer =>
      rw [List.map_map] at hnames
      let text (name : String) : String := (m.find? name).getD ""
      have hfind : ∀ e ∈ m.entries, text e.1 = e.2 := fun e he => by
        simp only [text, StringMap.find?, Entries.find?_eq_some_of_mem m.sorted.nodup he,
          Option.getD_some]
      have hread : given.mapM (fun e => do pure (e.1, ← Decode.text e.2))
          = .ok (given.map fun e => (e.1, text e.1)) := by
        refine mapM_eq_ok_iff.2 ?_
        rw [List.forall₂_map_right_iff, List.forall₂_same]
        intro e he
        have hname := hnames.mem_iff.1 (List.mem_map_of_mem (f := Prod.fst) he)
        obtain ⟨entry, hentry, heq⟩ := List.mem_map.1 hname
        have hvalue := hanswer e.1 e.2 (.str entry.2) he
          (List.mem_map.2 ⟨entry, hentry, by rw [← heq]; rfl⟩)
        have htext : text e.1 = entry.2 := heq ▸ hfind entry hentry
        simp [Decode.text, hvalue.text_eq, htext, bind, Except.bind, pure, Except.pure]
      have hperm : (given.map fun e => (e.1, text e.1)).Perm m.entries := by
        have hnamed := hnames.map fun name => (name, text name)
        rw [List.map_map, List.map_map] at hnamed
        refine hnamed.trans (.of_eq ?_)
        refine (List.map_congr_left fun e he => ?_).trans (List.map_id _)
        exact congrArg (Prod.mk e.1) (hfind e he)
      have hmap : StringMap.ofList (given.map fun e => (e.1, text e.1)) = m := by
        obtain ⟨entries, hs⟩ := m
        simp only [StringMap.ofList, StringMap.mk.injEq]
        exact Entries.ofList_eq_of_perm hs hperm
      simp only [Decode.stringMap, hentries, bind, Except.bind]
      simp only [bind, Except.bind] at hread
      rw [hread]
      simp only [pure, Except.pure, hmap]

end Scalars

/-! ### Records -/

namespace RecordView

variable {δ : Type}

/-- Entries with distinct names, each that of a field, leave nothing over. -/
theorem firstStray_eq_none {names seen : List String} {entries : List (String × δ)} (rank : Nat)
    (hknown : ∀ name ∈ entries.map Prod.fst, name ∈ names)
    (hfresh : ∀ name ∈ entries.map Prod.fst, name ∉ seen)
    (hdistinct : (entries.map Prod.fst).Nodup) : firstStray names seen rank entries = none := by
  induction entries generalizing seen rank with
  | nil => rfl
  | cons e rest ih =>
    obtain ⟨k, d⟩ := e
    rw [List.map_cons, List.forall_mem_cons] at hknown hfresh
    rw [List.map_cons, List.nodup_cons] at hdistinct
    rw [firstStray, if_neg (not_not_intro hknown.1), if_neg hfresh.1]
    refine ih (rank + 1) hknown.2 (fun name hname hseen => ?_) hdistinct.2
    rcases List.mem_cons.1 hseen with rfl | hseen
    · exact hdistinct.1 hname
    · exact hfresh.2 name hname hseen

/-- Of entries with distinct names each is met. -/
theorem exists_findEntry {entries : List (String × δ)} {name : String} {d : δ} (rank : Nat)
    (h : (name, d) ∈ entries) (hdistinct : (entries.map Prod.fst).Nodup) :
    ∃ place, findEntry name rank entries = some (place, d) := by
  induction entries generalizing rank with
  | nil => cases h
  | cons e rest ih =>
    obtain ⟨k, x⟩ := e
    rw [List.map_cons, List.nodup_cons] at hdistinct
    rcases List.mem_cons.1 h with heq | h
    · cases heq
      exact ⟨rank, if_pos rfl⟩
    · have hne : k ≠ name := fun heq =>
        hdistinct.1 (List.mem_map.2 ⟨(name, d), h, heq.symm⟩)
      rw [findEntry, if_neg hne]
      exact ih (rank + 1) h hdistinct.2

theorem findEntry_eq_none {entries : List (String × δ)} {name : String} (rank : Nat)
    (h : name ∉ entries.map Prod.fst) : findEntry name rank entries = none := by
  induction entries generalizing rank with
  | nil => rfl
  | cons e rest ih =>
    rw [List.map_cons, List.mem_cons, not_or] at h
    rw [findEntry, if_neg (Ne.symm h.1)]
    exact ih (rank + 1) h.2

/-- A record gives what is written of its fields, and nothing of those that are left out. -/
structure Shows [Source δ] (view : RecordView δ) (fields : List (String × Option Json)) :
    Prop where
  given : ∀ {name json}, (name, some json) ∈ fields →
    ∃ rank d, view.field? name = some (rank, d) ∧ Answers d json
  omitted : ∀ {name}, (name, none) ∈ fields → view.field? name = none

theorem Shows.of_subset [Source δ] {view : RecordView δ}
    {fields others : List (String × Option Json)} (h : view.Shows fields)
    (hsub : others ⊆ fields) : view.Shows others :=
  ⟨fun hmem => h.given (hsub hmem), fun hmem => h.omitted (hsub hmem)⟩

end RecordView

/-- Names of members that are written are names of fields. -/
theorem mem_record_iff {fields : List (String × Option Json)} {name : String} {json : Json} :
    (name, json) ∈ fields.filterMap (fun f => f.2.map (f.1, ·)) ↔ (name, some json) ∈ fields := by
  rw [List.mem_filterMap]
  constructor
  · rintro ⟨⟨other, value⟩, hmem, heq⟩
    obtain ⟨value, rfl, heq⟩ := Option.map_eq_some_iff.1 heq
    cases heq
    exact hmem
  · exact fun h => ⟨(name, some json), h, rfl⟩

theorem sublist_map_fst_record (fields : List (String × Option Json)) :
    ((fields.filterMap fun f => f.2.map (f.1, ·)).map Prod.fst).Sublist (fields.map Prod.fst) := by
  induction fields with
  | nil => exact .slnil
  | cons f fields ih =>
    obtain ⟨name, value⟩ := f
    cases value with
    | none => exact ih.cons name
    | some json => exact ih.cons_cons name

/-- The reader of some fields of a record reads them as a value.  The fields stand in the order in
which the last one read comes first. -/
structure Fields {δ α : Type} [Source δ] (fields : List (String × Option Json))
    (read : RecordView δ → Ranked α) (a : α) : Prop where
  regular : ∀ {name json}, (name, some json) ∈ fields → json.IsRegular
  read_eq : ∀ {view : RecordView δ}, view.Shows fields → read view = .ok a

namespace Fields

variable {δ α β : Type} [Source δ]

theorem pure (a : α) : Fields (δ := δ) [] (fun _ => Ranked.pure a) a where
  regular h := by cases h
  read_eq _ := rfl

/-- One more field. -/
theorem ap {fields : List (String × Option Json)} {field : String × Option Json}
    {f : RecordView δ → Ranked (α → β)} {x : RecordView δ → Ranked α} {g : α → β} {a : α}
    (hf : Fields fields f g) (hx : Fields [field] x a) :
    Fields (field :: fields) (fun view => (f view).ap (x view)) (g a) where
  regular h := by
    rcases List.mem_cons.1 h with heq | h
    · exact hx.regular (List.mem_singleton.2 heq)
    · exact hf.regular h
  read_eq h := by
    have hfields := hf.read_eq (h.of_subset (List.subset_cons_self field fields))
    have hfield := hx.read_eq (h.of_subset (List.cons_subset_cons field (List.nil_subset fields)))
    rw [hfields, hfield, Ranked.ap_ok]

/-- What answers as a written record gives its fields as they are written, and nothing else. -/
theorem exists_view {written : List (String × Option Json)} {d : δ}
    (h : Answers d (Json.record written)) (hdistinct : (written.map Prod.fst).Nodup)
    (typeName : String) : ∃ view : RecordView δ,
      Source.record typeName (written.map Prod.fst) d = .ok view ∧ view.Shows written
        ∧ view.stray = none := by
  have hmembers := sublist_map_fst_record written
  cases h with
  | @obj _ _ entries _ _ hrecord hnames hanswer =>
    have hnodup := hnames.nodup_iff.2 (hmembers.nodup hdistinct)
    refine ⟨.ofEntries (written.map Prod.fst) entries, hrecord .., ⟨fun hmem => ?_, fun hmem => ?_⟩,
      RecordView.firstStray_eq_none 0 ?_ (by simp) hnodup⟩
    · rename_i name json
      have hjson := mem_record_iff.2 hmem
      have hname := hnames.mem_iff.2 (List.mem_map_of_mem (f := Prod.fst) hjson)
      obtain ⟨e, he, rfl⟩ := List.mem_map.1 hname
      obtain ⟨rank, hfound⟩ := RecordView.exists_findEntry 0 he hnodup
      exact ⟨rank, e.2, hfound, hanswer e.1 e.2 json he hjson⟩
    · rename_i name
      refine RecordView.findEntry_eq_none 0 fun hname => ?_
      -- the name would be that of two fields, one written and one left out
      obtain ⟨⟨_, json⟩, hjson, rfl⟩ := List.mem_map.1 (hnames.mem_iff.1 hname)
      have hwritten := Entries.find?_eq_some_of_mem hdistinct (mem_record_iff.1 hjson)
      rw [Entries.find?_eq_some_of_mem hdistinct hmem] at hwritten
      cases hwritten
    · exact fun name hname => hmembers.subset (hnames.mem_iff.1 hname)

/-- **A record is read back if its fields are**, and these are the ones that it has by name. -/
theorem record {fields : List (String × Option Json)} {read : RecordView δ → Ranked α} {a : α}
    (h : Fields fields read a) {typeName : String} {names : List String}
    (hnames : fields.reverse.map Prod.fst = names) (hdistinct : names.Nodup) :
    ReadsBack (Decode.record typeName names read) (Json.record fields.reverse) a := by
  subst hnames
  refine ⟨by simp [Json.record], .obj ((sublist_map_fst_record _).nodup hdistinct) ?_, ?_⟩
  · rintro ⟨name, json⟩ he
    exact h.regular (List.mem_reverse.1 (mem_record_iff.1 he))
  · intro d hanswers
    obtain ⟨view, hview, hshows, hstray⟩ := exists_view hanswers hdistinct typeName
    have hread := h.read_eq (hshows.of_subset fun _ hf => List.mem_reverse.2 hf)
    rw [Decode.record, hview]
    simp only [bind, Except.bind, hread, hstray, Pure.pure, Except.pure]

section

variable {name : String} {decode : δ → Except DecodeError α} {json : Json} {a : α}

/-- A field that must be given. -/
theorem required (h : ReadsBack decode json a) :
    Fields [(name, some json)] (fun view => view.required name decode) a where
  regular hmem := by
    cases List.mem_singleton.1 hmem
    exact h.regular
  read_eq hview := by
    obtain ⟨rank, d, hfield, hanswers⟩ := hview.given (List.mem_singleton_self _)
    rw [RecordView.required, hfield]
    simp only [h.decode_eq hanswers, Ranked.met_ok]

/-- A field that is written, whatever its default. -/
theorem given {default : α} (h : ReadsBack decode json a) :
    Fields [(name, some json)] (fun view => view.orElse name default decode) a where
  regular hmem := by
    cases List.mem_singleton.1 hmem
    exact h.regular
  read_eq hview := by
    obtain ⟨rank, d, hfield, hanswers⟩ := hview.given (List.mem_singleton_self _)
    rw [RecordView.orElse, hfield]
    simp only [h.decode_eq hanswers, Ranked.met_ok]

/-- A field that is left out has its default. -/
theorem omitted (default : α) :
    Fields [(name, none)] (fun view => view.orElse name default decode) default where
  regular hmem := by cases List.mem_singleton.1 hmem
  read_eq hview := by
    rw [RecordView.orElse, hview.omitted (List.mem_singleton_self _)]

/-- A text that is left out if it is empty. -/
theorem text (s : String) : Fields (δ := δ) [(name, Json.nonEmptyText s)]
    (fun view => view.orElse name "" Decode.text) s := by
  unfold Json.nonEmptyText
  by_cases hs : s = ""
  · subst hs
    exact omitted ""
  · rw [if_neg (by simpa using hs)]
    exact given (readsBack_text s)

/-- A list that is left out if it is empty. -/
theorem list {encode : α → Json} (h : ∀ a, ReadsBack decode (encode a) a) (as : List α) :
    Fields [(name, Json.nonEmptyList encode as)]
      (fun view => view.orElse name [] (Decode.list decode)) as := by
  cases as with
  | nil => exact omitted []
  | cons a as => exact given (ReadsBack.list h (a :: as))

/-- A map that is left out if it is empty. -/
theorem map (m : StringMap) : Fields (δ := δ) [(name, Json.nonEmptyMap m)]
    (fun view => view.orElse name StringMap.empty Decode.stringMap) m := by
  obtain ⟨entries, hs⟩ := m
  cases entries with
  | nil => exact omitted StringMap.empty
  | cons e entries => exact given (readsBack_stringMap ⟨e :: entries, hs⟩)

/-- A value that is left out if it is absent. -/
theorem option {encode : α → Json} (h : ∀ a, ReadsBack decode (encode a) a) (o : Option α) :
    Fields [(name, o.map encode)] (fun view => view.orElse name none (Decode.option decode)) o := by
  cases o with
  | none => exact omitted none
  | some a =>
    refine given ⟨(h a).ne_null, (h a).regular, fun hanswers => ?_⟩
    simp [Decode.option, hanswers.option_eq (h a).ne_null, (h a).decode_eq hanswers, bind,
      Except.bind, Pure.pure, Except.pure]

/-- A truth value that is written only if it is true. -/
theorem flag (b : Bool) : Fields (δ := δ) [(name, if b then some (.bool true) else none)]
    (fun view => view.orElse name false Decode.bool) b := by
  cases b with
  | false => exact omitted false
  | true => exact given (readsBack_bool true)

end

end Fields

/-! ### Documents -/

namespace Json

/-- An object answers as another one with members of the same names, each of which answers as the
member of that name. -/
theorem answers_obj {given members : List (String × Json)}
    (hnames : (given.map Prod.fst).Perm (members.map Prod.fst))
    (h : ∀ name value json, (name, value) ∈ given → (name, json) ∈ members → Answers value json) :
    Answers (Json.obj given) (.obj members) :=
  .obj rfl rfl (fun _ _ => rfl) hnames h

theorem variant_str {names : List String} {s : String} (h : s ∈ names) :
    variant names (.str s) = .ok s := by
  simp [variant, h, pure, Except.pure]

/-- **A document answers for itself.** -/
theorem answers_self {json : Json} (h : json.IsRegular) : Answers json json := by
  induction h with
  | null => exact .null rfl
  | bool => exact .bool rfl rfl
  | int => exact .int rfl fun _ _ _ => rfl
  | str => exact .str rfl rfl fun _ hs => variant_str hs
  | arr _ ih => exact .arr rfl rfl (List.forall₂_same.2 ih)
  | @obj members hdistinct _ ih =>
    refine answers_obj (.refl _) fun name value json hvalue hjson => ?_
    have hfound := Entries.find?_eq_some_of_mem hdistinct hjson
    rw [Entries.find?_eq_some_of_mem hdistinct hvalue] at hfound
    cases hfound
    exact ih (name, value) hvalue

theorem canonicalItems_eq_map (items : List Json) : canonicalItems items = items.map canonical := by
  induction items with
  | nil => rfl
  | cons x xs ih => rw [canonicalItems, ih, List.map_cons]

theorem canonicalMembers_eq_map (members : List (String × Json)) :
    canonicalMembers members = members.map fun e => (e.1, e.2.canonical) := by
  induction members with
  | nil => rfl
  | cons e members ih => rw [canonicalMembers, ih, List.map_cons]

/-- **In whatever order its members stand**, a document answers for itself. -/
theorem answers_canonical {json : Json} (h : json.IsRegular) :
    Answers json.canonical json := by
  induction h with
  | null => exact .null rfl
  | bool => exact .bool rfl rfl
  | int => exact .int rfl fun _ _ _ => rfl
  | str => exact .str rfl rfl fun _ hs => variant_str hs
  | @arr items _ ih =>
    rw [canonical, canonicalItems_eq_map]
    exact .arr rfl rfl (List.forall₂_map_left_iff.2 (List.forall₂_same.2 ih))
  | @obj members hdistinct _ ih =>
    rw [canonical, canonicalMembers_eq_map]
    have hnames : (members.map fun e => (e.1, e.2.canonical)).map Prod.fst
        = members.map Prod.fst := by
      rw [List.map_map]
      rfl
    have hperm := Entries.perm_ofList (hnames ▸ hdistinct)
    refine answers_obj (hnames ▸ hperm.map Prod.fst) fun name value json hvalue hjson => ?_
    obtain ⟨e, hmem, heq⟩ := List.mem_map.1 (hperm.mem_iff.1 hvalue)
    cases heq
    have hfound := Entries.find?_eq_some_of_mem hdistinct hjson
    rw [Entries.find?_eq_some_of_mem hdistinct hmem] at hfound
    cases hfound
    exact ih e hmem

end Json

end Sidecar
