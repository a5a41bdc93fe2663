/-
**Reading back what was fed.**

The bytes of a value can be read back field by field.  A field is there if its tag is, so the tags
of a record have to differ; what stands in a field is read by its kind.  After each element of a list
a sentinel ends the list, and anything else starts a further element: this goes wrong where an element
behind the first feeds nothing, and nowhere else.

Main definitions:

* `Sidecar.Feed.Item` — how what stands in a field is fed and read;
* `Sidecar.Feed.Solid`, `Sidecar.Feed.EndsBlank` — no element behind the first feeds nothing, and the
  last one does;
* `Sidecar.Feed.Layout` — how the fields of a record are fed and read, with the tags of the fields.

Main results:

* `Sidecar.Feed.Item.elements_recovers` — **a solid list is read back;**
* `Sidecar.Feed.Layout.Recovers.seq` — **fields in a row are read back if each of them is.**
-/

import Sidecar.Proofs.Fingerprint.Bytes
import Sidecar.Proofs.Json.Canonical

set_option autoImplicit false

namespace Sidecar.Feed

variable {α β : Type}

/-! ### What stands in a field -/

/-- How values are fed before a sentinel, and read from the bytes that start with one of them. -/
structure Item (α : Type) where
  feed : α → Feed
  read : Feed → Option (α × Feed)

namespace Item

/-- The value is read back, whatever follows the sentinel. -/
def Recovers (item : Item α) (a : α) : Prop :=
  ∀ rest, item.read (item.feed a ++ sentinel :: rest) = some (a, sentinel :: rest)

/-- Values of one type in the form of another. -/
def map (item : Item α) (pack : α → β) (unpack : β → α) : Item β where
  feed b := item.feed (unpack b)
  read bytes := (item.read bytes).map fun (a, rest) => (pack a, rest)

theorem Recovers.map {item : Item α} {pack : α → β} {unpack : β → α} {b : β}
    (h : item.Recovers (unpack b)) (hpack : pack (unpack b) = b) :
    (item.map pack unpack).Recovers b := by
  intro rest
  simp only [Item.map, h rest, Option.map_some, hpack]

/-- A text. -/
def word : Item String where
  feed := utf8
  read bytes := (text? (cut bytes).1).map fun s => (s, (cut bytes).2)

theorem word_recovers (s : String) : word.Recovers s := by
  intro rest
  simp only [word, cut_append (sentinel_notMem_utf8 s), text?_utf8, Option.map_some]

/-- A number of `n` bytes. -/
def number (n : Nat) : Item Nat where
  feed := bigEndian n
  read bytes := some (ofBigEndian (bytes.take n), bytes.drop n)

theorem number_recovers {n value : Nat} (h : value < 256 ^ n) : (number n).Recovers value := by
  intro rest
  have hlength := length_bigEndian n value
  simp only [number, List.take_left' hlength, List.drop_left' hlength, ofBigEndian_bigEndian,
    Nat.mod_eq_of_lt h]

/-- A number of 32 bits. -/
def uint32 : Item UInt32 :=
  (number 4).map UInt32.ofNat UInt32.toNat

theorem uint32_recovers (n : UInt32) : uint32.Recovers n :=
  (number_recovers n.toNat_lt).map UInt32.ofNat_toNat

/-- A number of 32 bits in two's complement. -/
def int32 : Item Int32 :=
  uint32.map UInt32.toInt32 Int32.toUInt32

theorem int32_recovers (n : Int32) : int32.Recovers n :=
  (uint32_recovers n.toUInt32).map rfl

/-- A number of 64 bits in two's complement. -/
def int64 : Item Int64 :=
  (number 8).map (fun n => (UInt64.ofNat n).toInt64) fun n => n.toUInt64.toNat

theorem int64_recovers (n : Int64) : int64.Recovers n := by
  refine (number_recovers n.toUInt64.toNat_lt).map ?_
  rw [UInt64.ofNat_toNat]
  rfl

/-- A truth value. -/
def truth : Item Bool where
  feed b := [if b then 1 else 0]
  read
    | [] => none
    | b :: rest => some (b == 1, rest)

theorem truth_recovers (b : Bool) : truth.Recovers b := by
  intro rest
  cases b with
  | false => rfl
  | true => rfl

end Item

/-! ### Lists -/

/-- No element behind the first feeds nothing. -/
def Solid (feed : α → Feed) (values : List α) : Prop :=
  ∀ a ∈ values.tail, feed a ≠ []

theorem Solid.tail {feed : α → Feed} {a : α} {values : List α} (h : Solid feed (a :: values)) :
    Solid feed values :=
  fun b hb => h b (List.mem_of_mem_tail hb)

/-- The list ends, behind another element, with one that feeds nothing. -/
def EndsBlank (feed : α → Feed) (values : List α) : Prop :=
  ∃ first others blank, feed blank = [] ∧ values = first :: others ++ [blank]

/-- A blank element at the end is no more than a sentinel behind the list without it. -/
theorem EndsBlank.exists_list_eq {feed : α → Feed} {values : List α}
    (h : EndsBlank feed values) (name : String) :
    ∃ shorter, shorter ⊆ values
      ∧ list name values feed = list name shorter feed ++ [sentinel] := by
  obtain ⟨first, others, blank, hblank, rfl⟩ := h
  refine ⟨first :: others, List.subset_append_left .., ?_⟩
  simp [Feed.list, field, element, hblank]

/-- A list that is not empty feeds what its elements do. -/
theorem list_congr {name : String} {feed : α → Feed} {xs ys : List α} (hx : xs ≠ [])
    (hy : ys ≠ [])
    (h : (xs.flatMap fun a => element (feed a)) = ys.flatMap fun a => element (feed a)) :
    list name xs feed = list name ys feed := by
  simp [list, hx, hy, h]

namespace Item

/-- The elements at the start of the bytes, of which there is at least one. -/
def readElements (item : Item α) : Nat → Feed → Option (List α × Feed)
  | 0, _ => none
  | fuel + 1, bytes => do
    let (a, behind) ← item.read bytes
    let rest ← closed? behind
    if rest.head? = some sentinel then some ([a], rest)
    else
      let (values, rest) ← readElements item fuel rest
      some (a :: values, rest)

/-- The elements of a list that is not empty. -/
def elements (item : Item α) : Item (List α) where
  feed values := values.flatMap fun a => element (item.feed a)
  read bytes := readElements item bytes.length bytes

variable {item : Item α}

theorem readElements_append (hhead : ∀ a, (item.feed a).head? ≠ some sentinel) {values : List α}
    (hne : values ≠ []) (hsolid : Solid item.feed values) (hread : ∀ a ∈ values, item.Recovers a)
    {fuel : Nat} (hfuel : values.length ≤ fuel) (rest : Feed) :
    readElements item fuel (item.elements.feed values ++ sentinel :: rest)
      = some (values, sentinel :: rest) := by
  -- induction on the elements still to be read, with enough fuel for them
  induction values generalizing fuel with
  | nil => exact absurd rfl hne
  | cons a values ih =>
      obtain ⟨fuel, rfl⟩ : ∃ n, fuel = n + 1 := ⟨fuel - 1, by simp at hfuel; omega⟩
      have hbytes : item.elements.feed (a :: values) ++ sentinel :: rest
          = item.feed a ++ sentinel :: (item.elements.feed values ++ sentinel :: rest) := by
        simp [elements, element]
      rw [hbytes, readElements, hread a (List.mem_cons_self ..)]
      simp only [Option.bind_eq_bind, Option.bind_some, closed?_sentinel]
      cases values with
      | nil => simp [elements]
      | cons b values =>
          -- the next element feeds something, and that is not the sentinel
          obtain ⟨first, more, hfirst⟩ :=
            List.exists_cons_of_ne_nil (hsolid b (List.mem_cons_self ..))
          have hother : first ≠ sentinel := by
            intro heq
            exact hhead b (by rw [hfirst, heq]; rfl)
          have hstart : (item.elements.feed (b :: values) ++ sentinel :: rest).head?
              ≠ some sentinel := by
            simp [elements, element, hfirst, hother]
          rw [if_neg hstart, ih (List.cons_ne_nil b values) hsolid.tail
            (fun c hc => hread c (List.mem_cons_of_mem _ hc)) (by simp at hfuel ⊢; omega)]
          rfl

theorem length_le_length_elements (item : Item α) (values : List α) :
    values.length ≤ (item.elements.feed values).length := by
  induction values with
  | nil => exact Nat.zero_le _
  | cons a values ih =>
      have hcons : item.elements.feed (a :: values)
          = item.feed a ++ sentinel :: item.elements.feed values := by
        simp [elements, element]
      rw [hcons, List.length_append, List.length_cons, List.length_cons]
      omega

/-- **A solid list is read back** if its elements are. -/
theorem elements_recovers (hhead : ∀ a, (item.feed a).head? ≠ some sentinel) {values : List α}
    (hne : values ≠ []) (hsolid : Solid item.feed values) (hread : ∀ a ∈ values, item.Recovers a) :
    item.elements.Recovers values := by
  intro rest
  refine readElements_append hhead hne hsolid hread ?_ rest
  have hlength := length_le_length_elements item values
  rw [List.length_append]
  omega

end Item

/-! ### Fields -/

/-- How fields are fed, and read from bytes behind which none of their tags stands. -/
structure Layout (α : Type) where
  tags : List String
  feed : α → Feed
  read : Feed → Option (α × Feed)
  /-- No other tag stands before the fields. -/
  apart : ∀ {name : String} {a : α} {rest : Feed}, (∀ t ∈ tags, Differ name t) →
    Apart name rest → Apart name (feed a ++ rest)
  /-- No sentinel stands before the fields. -/
  headed : ∀ a, (feed a).head? ≠ some sentinel

namespace Layout

/-- The fields are read back if none of their tags follows, provided that the tags differ. -/
def Recovers (layout : Layout α) (a : α) : Prop :=
  layout.tags.Pairwise Differ → ∀ rest, (∀ t ∈ layout.tags, Apart t rest) →
    layout.read (layout.feed a ++ rest) = some (a, rest)

/-- The value of a record whose fields are all that there is. -/
def read? (layout : Layout α) (bytes : Feed) : Option α :=
  (layout.read bytes).map Prod.fst

theorem read?_feed {layout : Layout α} (hdiffer : layout.tags.Pairwise Differ) {a : α}
    (h : layout.Recovers a) : layout.read? (layout.feed a) = some a := by
  have hread := h hdiffer [] fun t _ => apart_nil t
  rw [List.append_nil] at hread
  rw [read?, hread, Option.map_some]

/-- A record as an element or as the content of a field. -/
def item (layout : Layout α) : Item α where
  feed := layout.feed
  read := layout.read

theorem item_recovers {layout : Layout α} (hdiffer : layout.tags.Pairwise Differ) {a : α}
    (h : layout.Recovers a) : layout.item.Recovers a :=
  fun rest => h hdiffer (sentinel :: rest) fun t _ => apart_sentinel t rest

/-- Records of one type in the form of another. -/
def map (layout : Layout α) (pack : α → β) (unpack : β → α) : Layout β where
  tags := layout.tags
  feed b := layout.feed (unpack b)
  read bytes := (layout.read bytes).map fun (a, rest) => (pack a, rest)
  apart := layout.apart
  headed b := layout.headed (unpack b)

theorem Recovers.map {layout : Layout α} {pack : α → β} {unpack : β → α} {b : β}
    (h : layout.Recovers (unpack b)) (hpack : pack (unpack b) = b) :
    (layout.map pack unpack).Recovers b := by
  intro hdiffer rest hrest
  have hread : layout.read (layout.feed (unpack b) ++ rest) = some (unpack b, rest) :=
    h hdiffer rest hrest
  simp only [Layout.map, hread, Option.map_some, hpack]

/-- The same fields, their bytes written in another way. -/
def withFeed (layout : Layout α) (feed : α → Feed) (h : ∀ a, layout.feed a = feed a) :
    Layout α where
  tags := layout.tags
  feed := feed
  read := layout.read
  apart := by
    intro name a rest ht hrest
    rw [← h]
    exact layout.apart ht hrest
  headed a := h a ▸ layout.headed a

theorem Recovers.withFeed {layout : Layout α} {feed : α → Feed} {a : α} (h : layout.Recovers a)
    (hfeed : ∀ a, layout.feed a = feed a) : (layout.withFeed feed hfeed).Recovers a := by
  intro hdiffer rest hrest
  change layout.read (feed a ++ rest) = some (a, rest)
  rw [← hfeed]
  exact h hdiffer rest hrest

/-- Some fields, and others behind them. -/
def seq (first : Layout α) (second : Layout β) : Layout (α × β) where
  tags := first.tags ++ second.tags
  feed p := first.feed p.1 ++ second.feed p.2
  read bytes := do
    let (a, rest) ← first.read bytes
    let (b, rest) ← second.read rest
    some ((a, b), rest)
  apart := by
    intro name p rest ht hrest
    rw [List.append_assoc]
    exact first.apart (fun t h => ht t (List.mem_append_left _ h))
      (second.apart (fun t h => ht t (List.mem_append_right _ h)) hrest)
  headed p := by
    cases hfirst : first.feed p.1 with
    | nil => exact second.headed p.2
    | cons b bytes =>
        have hhead := first.headed p.1
        rwa [hfirst] at hhead

/-- **Fields in a row are read back** if each of them is: no tag of the first starts what the
second feed. -/
theorem Recovers.seq {first : Layout α} {second : Layout β} {p : α × β}
    (hfirst : first.Recovers p.1) (hsecond : second.Recovers p.2) :
    (first.seq second).Recovers p := by
  intro hdiffer rest hrest
  -- what follows the first fields are the second and the rest, and no tag of the first starts there
  obtain ⟨hdiffer₁, hdiffer₂, hacross⟩ := List.pairwise_append.1 hdiffer
  have hread₂ := hsecond hdiffer₂ rest fun t ht => hrest t (List.mem_append_right _ ht)
  have hread₁ := hfirst hdiffer₁ (second.feed p.2 ++ rest) fun t ht =>
    second.apart (hacross t ht) (hrest t (List.mem_append_left _ ht))
  simp only [Layout.seq, List.append_assoc, hread₁, hread₂, Option.bind_eq_bind, Option.bind_some]

/-- A field that feeds nothing if it is absent. -/
def optional (name : String) (item : Item α) : Layout (Option α) where
  tags := [name]
  feed value := Feed.optional value fun a => field name (item.feed a)
  read bytes :=
    if tag name <+: bytes then do
      let (a, behind) ← item.read (bytes.drop (tag name).length)
      let rest ← closed? behind
      some (some a, rest)
    else some (none, bytes)
  apart := by
    intro other value rest ht hrest
    cases value with
    | none => exact hrest
    | some a =>
        have hdiffer := ht name (List.mem_singleton.2 rfl)
        simpa [Feed.optional, field, tag] using
          apart_tag hdiffer (item.feed a ++ sentinel :: rest)
  headed value := by
    cases value with
    | none => exact Option.some_ne_none sentinel ∘ Eq.symm
    | some a =>
        obtain ⟨b, bytes, hb, hne⟩ := exists_tag_eq_cons name
        rw [tag] at hb
        simpa [Feed.optional, field, hb] using hne

theorem recovers_optional {name : String} {item : Item α} {value : Option α}
    (h : ∀ a ∈ value, item.Recovers a) : (optional name item).Recovers value := by
  intro _ rest hrest
  cases value with
  | none =>
      have happart : ¬ tag name <+: rest := hrest name (List.mem_singleton.2 rfl)
      exact if_neg happart
  | some a =>
      have hbytes : (optional name item).feed (some a) ++ rest
          = tag name ++ (item.feed a ++ sentinel :: rest) := by
        simp [optional, Feed.optional, field, tag]
      rw [hbytes]
      simp only [optional, List.prefix_append, if_true, List.drop_left, h a rfl rest,
        Option.bind_eq_bind, Option.bind_some, closed?_sentinel]

/-! ### The kinds of fields -/

/-- A text; the empty one is absent. -/
def text (name : String) : Layout String :=
  ((optional name .word).map (·.getD "") fun s => if s.isEmpty then none else some s).withFeed
    (Feed.text name) (by
      intro s
      simp only [map, optional, Feed.text]
      split <;> rfl)

theorem recovers_text (name s : String) : (text name).Recovers s := by
  refine .withFeed (.map (recovers_optional fun a _ => Item.word_recovers a) ?_) _
  split
  · next h => exact (String.isEmpty_iff.1 h).symm
  · rfl

/-- A number of 32 bits; there is no way to leave it out. -/
def uint32 (name : String) : Layout UInt32 :=
  (optional name .uint32).map (·.getD 0) some

theorem recovers_uint32 (name : String) (n : UInt32) : (uint32 name).Recovers n :=
  .map (recovers_optional fun a _ => Item.uint32_recovers a) rfl

/-- An optional number of 32 bits. -/
def optInt32 (name : String) : Layout (Option Int32) :=
  optional name .int32

theorem recovers_optInt32 (name : String) (n : Option Int32) : (optInt32 name).Recovers n :=
  recovers_optional fun a _ => Item.int32_recovers a

/-- An optional number of 64 bits. -/
def optInt64 (name : String) : Layout (Option Int64) :=
  optional name .int64

theorem recovers_optInt64 (name : String) (n : Option Int64) : (optInt64 name).Recovers n :=
  recovers_optional fun a _ => Item.int64_recovers a

/-- An optional truth value. -/
def optBool (name : String) : Layout (Option Bool) :=
  optional name .truth

theorem recovers_optBool (name : String) (b : Option Bool) : (optBool name).Recovers b :=
  recovers_optional fun a _ => Item.truth_recovers a

/-- A list; the empty one is absent. -/
def list (name : String) (item : Item α) : Layout (List α) :=
  ((optional name item.elements).map (·.getD []) fun values =>
    if values.isEmpty then none else some values).withFeed
    (fun values => Feed.list name values item.feed) (by
      intro values
      simp only [map, optional, Feed.list]
      split <;> rfl)

theorem recovers_list {name : String} {item : Item α}
    (hhead : ∀ a, (item.feed a).head? ≠ some sentinel) {values : List α}
    (hsolid : Solid item.feed values) (hread : ∀ a ∈ values, item.Recovers a) :
    (list name item).Recovers values := by
  refine .withFeed (.map (recovers_optional ?_) ?_) _
  · intro present hpresent
    split at hpresent
    · cases hpresent
    · next hne =>
      cases hpresent
      exact Item.elements_recovers hhead (by simpa using hne) hsolid hread
  · split
    · next h => exact (List.isEmpty_iff.1 h).symm
    · rfl

/-- A list of texts. -/
def texts (name : String) : Layout (List String) :=
  list name .word

theorem recovers_texts {name : String} {values : List String} (h : Solid utf8 values) :
    (texts name).Recovers values := by
  refine recovers_list ?_ h fun a _ => Item.word_recovers a
  intro s hhead
  exact sentinel_notMem_utf8 s (List.mem_of_head? hhead)

/-- A list of records. -/
def records (name : String) (record : Layout α) : Layout (List α) :=
  list name record.item

theorem recovers_records {name : String} {record : Layout α}
    (hdiffer : record.tags.Pairwise Differ) {values : List α} (hsolid : Solid record.feed values)
    (h : ∀ a ∈ values, record.Recovers a) : (records name record).Recovers values :=
  recovers_list record.headed hsolid fun a ha => item_recovers hdiffer (h a ha)

/-- An optional record. -/
def optNested (name : String) (record : Layout α) : Layout (Option α) :=
  optional name record.item

theorem recovers_optNested {name : String} {record : Layout α}
    (hdiffer : record.tags.Pairwise Differ) {value : Option α}
    (h : ∀ a ∈ value, record.Recovers a) : (optNested name record).Recovers value :=
  recovers_optional fun a ha => item_recovers hdiffer (h a ha)

/-- An entry of a map. -/
def entry : Layout (String × String) :=
  (text "key").seq (text "value")

/-- A map of texts. -/
def stringMap (name : String) : Layout StringMap :=
  (records name entry).map StringMap.ofList StringMap.entries

/-- Behind the first entry of a map no name is empty. -/
theorem solid_entries (m : StringMap) : Solid entry.feed m.entries := by
  intro e he
  cases hentries : m.entries with
  | nil =>
      rw [hentries] at he
      cases he
  | cons first others =>
      have hsorted := m.sorted
      rw [hentries] at he hsorted
      -- the names ascend, and nothing is below the empty one
      have hlt : first.1 < e.1 := (List.pairwise_cons.1 hsorted).1 e he
      have hne : e.1 ≠ "" := by
        intro heq
        rw [heq] at hlt
        exact List.not_lt_nil first.1.toList hlt
      simp [entry, seq, text, withFeed, Feed.text, hne, field]

/-- **Every map is read back**, whatever its names and texts are. -/
theorem recovers_stringMap (name : String) (m : StringMap) : (stringMap name).Recovers m := by
  -- read as pairs, the entries are put in order again, which they are in
  refine .map (recovers_records (by decide +kernel) (solid_entries m) fun e _ =>
    (recovers_text "key" e.1).seq (recovers_text "value" e.2)) ?_
  exact StringMap.override_eq_of_isEmpty (m := .empty) rfl m

end Layout

end Sidecar.Feed
