/-
**Texts and numbers as bytes.**

What a value feeds to its fingerprint is made of the bytes of texts and numbers, of tags, and of
the sentinel that ends things.  Texts never contain the sentinel, so a text that ends with one can be
cut off and read back; numbers may contain it, but their bytes are counted.

Main definitions:

* `Sidecar.Feed.text?`, `Sidecar.Feed.ofBigEndian` — the text and the number of some bytes;
* `Sidecar.Feed.cut`, `Sidecar.Feed.closed?` — the bytes up to a sentinel, and those behind one;
* `Sidecar.Feed.tag`, `Sidecar.Feed.Apart`, `Sidecar.Feed.Differ` — a field's tag, bytes that do not
  start with it, and tags of which none starts with the other.

Main results:

* `Sidecar.Feed.sentinel_notMem_utf8` — **no text contains the sentinel**;
* `Sidecar.Feed.text?_utf8`, `Sidecar.Feed.ofBigEndian_bigEndian` — texts and numbers are read back.
-/

import Mathlib.Algebra.Group.Nat.Defs
import Sidecar.Fingerprint.Feed

set_option autoImplicit false

namespace Sidecar.Feed

/-! ### Texts -/

theorem utf8_eq_flatMap (s : String) : utf8 s = s.toList.flatMap String.utf8EncodeChar := by
  have hbytes : (s.toList.flatMap String.utf8EncodeChar).toByteArray = s.toByteArray := by
    have hlist := String.toByteArray_ofList (l := s.toList)
    rwa [String.ofList_toList, eq_comm] at hlist
  rw [utf8, String.toUTF8, ← hbytes, List.data_toByteArray]

/-- No byte of a character is the sentinel. -/
theorem sentinel_notMem_utf8EncodeChar (c : Char) : sentinel ∉ String.utf8EncodeChar c := by
  have hbyte : ∀ n, n < 255 → sentinel ≠ UInt8.ofNat n := by
    intro n hn heq
    have hnat := congrArg UInt8.toNat heq
    simp [sentinel] at hnat
    omega
  have hvalid : c.val.toNat < 0x110000 := by
    rcases c.valid with h | ⟨_, h⟩
    · exact Nat.lt_trans h (by decide)
    · exact h
  -- one case for each length of a character's form; its first byte is the greatest
  unfold String.utf8EncodeChar
  simp only
  split
  · simp only [List.mem_singleton]
    exact hbyte _ (by omega)
  · split
    · simp only [List.mem_cons, List.not_mem_nil, or_false, not_or]
      exact ⟨hbyte _ (by omega), hbyte _ (by omega)⟩
    · split
      · simp only [List.mem_cons, List.not_mem_nil, or_false, not_or]
        exact ⟨hbyte _ (by omega), hbyte _ (by omega), hbyte _ (by omega)⟩
      · simp only [List.mem_cons, List.not_mem_nil, or_false, not_or]
        exact ⟨hbyte _ (by omega), hbyte _ (by omega), hbyte _ (by omega), hbyte _ (by omega)⟩

/-- **No text contains the sentinel.** -/
theorem sentinel_notMem_utf8 (s : String) : sentinel ∉ utf8 s := by
  rw [utf8_eq_flatMap, List.mem_flatMap]
  rintro ⟨c, _, hc⟩
  exact sentinel_notMem_utf8EncodeChar c hc

/-- Bytes are those of the text that they are read as, and of no other. -/
theorem fromUTF8?_eq_some_iff {bytes : ByteArray} {s : String} :
    String.fromUTF8? bytes = some s ↔ bytes = s.toUTF8 := by
  unfold String.fromUTF8?
  constructor
  · intro h
    split at h
    · cases h
      rfl
    · cases h
  · rintro rfl
    exact dif_pos s.isValidUTF8

/-- A text is that of its bytes. -/
theorem fromUTF8?_toUTF8 (s : String) : String.fromUTF8? s.toUTF8 = some s :=
  fromUTF8?_eq_some_iff.2 rfl

/-- The text of the bytes, if they are one. -/
def text? (bytes : Feed) : Option String :=
  String.fromUTF8? bytes.toByteArray

/-- **A text is read back.** -/
theorem text?_utf8 (s : String) : text? (utf8 s) = some s := by
  have hbytes : (utf8 s).toByteArray = s.toUTF8 := by
    rw [ByteArray.ext_iff, List.data_toByteArray, utf8, Array.toArray_toList]
  rw [text?, hbytes, fromUTF8?_toUTF8]

@[simp] theorem utf8_eq_nil_iff {s : String} : utf8 s = [] ↔ s = "" := by
  constructor
  · intro h
    have hread := text?_utf8 s
    rw [h] at hread
    exact Option.some.inj (hread.symm.trans (text?_utf8 ""))
  · rintro rfl
    rfl

/-! ### Numbers -/

/-- The number of the bytes, the highest first. -/
def ofBigEndian (bytes : Feed) : Nat :=
  bytes.foldl (fun n b => 256 * n + b.toNat) 0

/-- **A number is read back.** -/
theorem ofBigEndian_bigEndian (n value : Nat) :
    ofBigEndian (bigEndian n value) = value % 256 ^ n := by
  have hfold : ∀ start, (bigEndian n value).foldl (fun n b => 256 * n + b.toNat) start
      = 256 ^ n * start + value % 256 ^ n := by
    induction n with
    | zero => intro start; simp [bigEndian, Nat.mod_one]
    | succ n ih =>
      intro start
      -- the highest of the bytes comes first
      have hsucc : bigEndian (n + 1) value
          = UInt8.ofNat (value >>> (8 * n)) :: bigEndian n value := by
        simp [bigEndian, List.range_succ]
      have hbyte : (UInt8.ofNat (value >>> (8 * n))).toNat = value / 256 ^ n % 256 := by
        rw [UInt8.toNat_ofNat', Nat.shiftRight_eq_div_pow, Nat.pow_mul]
      rw [hsucc, List.foldl_cons, ih, hbyte, Nat.pow_succ, Nat.mod_mul, Nat.mul_add, Nat.mul_assoc,
        Nat.add_assoc, Nat.add_comm (value % 256 ^ n)]
  simpa [ofBigEndian] using hfold 0

/-! ### Cutting at the sentinel -/

/-- The bytes up to the first sentinel, and those from it on. -/
def cut (bytes : Feed) : Feed × Feed :=
  (bytes.takeWhile (· ≠ sentinel), bytes.dropWhile (· ≠ sentinel))

theorem cut_append {content : Feed} (h : sentinel ∉ content) (rest : Feed) :
    cut (content ++ sentinel :: rest) = (content, sentinel :: rest) := by
  have hcontent : ∀ b ∈ content, decide (b ≠ sentinel) = true := by
    intro b hb
    exact decide_eq_true fun heq => h (heq ▸ hb)
  rw [cut, List.takeWhile_append_of_pos hcontent, List.dropWhile_append_of_pos hcontent]
  simp

/-- The bytes behind a sentinel. -/
def closed? : Feed → Option Feed
  | [] => none
  | b :: rest => if b = sentinel then some rest else none

@[simp] theorem closed?_sentinel (rest : Feed) : closed? (sentinel :: rest) = some rest := rfl

/-! ### Tags -/

/-- The start of a field. -/
def tag (name : String) : Feed :=
  utf8 name ++ utf8 ":"

/-- The bytes do not start with the tag. -/
def Apart (name : String) (bytes : Feed) : Prop :=
  ¬ tag name <+: bytes

/-- Neither tag starts with the other. -/
def Differ (name other : String) : Prop :=
  ¬ tag name <+: tag other ∧ ¬ tag other <+: tag name

instance (name other : String) : Decidable (Differ name other) := by
  unfold Differ
  infer_instance

/-- A tag starts with a byte of its own. -/
theorem exists_tag_eq_cons (name : String) : ∃ b bytes, tag name = b :: bytes ∧ b ≠ sentinel := by
  obtain ⟨b, bytes, hb⟩ : ∃ b bytes, tag name = b :: bytes :=
    List.exists_cons_of_ne_nil (by simp [tag])
  refine ⟨b, bytes, hb, ?_⟩
  rintro rfl
  have hmem : sentinel ∈ tag name := by
    rw [hb]
    exact List.mem_cons_self ..
  rcases List.mem_append.1 hmem with h | h
  · exact sentinel_notMem_utf8 _ h
  · exact sentinel_notMem_utf8 _ h

/-- Before a sentinel no tag starts. -/
theorem apart_sentinel (name : String) (rest : Feed) : Apart name (sentinel :: rest) := by
  intro h
  obtain ⟨b, bytes, hb, hne⟩ := exists_tag_eq_cons name
  rw [hb, List.cons_prefix_cons] at h
  exact hne h.1

/-- At the end no tag starts. -/
theorem apart_nil (name : String) : Apart name [] := by
  simp [Apart, tag]

/-- Behind a tag that differs no other stands. -/
theorem apart_tag {name other : String} (h : Differ name other) (rest : Feed) :
    Apart name (tag other ++ rest) := by
  intro hprefix
  rcases List.prefix_or_prefix_of_prefix hprefix (List.prefix_append ..) with hle | hle
  · exact h.1 hle
  · exact h.2 hle

end Sidecar.Feed
