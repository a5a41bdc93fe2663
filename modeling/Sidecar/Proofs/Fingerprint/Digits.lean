/-
**The digits of fingerprints.**

A fingerprint writes the first eight bytes of a digest, each in two digits of the base sixteen.
Read as a number, the highest byte first, these bytes have 64 bits, and the digits are those of the
number, with as many zeros before them as it takes to have sixteen.

Main definitions:

* `Sidecar.Text.lowerHex` — the digits of the base sixteen;
* `Sidecar.Text.paddedHex` — a number in so many of them.

Main results:

* `Sidecar.Text.flatMap_hexByte` — bytes are written as the number that they make;
* `Sidecar.Rule.toList_fingerprint` — **a fingerprint writes the number of the first eight bytes.**
-/

import Mathlib.Data.List.Induction
import Sidecar.Proofs.Fingerprint.Bytes
import Sidecar.Rule.Basic

set_option autoImplicit false

namespace Sidecar

namespace Text

/-! ### Numbers in the base sixteen -/

/-- The characters from one to another, both among them. -/
def between (a b : Char) : List Char :=
  (List.range' a.toNat (b.toNat + 1 - a.toNat)).map Char.ofNat

/-- The digits of the base sixteen, of two cases the lower. -/
def lowerHex : List Char :=
  between '0' '9' ++ between 'a' 'f'

/-- The lowest digits of a number in the base sixteen, so many of them, the highest first. -/
def paddedHex (width n : Nat) : List Char :=
  (List.range width).reverse.map fun i => Nat.digitChar (n / 16 ^ i % 16)

@[simp] theorem length_paddedHex (width n : Nat) : (paddedHex width n).length = width := by
  simp [paddedHex]

theorem mem_lowerHex_of_mem_paddedHex {width n : Nat} {c : Char} (h : c ∈ paddedHex width n) :
    c ∈ lowerHex := by
  have hdigit : ∀ d < 16, Nat.digitChar d ∈ lowerHex := by decide +kernel
  obtain ⟨i, _, rfl⟩ := List.mem_map.1 h
  exact hdigit _ (Nat.mod_lt _ (by decide))

theorem isAlphanum_of_mem_lowerHex : ∀ c ∈ lowerHex, c.isAlphanum = true :=
  List.all_eq_true.1 (by decide)

/-- A byte adds its two digits. -/
theorem paddedHex_add_byte (width n : Nat) (b : UInt8) :
    paddedHex (width + 2) (256 * n + b.toNat) = paddedHex width n ++ hexByte b := by
  have hdigit : ∀ d < 16, hexDigit d = Nat.digitChar d := by decide
  have hb := b.toNat_lt
  have hhigh : ∀ i, (256 * n + b.toNat) / 16 ^ (i + 2) = n / 16 ^ i := by
    intro i
    rw [Nat.add_comm i, Nat.pow_add, ← Nat.div_div_eq_div_mul]
    congr 1
    omega
  have hfirst : (256 * n + b.toNat) / 16 % 16 = b.toNat / 16 := by omega
  have hsecond : (256 * n + b.toNat) % 16 = b.toNat % 16 := by omega
  have hrange : List.range (width + 2) = 0 :: 1 :: (List.range width).map (· + 2) := by
    rw [List.range_succ_eq_map, List.range_succ_eq_map]
    simp
  simp only [paddedHex, hexByte, hrange, List.reverse_cons, List.append_assoc, List.map_append,
    List.map_cons, List.map_nil, ← List.map_reverse, List.map_map, Function.comp_def, hhigh,
    Nat.pow_one, Nat.pow_zero, Nat.div_one, hfirst, hsecond, List.cons_append, List.nil_append]
  rw [hdigit _ (by omega), hdigit _ (by omega)]

/-- The digits of bytes are those of the number that they make, the highest first. -/
theorem flatMap_hexByte (bytes : List UInt8) :
    bytes.flatMap hexByte = paddedHex (2 * bytes.length) (Feed.ofBigEndian bytes) := by
  induction bytes using List.reverseRecOn with
  | nil => rfl
  | append_singleton bytes b ih =>
      have hnumber : Feed.ofBigEndian (bytes ++ [b]) = 256 * Feed.ofBigEndian bytes + b.toNat := by
        simp [Feed.ofBigEndian, List.foldl_append]
      rw [List.flatMap_append, ih, hnumber, List.length_append, List.length_singleton, Nat.mul_add,
        Nat.mul_one, paddedHex_add_byte, List.flatMap_singleton]

end Text

/-! ### Fingerprints -/

namespace Rule

/-- **A fingerprint writes the number of the first eight bytes** of the digest in sixteen digits. -/
theorem toList_fingerprint (r : Rule) : r.fingerprint.toList
    = Text.paddedHex 16 (Feed.ofBigEndian ((Sha256.digest r.feed).take 8)) := by
  have hlen : ((Sha256.digest r.feed).take 8).length = 8 := by
    rw [List.length_take, Sha256.length_digest]
    rfl
  rw [fingerprint, Sidecar.fingerprint, String.toList_ofList, Text.flatMap_hexByte, hlen]

/-- A fingerprint is made of lowercase digits of the base sixteen. -/
theorem mem_lowerHex_of_mem_fingerprint {r : Rule} {c : Char} (h : c ∈ r.fingerprint.toList) :
    c ∈ Text.lowerHex := by
  rw [toList_fingerprint] at h
  exact Text.mem_lowerHex_of_mem_paddedHex h

theorem length_toList_fingerprint (r : Rule) : r.fingerprint.toList.length = 16 := by
  rw [toList_fingerprint, Text.length_paddedHex]

theorem isAlphanum_of_mem_fingerprint {r : Rule} {c : Char} (h : c ∈ r.fingerprint.toList) :
    c.isAlphanum = true :=
  Text.isAlphanum_of_mem_lowerHex c (mem_lowerHex_of_mem_fingerprint h)

end Rule

end Sidecar
