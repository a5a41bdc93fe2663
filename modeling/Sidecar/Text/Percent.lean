/-
**Percent escapes.**

In a path a percent sign and two hexadecimal digits stand for a byte; a percent sign that no two
digits follow stands for itself, as does every other character.

Main definition: `Sidecar.Text.percentDecode?` — the text that a path stands for.

Main result: `Sidecar.Text.percentDecode?_of_notMem` — a text without a percent sign stands for
itself.
-/

import Sidecar.Text.HexDigit

set_option autoImplicit false

namespace Sidecar.Text

/-- The byte that two hexadecimal digits write. -/
def hexByte? (a b : Char) : Option UInt8 := do
  let a ← hexValue? a
  let b ← hexValue? b
  some (UInt8.ofNat (a * 16 + b))

/-- The bytes that characters with percent escapes stand for. -/
def percentBytes : List Char → List UInt8
  | '%' :: a :: b :: rest =>
    match hexByte? a b with
    | some byte => byte :: percentBytes rest
    | none => String.utf8EncodeChar '%' ++ percentBytes (a :: b :: rest)
  | c :: rest => String.utf8EncodeChar c ++ percentBytes rest
  | [] => []

/-- The text that a text with percent escapes stands for, if its bytes are one. -/
def percentDecode? (s : String) : Option String :=
  String.fromUTF8? (percentBytes s.toList).toByteArray

theorem percentBytes_of_notMem (cs : List Char) (h : '%' ∉ cs) :
    percentBytes cs = cs.flatMap String.utf8EncodeChar := by
  induction cs with
  | nil => rfl
  | cons c cs ih =>
    have hc : c ≠ '%' := fun heq => h (heq ▸ List.mem_cons_self ..)
    have hcs : '%' ∉ cs := fun hmem => h (List.mem_cons_of_mem _ hmem)
    rw [percentBytes, ih hcs, List.flatMap_cons]
    rintro a b rest heq
    exact absurd heq (by simp [hc])

/-- A text without a percent sign stands for itself. -/
theorem percentDecode?_of_notMem (s : String) (h : '%' ∉ s.toList) :
    percentDecode? s = some s := by
  have hbytes : (s.toList.flatMap String.utf8EncodeChar).toByteArray = s.toByteArray := by
    have := String.toByteArray_ofList (l := s.toList)
    rwa [String.ofList_toList, eq_comm] at this
  rw [percentDecode?, percentBytes_of_notMem _ h, hbytes, String.fromUTF8?,
    dif_pos s.isValidUTF8]
  rfl

end Sidecar.Text
