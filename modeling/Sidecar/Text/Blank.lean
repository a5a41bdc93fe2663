/-
**Blank characters and trimming.**

A blank is a character with the Unicode property White_Space.  Trimming removes the blanks at both
ends of a text and nothing else.

Main definitions:

* `Sidecar.Text.isBlank` — the property;
* `Sidecar.Text.trim` — the text without the blanks at its ends.

Main result: `Sidecar.Text.trimChars_of_ends` — a text that starts and ends with no blank is left
alone.
-/

import Sidecar.Text.CodeRanges

set_option autoImplicit false

namespace Sidecar.Text

/-- The characters with the property White_Space. -/
def blanks : CodeRanges :=
  ⟨[(0x09, 0x0d), (0x20, 0x20), (0x85, 0x85), (0xa0, 0xa0), (0x1680, 0x1680), (0x2000, 0x200a),
    (0x2028, 0x2029), (0x202f, 0x202f), (0x205f, 0x205f), (0x3000, 0x3000)]⟩

/-- Whether the character is a blank. -/
def isBlank (c : Char) : Bool :=
  blanks.has c

/-- The characters without the blanks at both ends. -/
def trimChars (cs : List Char) : List Char :=
  ((cs.dropWhile isBlank).reverse.dropWhile isBlank).reverse

/-- The text without the blanks at both ends. -/
def trim (s : String) : String :=
  String.ofList (trimChars s.toList)

/-- A text whose ends are no blanks is left as it is. -/
theorem trimChars_of_ends (cs : List Char)
    (hfirst : ∀ c, cs.head? = some c → isBlank c = false)
    (hlast : ∀ c, cs.getLast? = some c → isBlank c = false) : trimChars cs = cs := by
  have hd : ∀ ds : List Char, (∀ c, ds.head? = some c → isBlank c = false) →
      ds.dropWhile isBlank = ds := by
    intro ds h
    cases ds with
    | nil => rfl
    | cons d ds => simp [h d rfl]
  rw [trimChars, hd cs hfirst, hd cs.reverse (by simpa using hlast), List.reverse_reverse]

end Sidecar.Text
