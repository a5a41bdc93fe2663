/-
**Sets of characters given by ranges of code points.**

Several texts of this library are classified by properties of the Unicode Character Database.  A
property is held as a list of ranges in ascending order, both ends included.

Main definitions:

* `Sidecar.Text.CodeRanges` — a list of ranges of code points;
* `Sidecar.Text.CodeRanges.has` — membership of a character.
-/

set_option autoImplicit false

namespace Sidecar.Text

/-- Ranges of code points in ascending order, both ends included. -/
structure CodeRanges where
  ranges : List (Nat × Nat)

namespace CodeRanges

/-- Whether the character lies in one of the ranges. -/
def has (set : CodeRanges) (c : Char) : Bool :=
  set.ranges.any fun (first, last) => first ≤ c.toNat && c.toNat ≤ last

theorem has_iff (set : CodeRanges) (c : Char) :
    set.has c = true ↔ ∃ r ∈ set.ranges, r.1 ≤ c.toNat ∧ c.toNat ≤ r.2 := by
  simp [has]

end CodeRanges

end Sidecar.Text
