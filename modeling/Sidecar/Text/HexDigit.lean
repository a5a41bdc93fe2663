/-
**Hexadecimal digits.**

Main definition: `Sidecar.Text.hexValue?` — the value of a digit.
-/

set_option autoImplicit false

namespace Sidecar.Text

/-- The value of a hexadecimal digit, its letter in either case. -/
def hexValue? (c : Char) : Option Nat :=
  if '0' ≤ c && c ≤ '9' then some (c.toNat - '0'.toNat)
  else if 'a' ≤ c && c ≤ 'f' then some (c.toNat - 'a'.toNat + 10)
  else if 'A' ≤ c && c ≤ 'F' then some (c.toNat - 'A'.toNat + 10)
  else none

end Sidecar.Text
