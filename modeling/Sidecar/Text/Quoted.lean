/-
**Quoted text.**

Messages show a text that came from outside between double quotes.  The quote and the backslash
have a backslash before them, five controls have short names, and a character that does not show
as it is (`Sidecar.Text.isEscaped`) is written by its number in lowercase hexadecimal.

Main definition: `Sidecar.Text.quoted`.
-/

import Sidecar.Text.Escaped

set_option autoImplicit false

namespace Sidecar.Text

/-- The number in lowercase hexadecimal, without leading zeros. -/
def hexDigits (n : Nat) : List Char :=
  Nat.toDigits 16 n

/-- How quoted text writes one character. -/
def quotedChar (c : Char) : List Char :=
  match c with
  | '\x00' => ['\\', '0']
  | '\t' => ['\\', 't']
  | '\n' => ['\\', 'n']
  | '\r' => ['\\', 'r']
  | '"' => ['\\', '"']
  | '\\' => ['\\', '\\']
  | c => if isEscaped c then ['\\', 'u', '{'] ++ hexDigits c.toNat ++ ['}'] else [c]

/-- The text between double quotes, with escapes. -/
def quoted (s : String) : String :=
  String.ofList ('"' :: s.toList.flatMap quotedChar ++ ['"'])

end Sidecar.Text
