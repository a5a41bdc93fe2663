/-
**Writing JSON texts.**

The text has no blanks.  Inside a text literal the quote, the backslash and the controls are
escaped, with the short forms where the grammar has one, and every other character stands for
itself.

Main definition: `Sidecar.Json.render`.
-/

import Sidecar.Json.Basic
import Sidecar.Number.Shortest

set_option autoImplicit false

namespace Sidecar.Json

namespace Printer

/-- Floating numbers are positional from five zeros after the point to sixteen digits before it,
and an exponent has a sign. -/
def floatLayout : FloatLayout :=
  ⟨16, -5, ['+']⟩

/-- One character of a text literal. -/
def char (c : Char) : List Char :=
  match c with
  | '"' => ['\\', '"']
  | '\\' => ['\\', '\\']
  | '\x08' => ['\\', 'b']
  | '\x0c' => ['\\', 'f']
  | '\n' => ['\\', 'n']
  | '\r' => ['\\', 'r']
  | '\t' => ['\\', 't']
  | c =>
    if c.toNat < 0x20 then
      let hex := Nat.toDigits 16 c.toNat
      ['\\', 'u'] ++ List.replicate (4 - hex.length) '0' ++ hex
    else [c]

/-- A text literal. -/
def text (s : String) : String :=
  String.ofList ('"' :: s.toList.flatMap char ++ ['"'])

mutual

/-- The text of a document after the text `before`. -/
def write (before : String) : Json → String
  | .null => before ++ "null"
  | .bool b => before ++ if b then "true" else "false"
  | .int n => before ++ toString n
  | .float x => before ++ x.text floatLayout
  | .str s => before ++ text s
  | .arr items => writeItems (before.push '[') true items ++ "]"
  | .obj members => (writeMembers (before.push '{') true members).push '}'

/-- The items of a list; all but the first have a comma before them. -/
def writeItems (before : String) (first : Bool) : List Json → String
  | [] => before
  | x :: xs => writeItems (write (if first then before else before.push ',') x) false xs

/-- The members of an object; all but the first have a comma before them. -/
def writeMembers (before : String) (first : Bool) : List (String × Json) → String
  | [] => before
  | (k, x) :: xs =>
    let before := if first then before else before.push ','
    writeMembers (write ((before ++ text k).push ':') x) false xs

end

end Printer

/-- The text of a document. -/
def render (json : Json) : String :=
  Printer.write "" json

end Sidecar.Json
