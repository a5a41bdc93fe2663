/-
**A place in a text.**

A cursor holds what is left of a text and where that begins: how many characters have been read,
in which line and in which column.

Main definitions:

* `Sidecar.Yaml.Cursor` — the type; `Sidecar.Yaml.Cursor.ofText` — the beginning of a text;
* `Sidecar.Yaml.Cursor.skip`, `Sidecar.Yaml.Cursor.span` — going on within a line;
* `Sidecar.Yaml.Cursor.lineBreak` — going on to the next line;
* `Sidecar.Yaml.Cursor.atMark` — whether a mark between documents stands here.
-/

import Sidecar.Yaml.Character

set_option autoImplicit false

namespace Sidecar.Yaml

/-- What is left of a text, and where it begins. -/
structure Cursor where
  rest : List Char
  /-- The number of characters read. -/
  index : Nat
  line : Nat
  column : Nat

namespace Cursor

/-- The beginning of a text. -/
def ofText (cs : List Char) : Cursor := ⟨cs, 0, 0, 0⟩

/-- The place `n` characters further in the line. -/
def skip (n : Nat) (c : Cursor) : Cursor :=
  ⟨c.rest.drop n, c.index + n, c.line, c.column + n⟩

/-- The characters up to the first that fails the test, and the place of that. -/
def span (test : Char → Bool) (c : Cursor) : List Char × Cursor :=
  let taken := c.rest.takeWhile test
  (taken, c.skip taken.length)

/-- The place after the characters that pass the test. -/
def skipWhile (test : Char → Bool) (c : Cursor) : Cursor :=
  (c.span test).2

/-- A line break and the beginning of the next line; nothing if no line breaks here.  A carriage
return and a line feed are one break. -/
def lineBreak (c : Cursor) : List Char × Cursor :=
  match c.rest with
  | '\r' :: '\n' :: rest => (['\n'], ⟨rest, c.index + 2, c.line + 1, 0⟩)
  | x :: rest =>
    if x = '\u2028' ∨ x = '\u2029' then ([x], ⟨rest, c.index + 1, c.line + 1, 0⟩)
    else if isBreak x then (['\n'], ⟨rest, c.index + 1, c.line + 1, 0⟩)
    else ([], c)
  | [] => ([], c)

/-- The place after blanks and a comment. -/
def skipComment (c : Cursor) : Cursor :=
  match c.rest with
  | '#' :: _ => c.skipWhile (!isBreak ·)
  | _ => c

/-- Whether the character stands here. -/
def startsWith (x : Char) (c : Cursor) : Bool :=
  c.rest.head? == some x

/-- Whether a mark between documents stands here: three hyphens or dots at the beginning of a
line, with a gap after them. -/
def atMark (c : Cursor) : Bool :=
  c.column == 0 && startsWithMark c.rest && atGap (c.rest.drop 3)

@[simp] theorem rest_skip (n : Nat) (c : Cursor) : (c.skip n).rest = c.rest.drop n := rfl

end Cursor

end Sidecar.Yaml
