/-
**Writing documents as YAML.**

A document is written in block style, two columns a level, with the entries of a mapping in the
order given and sequences not indented beyond the mapping around them.  An empty collection is
written in brackets.

A text is written plain if it can be read back as that text and nothing else; then in single quotes;
and in double quotes with escapes if it holds characters that cannot be written as themselves.  A
text with line feeds is a literal block, where that is possible.  A key of several lines, or of more
than 128 bytes, is written after an indicator of its own.

Main definitions:

* `Sidecar.Yaml.Printer.style` — the style that a text is written in;
* `Sidecar.Yaml.Printer.scalar` — a text in its style;
* `Sidecar.Yaml.render` — a document.
-/

import Sidecar.Json.Printer
import Sidecar.Yaml.Plain
import Sidecar.Yaml.Scalar

set_option autoImplicit false

namespace Sidecar.Yaml

/-! ### Styles -/

namespace Printer

/-- Whether two characters in a row pass the tests. -/
def adjacent (first second : Char → Bool) (cs : List Char) : Bool :=
  (cs.zip cs.tail).any fun (a, b) => first a && second b

/-- Whether the text is on one line and not split or begun by an indicator, so that it can be
plain: it does not begin like a mark between documents, nor with an indicator; no colon stands
before a gap, and no number sign after one. -/
def hasIndicator (cs : List Char) : Bool :=
  let blocked (x : Char) (rest : List Char) : Bool :=
    "#,[]\x7b\x7d&*!|>'\"%@`".toList.contains x
      || (atGap rest && (x == '?' || x == ':' || x == '-'))
  startsWithMark cs
    || (match cs with
      | [] => false
      | x :: rest => blocked x rest)
    || adjacent (· = ':') isGap cs || cs.getLast? == some ':'
    || adjacent isGap (· = '#') cs

/-- Whether a character must be escaped. -/
def isSpecial (c : Char) : Bool := !isPrintable c

/-- Whether blanks at a line's end would be lost, or a character must be escaped. -/
def needsEscapes (cs : List Char) : Bool :=
  adjacent (· = ' ') isBreak cs || cs.any isSpecial

/-- Whether a space or break begins or ends the text. -/
def hasGapAtEnd (cs : List Char) : Bool :=
  let outer (c : Char) : Bool := c = ' ' || isBreak c
  cs.head?.any outer || cs.getLast?.any outer

/-- Whether the text can be plain. -/
def allowsPlain (cs : List Char) : Bool :=
  !(hasGapAtEnd cs || cs.any isBreak || needsEscapes cs || hasIndicator cs)

/-- Whether the text can stand in single quotes: no line of it begins with a space. -/
def allowsSingleQuoted (cs : List Char) : Bool :=
  !(adjacent isBreak (· = ' ') cs || needsEscapes cs)

/-- Whether the text can be a literal block: its last character is no space. -/
def allowsLiteral (cs : List Char) : Bool :=
  !(cs.isEmpty || cs.getLast? == some ' ' || needsEscapes cs)

/-- The style that a text is written in. -/
def style (s : String) : Style :=
  let cs := s.toList
  let quoted : Style := if allowsSingleQuoted cs then .singleQuoted else .doubleQuoted
  if cs.contains '\n' then if allowsLiteral cs then .literal else .doubleQuoted
  else if Plain.isText s && allowsPlain cs then .plain
  else quoted

/-! ### Scalars -/

/-- `n` spaces. -/
def spaces (n : Nat) : String := String.ofList (List.replicate n ' ')

/-- A hexadecimal number of the given width, in capital letters. -/
def hex (width n : Nat) : String :=
  String.ofList ((List.range width).reverse.map fun i =>
    let d := n >>> (4 * i) % 16
    if d < 10 then Char.ofNat ('0'.toNat + d) else Char.ofNat ('A'.toNat + (d - 10)))

/-- The escape of a character inside double quotes. -/
def escape (c : Char) : String :=
  match c with
  | '\x00' => "\\0"
  | '\x07' => "\\a"
  | '\x08' => "\\b"
  | '\t' => "\\t"
  | '\n' => "\\n"
  | '\x0b' => "\\v"
  | '\x0c' => "\\f"
  | '\r' => "\\r"
  | '\x1b' => "\\e"
  | '"' => "\\\""
  | '\\' => "\\\\"
  | '\x85' => "\\N"
  | '\u2028' => "\\L"
  | '\u2029' => "\\P"
  | c =>
    if c.toNat < 0x100 then "\\x" ++ hex 2 c.toNat
    else if c.toNat < 0x10000 then "\\u" ++ hex 4 c.toNat
    else "\\U" ++ hex 8 c.toNat

/-- A text in double quotes. -/
def doubleQuoted (cs : List Char) : String :=
  let char (c : Char) : String :=
    if isSpecial c || isBreak c || c = '"' || c = '\\' then escape c else c.toString
  "\"" ++ String.join (cs.map char) ++ "\""

/-- The lines of a text in which every line but an empty one is indented. -/
def indentLines (indent : Nat) : (atStart : Bool) → List Char → String
  | _, [] => ""
  | atStart, c :: rest =>
    let here := c.toString
    if isBreak c then here ++ indentLines indent true rest
    else (if atStart then spaces indent else "") ++ here ++ indentLines indent false rest

/-- A text in single quotes: a quote is written twice, and the lines after a break are
indented. -/
def singleQuoted (indent : Nat) (cs : List Char) : String :=
  let doubled := cs.flatMap fun c => if c = '\'' then ['\'', '\''] else [c]
  let tail := if cs.getLast?.any isBreak then spaces indent else ""
  "'" ++ indentLines indent false doubled ++ tail ++ "'"

/-- The sign for the breaks at the end of a block: none are kept, all are, or only the first. -/
def chomping (cs : List Char) : String :=
  match cs.reverse with
  | [] => "-"
  | [c] => if isBreak c then "+" else "-"
  | c :: d :: _ => if isBreak c then if isBreak d then "+" else "" else "-"

/-- A literal block: its header and its lines, indented. -/
def literal (indent : Nat) (cs : List Char) : String :=
  let hint := if cs.head?.any fun c => c = ' ' || isBreak c then "2" else ""
  "|" ++ hint ++ chomping cs ++ "\n" ++ indentLines indent true cs

/-- A text in its style; what it has beyond its first line is indented. -/
def scalar (indent : Nat) (s : String) : String :=
  let cs := s.toList
  match style s with
  | .plain => s
  | .singleQuoted => singleQuoted indent cs
  | .literal => literal indent cs
  | _ => doubleQuoted cs

/-! ### Collections -/

/-- What is written before a new line: a line feed, unless the line ends already. -/
def endLine (written : String) : String :=
  if written.toList.getLast?.any isBreak then written else written ++ "\n"

/-- Lines one after another, each indented but the first. -/
def stack (indent : Nat) : List String → String
  | [] => ""
  | [line] => line
  | line :: rest => endLine line ++ spaces indent ++ stack indent rest

/-- Whether a key needs an indicator: it has several lines or more than 128 bytes. -/
def isComplexKey (s : String) : Bool :=
  s.toList.any isBreak || 128 < s.utf8ByteSize

/-- A key with its colon. -/
def key (indent : Nat) (s : String) : String :=
  if isComplexKey s then
    endLine ("? " ++ scalar (indent + 2) s) ++ spaces indent ++ ":"
  else scalar (indent + 2) s ++ ":"

/-- A value that stands on the line of its key or indicator: a scalar or an empty collection. -/
def inline (indent : Nat) : Json → String
  | .str s => scalar (indent + 2) s
  | .arr _ => "[]"
  | .obj _ => "\x7b\x7d"
  | json => json.render

/-- The column of the lines of a collection that belongs to a key or an indicator: the next level,
but a sequence after a simple key stays where that is. -/
def columnOf (indent : Nat) (simpleKey : Bool) : Json → Nat
  | .arr _ => if simpleKey then indent else indent + 2
  | _ => indent + 2

/-- What follows a key or an indicator: the lines of a collection, which begin on a new line after
a simple key, or else a value on the same line. -/
def follow (indent : Nat) (simpleKey : Bool) (json : Json) (lines : List String) : String :=
  let column := columnOf indent simpleKey json
  if lines.isEmpty then " " ++ inline indent json
  else if simpleKey then "\n" ++ spaces column ++ stack column lines
  else " " ++ stack column lines

mutual

/-- The items of a sequence, or the entries of a mapping, that begins in the column. -/
def lines (column : Nat) : Json → List String
  | .arr items => itemLines column items
  | .obj members => entryLines column members
  | _ => []

/-- The items of a sequence, each after its indicator. -/
def itemLines (column : Nat) : List Json → List String
  | [] => []
  | x :: xs =>
    ("-" ++ follow column false x (lines (columnOf column false x) x)) :: itemLines column xs

/-- The entries of a mapping. -/
def entryLines (column : Nat) : List (String × Json) → List String
  | [] => []
  | (k, x) :: es =>
    let simple := !isComplexKey k
    (key column k ++ follow column simple x (lines (columnOf column simple x) x))
      :: entryLines column es

end

end Printer

/-- A document as a YAML text. -/
def render (json : Json) : String :=
  let lines := Printer.lines 0 json
  Printer.endLine (if lines.isEmpty then Printer.inline 0 json else Printer.stack 0 lines)

end Sidecar.Yaml
