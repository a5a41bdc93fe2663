/-
**Reading scalars.**

A scalar is a text in one of five styles.  Plain and quoted scalars may go on over several lines:
a single line break is read as a space, and of several the first is left out.  Block scalars keep
their lines, or fold them likewise, and end where the text is indented less.

Main definitions:

* `Sidecar.Yaml.Style` — the styles;
* `Sidecar.Yaml.Gap`, `Sidecar.Yaml.Gap.text` — blanks and breaks inside a scalar, and what they
  are read as;
* `Sidecar.Yaml.Scalar.plain?`, `Sidecar.Yaml.Scalar.quoted?`, `Sidecar.Yaml.Scalar.block?` — a
  scalar at a place of a text and the place after it.
-/

import Sidecar.Text.HexDigit
import Sidecar.Yaml.Cursor

set_option autoImplicit false

namespace Sidecar.Yaml

/-- The styles of scalars. -/
inductive Style where
  | plain
  | singleQuoted
  | doubleQuoted
  | literal
  | folded
deriving DecidableEq

/-! ### Blanks and breaks inside a scalar -/

/-- Blanks and breaks between two words of a scalar. -/
structure Gap where
  /-- The blanks before any break. -/
  blanks : List Char
  /-- The first break. -/
  first : List Char
  /-- The breaks after it. -/
  further : List Char
  /-- Whether a line ends here; the break itself may have been escaped. -/
  broken : Bool

namespace Gap

/-- No gap. -/
def empty : Gap := ⟨[], [], [], false⟩

/-- The gap after a break that was escaped. -/
def escapedBreak : Gap := ⟨[], [], [], true⟩

/-- One line break as a space, or several without the first. -/
def folded (first further : List Char) : List Char :=
  if first.head? = some '\n' then if further.isEmpty then [' '] else further
  else first ++ further

/-- What the gap is read as. -/
def text (gap : Gap) : List Char :=
  if gap.broken then folded gap.first gap.further else gap.blanks

/-- The blanks and breaks at a place, after those of `gap`.  It is an error if a tab stands in a
new line before the column `margin`. -/
def scan? (margin : Nat) : (fuel : Nat) → Gap → Cursor → Option (Gap × Cursor)
  | 0, _, _ => none
  | fuel + 1, gap, c =>
    match c.rest with
    | [] => some (gap, c)
    | x :: _ =>
      if isBlank x then
        if gap.broken && decide (c.column < margin) && x == '\t' then none
        else if gap.broken then scan? margin fuel gap (c.skip 1)
        else scan? margin fuel { gap with blanks := gap.blanks ++ [x] } (c.skip 1)
      else if isBreak x then
        let (lineBreak, next) := c.lineBreak
        if gap.broken then scan? margin fuel { gap with further := gap.further ++ lineBreak } next
        else scan? margin fuel ⟨[], lineBreak, gap.further, true⟩ next
      else some (gap, c)

@[simp] theorem text_empty : empty.text = [] := rfl

/-- A single line feed is read as a space. -/
@[simp] theorem folded_lineFeed : folded ['\n'] [] = [' '] := rfl

end Gap

namespace Scalar

/-! ### Plain scalars -/

/-- The characters that end a plain scalar inside brackets. -/
def isBracket (c : Char) : Bool :=
  c = ',' || c = '[' || c = ']' || c = '{' || c = '}'

/-- The word of a plain scalar at the head of a text, up to a gap, a colon before a gap, or inside
brackets a bracket or comma.  A colon right before one of these is an error. -/
def word? (inFlow : Bool) : List Char → Option (List Char)
  | [] => some []
  | x :: rest =>
    if isGap x then some []
    else if inFlow && x == ':' && (rest.head?.any fun y => isBracket y || y == '?') then none
    else if x = ':' ∧ atGap rest then some []
    else if inFlow && isBracket x then some []
    else (word? inFlow rest).map (x :: ·)

/-- The rest of a plain scalar after the text read so far and a gap: the whole text, whether the
last gap ends a line, and the place after that gap.  Outside brackets, lines whose text begins
before the column `margin` do not belong to the scalar. -/
def plainRest? (inFlow : Bool) (margin : Nat) :
    (fuel : Nat) → List Char → Gap → Cursor → Option (List Char × Bool × Cursor)
  | 0, _, _, _ => none
  | fuel + 1, text, gap, c =>
    if c.atMark || c.startsWith '#' then some (text, gap.broken, c)
    else do
      let word ← word? inFlow c.rest
      let (text, gap) := if word.isEmpty then (text, gap) else (text ++ gap.text ++ word, .empty)
      let c := c.skip word.length
      match c.rest with
      | [] => some (text, gap.broken, c)
      | x :: _ =>
        if isGap x then
          let (gap, c) ← Gap.scan? margin (c.rest.length + 1) .empty c
          if !inFlow && decide (c.column < margin) then some (text, gap.broken, c)
          else plainRest? inFlow margin fuel text gap c
        else some (text, gap.broken, c)

/-- A plain scalar: its text, whether the gap after it ends a line, and the place after that
gap. -/
def plain? (inFlow : Bool) (margin : Nat) (c : Cursor) : Option (List Char × Bool × Cursor) :=
  plainRest? inFlow margin (c.rest.length + 1) [] .empty c

/-! ### Quoted scalars -/

/-- The character whose number the next `digits` hexadecimal digits write. -/
def codePoint? (digits : Nat) (cs : List Char) : Option (Char × Nat) := do
  let written := cs.take digits
  let values ← written.mapM Text.hexValue?
  let n := values.foldl (· * 16 + ·) 0
  if written.length = digits ∧ n.isValidChar then some (Char.ofNat n, digits + 2) else none

/-- The character that an escape after a backslash stands for, and the length of the escape with
the backslash. -/
def escape? : List Char → Option (Char × Nat)
  | '0' :: _ => some ('\x00', 2)
  | 'a' :: _ => some ('\x07', 2)
  | 'b' :: _ => some ('\x08', 2)
  | 't' :: _ | '\t' :: _ => some ('\t', 2)
  | 'n' :: _ => some ('\n', 2)
  | 'v' :: _ => some ('\x0b', 2)
  | 'f' :: _ => some ('\x0c', 2)
  | 'r' :: _ => some ('\r', 2)
  | 'e' :: _ => some ('\x1b', 2)
  | ' ' :: _ => some (' ', 2)
  | '"' :: _ => some ('"', 2)
  | '/' :: _ => some ('/', 2)
  | '\\' :: _ => some ('\\', 2)
  | 'N' :: _ => some ('\x85', 2)
  | '_' :: _ => some ('\xa0', 2)
  | 'L' :: _ => some ('\u2028', 2)
  | 'P' :: _ => some ('\u2029', 2)
  | 'x' :: rest => codePoint? 2 rest
  | 'u' :: rest => codePoint? 4 rest
  | 'U' :: rest => codePoint? 8 rest
  | _ => none

/-- The word of a quoted scalar up to a gap or the closing quote, and the gap that an escaped line
break after it begins. -/
def quotedWord? (double : Bool) : (fuel : Nat) → Cursor → Option (List Char × Gap × Cursor)
  | 0, _ => none
  | fuel + 1, c =>
    let go (x : Char) (length : Nat) : Option (List Char × Gap × Cursor) :=
      (quotedWord? double fuel (c.skip length)).map fun (xs, rest) => (x :: xs, rest)
    match c.rest with
    | [] => some ([], .empty, c)
    | x :: rest =>
      if isGap x then some ([], .empty, c)
      else if double then
        if x = '"' then some ([], .empty, c)
        else if x = '\\' then
          if rest.head?.any isBreak then some ([], .escapedBreak, (c.skip 1).lineBreak.2)
          else (escape? rest).bind fun (y, length) => go y length
        else go x 1
      else if x = '\'' then
        if rest.head? = some '\'' then go x 2 else some ([], .empty, c)
      else go x 1

/-- The rest of a quoted scalar after its opening quote and the text read so far. -/
def quotedRest? (double : Bool) : (fuel : Nat) → List Char → Cursor → Option (List Char × Cursor)
  | 0, _, _ => none
  | fuel + 1, text, c =>
    if c.atMark || c.rest.isEmpty then none
    else do
      let (word, gap, c) ← quotedWord? double (c.rest.length + 1) c
      let text := text ++ word
      if c.startsWith (if double then '"' else '\'') then some (text, c.skip 1)
      else
        let (gap, c) ← gap.scan? 0 (c.rest.length + 1) c
        quotedRest? double fuel (text ++ gap.text) c

/-- A quoted scalar and the place after its closing quote. -/
def quoted? (double : Bool) (c : Cursor) : Option (List Char × Cursor) :=
  quotedRest? double (c.rest.length + 1) [] (c.skip 1)

/-! ### Block scalars -/

/-- Which of the line breaks at its end belong to a block scalar. -/
inductive Chomping where
  /-- None. -/
  | strip
  /-- The first. -/
  | clip
  /-- All. -/
  | keep
deriving DecidableEq

/-- The chomping that a sign stands for. -/
def Chomping.ofChar? : Char → Option Chomping
  | '+' => some .keep
  | '-' => some .strip
  | _ => none

/-- The sign and the digit after the indicator of a block scalar, in either order, and the place
after them.  A digit zero is an error; without a digit the increment is zero. -/
def blockHeader? (c : Cursor) : Option (Chomping × Nat × Cursor) :=
  let digit? (c : Cursor) : Option (Nat × Cursor) :=
    match c.rest with
    | '0' :: _ => none
    | x :: _ => if x.isDigit then some (x.toNat - '0'.toNat, c.skip 1) else some (0, c)
    | [] => some (0, c)
  let sign? (c : Cursor) : Option (Chomping × Cursor) :=
    (c.rest.head?.bind Chomping.ofChar?).map (·, c.skip 1)
  match sign? c with
  | some (chomping, c) => (digit? c).map fun (n, c) => (chomping, n, c)
  | none => (digit? c).map fun (n, c) =>
    if n = 0 then (.clip, 0, c)
    else match sign? c with
      | some (chomping, c) => (chomping, n, c)
      | none => (.clip, n, c)

/-- The empty lines at a place, the greatest indentation among them and the next line, and the
place after the indentation of that.  An `indent` of zero is not known yet, so all spaces are
indentation.  A tab in the place of indentation is an error. -/
def emptyLines? (indent : Nat) :
    (fuel : Nat) → (breaks : List Char) → (deepest : Nat) → Cursor →
      Option (List Char × Nat × Cursor)
  | 0, _, _, _ => none
  | fuel + 1, breaks, deepest, c =>
    let spaces := (c.rest.takeWhile (· = ' ')).length
    let c := c.skip (if indent = 0 then spaces else min spaces (indent - c.column))
    let deepest := max deepest c.column
    match c.rest with
    | [] => some (breaks, deepest, c)
    | x :: _ =>
      if (indent = 0 ∨ c.column < indent) ∧ x = '\t' then none
      else if isBreak x then
        let (lineBreak, c) := c.lineBreak
        emptyLines? indent fuel (breaks ++ lineBreak) deepest c
      else some (breaks, deepest, c)

/-- The lines of a block scalar after the text read so far: `lineBreak` ends the last line,
`breaks` are those of the empty lines after it, and `blank` says whether that line begins with a
blank.  Returns the text and the breaks at its end. -/
def blockLines? (literal : Bool) (indent : Nat) :
    (fuel : Nat) → (text lineBreak breaks : List Char) → (blank : Bool) → Cursor →
      Option (List Char × List Char × List Char × Cursor)
  | 0, _, _, _, _, _ => none
  | fuel + 1, text, lineBreak, breaks, blank, c =>
    if c.column = indent ∧ !c.rest.isEmpty then do
      let nextBlank := c.rest.head?.any isBlank
      let joined :=
        if !literal && lineBreak.head? == some '\n' && !blank && !nextBlank then
          Gap.folded lineBreak breaks
        else lineBreak ++ breaks
      let (line, c) := c.span (!isBreak ·)
      let (lineBreak, c) := c.lineBreak
      let (breaks, _, c) ← emptyLines? indent (c.rest.length + 1) [] 0 c
      blockLines? literal indent fuel (text ++ joined ++ line) lineBreak breaks nextBlank c
    else some (text, lineBreak, breaks, c)

/-- A block scalar after its indicator, and the place after it.  Its lines are indented at least
to the column `margin`. -/
def block? (literal : Bool) (margin : Nat) (c : Cursor) : Option (List Char × Cursor) := do
  let (chomping, increment, c) ← blockHeader? c
  let c := (c.skipWhile isBlank).skipComment
  if !atLineEnd c.rest then none
  else
    let (_, c) := c.lineBreak
    let given := if increment = 0 then 0 else margin - 1 + increment
    let (breaks, deepest, c) ← emptyLines? given (c.rest.length + 1) [] 0 c
    let indent := if given = 0 then max deepest (max margin 1) else given
    let (text, lineBreak, breaks, c) ←
      blockLines? literal indent (c.rest.length + 1) [] [] breaks false c
    let tail := match chomping with
      | .strip => []
      | .clip => lineBreak
      | .keep => lineBreak ++ breaks
    some (text ++ tail, c)

end Scalar

end Sidecar.Yaml
