/-
**Tokens of YAML texts.**

Collections are written in brackets or by indentation.  The start and the end of a collection that
is written by indentation are tokens as well: it starts where an entry stands in a column beyond
the current indentation, and ends where the text goes back to a column before it.

The first token of an entry may turn out to be a key only when the colon after it is met.  So every
token that may be a key is preceded by a *slot*, which the colon fills and which is left out of the
result if it stays empty.  A key without an indicator stands in one line, with at most 1024
characters before the colon; where the indentation requires a key, one that ends otherwise is an
error.

Main definitions:

* `Sidecar.Yaml.Token` — the tokens;
* `Sidecar.Yaml.Scan` — the state between two tokens;
* `Sidecar.Yaml.Scan.next?` — one token more;
* `Sidecar.Yaml.Token.scan?` — the tokens of a text.
-/

import Sidecar.Yaml.Scalar

set_option autoImplicit false

namespace Sidecar.Yaml

/-- A pair of brackets. -/
inductive Bracket where
  | square
  | curly
deriving DecidableEq

/-- The tokens of a text. -/
inductive Token where
  /-- The directive that names the version of the format. -/
  | version (major minor : Nat)
  /-- The directive that declares a handle of tags. -/
  | tagHandle (handle expansion : String)
  | documentStart
  | documentEnd
  | blockSequence
  | blockMapping
  | blockEnd
  | openFlow (bracket : Bracket)
  | closeFlow (bracket : Bracket)
  | entry
  | comma
  | key
  | value
  | alias (name : String)
  | anchor (name : String)
  | tag (handle suffix : String)
  | scalar (style : Style) (text : String)
deriving DecidableEq

/-- A token that may be a key as long as its slot is open. -/
structure Candidate where
  /-- The number of the slot. -/
  slot : Nat
  /-- Whether the indentation requires a key here. -/
  required : Bool
  /-- The place before the token. -/
  place : Cursor

/-- A token, or a slot before one. -/
inductive Piece where
  | token (t : Token)
  | slot (number : Nat)

/-- The state between two tokens. -/
structure Scan where
  cursor : Cursor
  /-- What has been read, the last first. -/
  pieces : List Piece
  /-- The tokens of the slots that have been filled. -/
  filled : List (Nat × List Token)
  /-- The number of the next slot. -/
  slots : Nat
  /-- The columns of the open collections written by indentation, the innermost first. -/
  indents : List Nat
  /-- The candidate of the innermost open collection in brackets, or of the text. -/
  candidate : Option Candidate
  /-- The candidates of the collections around it. -/
  outer : List (Option Candidate)
  /-- Whether the next token may be a key. -/
  keyAllowed : Bool

namespace Scan

/-- The state at the beginning of a text. -/
def start (cs : List Char) : Scan := ⟨.ofText cs, [], [], 0, [], none, [], true⟩

/-- Whether a collection in brackets is open. -/
def inFlow (s : Scan) : Bool := !s.outer.isEmpty

/-- The first column of text that belongs to the innermost collection written by indentation. -/
def margin (s : Scan) : Nat :=
  match s.indents with
  | [] => 0
  | indent :: _ => indent + 1

/-- The state with a token more. -/
def push (t : Token) (s : Scan) : Scan := { s with pieces := .token t :: s.pieces }

/-- The state at another place. -/
def move (c : Cursor) (s : Scan) : Scan := { s with cursor := c }

/-- The candidate unless it is stale; a stale one that is required is an error. -/
def fresh? (c : Cursor) : Option Candidate → Option (Option Candidate)
  | none => some none
  | some k =>
    if k.place.line < c.line ∨ k.place.index + 1024 < c.index then
      if k.required then none else some none
    else some (some k)

/-- Drops the stale candidates. -/
def dropStale? (s : Scan) : Option Scan := do
  let candidate ← fresh? s.cursor s.candidate
  let outer ← s.outer.mapM (fresh? s.cursor)
  some { s with candidate, outer }

/-- Drops the innermost candidate, which must not be required. -/
def dropCandidate? (s : Scan) : Option Scan :=
  if s.candidate.any (·.required) then none else some { s with candidate := none }

/-- Makes the token that is to come a candidate if a key is allowed. -/
def offer? (s : Scan) : Option Scan :=
  if s.keyAllowed then do
    let s ← s.dropCandidate?
    let required := !s.inFlow && s.indents.head? == some s.cursor.column
    some { s with
      candidate := some ⟨s.slots, required, s.cursor⟩
      pieces := .slot s.slots :: s.pieces
      slots := s.slots + 1 }
  else some s

/-- The state inside a collection that starts at the column, and whether it starts here. -/
def indentTo (column : Nat) (s : Scan) : Scan × Bool :=
  if !s.inFlow && decide (s.margin ≤ column) then
    ({ s with indents := column :: s.indents }, true)
  else (s, false)

/-- The columns that are not beyond the given one, and the number of the others. -/
def closing (column : Nat) : List Nat → Nat × List Nat
  | [] => (0, [])
  | indent :: rest =>
    if column < indent then
      let (n, rest) := closing column rest
      (n + 1, rest)
    else (0, indent :: rest)

/-- Ends `n` collections written by indentation. -/
def pushEnds (n : Nat) (s : Scan) : Scan :=
  { s with pieces := List.replicate n (.token .blockEnd) ++ s.pieces }

/-- Ends the collections that are indented beyond the current column. -/
def dedent (s : Scan) : Scan :=
  if s.inFlow then s
  else
    let (n, indents) := closing s.cursor.column s.indents
    pushEnds n { s with indents }

/-- Ends all collections written by indentation. -/
def dedentAll (s : Scan) : Scan :=
  if s.inFlow then s else pushEnds s.indents.length { s with indents := [] }

/-- The place of the next token: after blanks, comments and line breaks.  A byte order mark at the
head of the text counts as a blank.  A tab is no blank where
a key may begin.  Outside brackets a key may begin after a line break. -/
def toNext (fuel : Nat) (s : Scan) : Scan :=
  match fuel with
  | 0 => s
  | fuel + 1 =>
    let c := if s.cursor.index = 0 ∧ s.cursor.startsWith '\ufeff' then s.cursor.skip 1
      else s.cursor
    let c := c.skipWhile fun x => x = ' ' || ((s.inFlow || !s.keyAllowed) && x == '\t')
    let c := c.skipComment
    match c.rest with
    | [] => s.move c
    | x :: _ =>
      if isBreak x then
        toNext fuel { s with cursor := c.lineBreak.2, keyAllowed := s.keyAllowed || !s.inFlow }
      else s.move c

/-! ### Directives, anchors and tags -/

/-- At most nine digits as a number. -/
def versionNumber? (c : Cursor) : Option (Nat × Cursor) :=
  let (ds, c) := c.span Char.isDigit
  if ds.isEmpty ∨ 9 < ds.length then none
  else some (Nat.ofDigitChars 10 ds 0, c)

/-- The place after the character, which must stand here. -/
def expect? (x : Char) (c : Cursor) : Option Cursor :=
  if c.startsWith x then some (c.skip 1) else none

/-- The handle of a tag: an exclamation mark, a name and, for a handle with a name, another
mark. -/
def handle? (c : Cursor) : Option (List Char × Cursor) := do
  let c ← expect? '!' c
  let (name, c) := c.span isName
  if c.startsWith '!' then some ('!' :: name ++ ['!'], c.skip 1) else some ('!' :: name, c)

/-- The characters of tags; brackets and commas only inside angle brackets. -/
def isTagCharacter (inAngles : Bool) (x : Char) : Bool :=
  isName x || ";/?:@&=+$.%!~*'()".toList.contains x || (inAngles && ",[]".toList.contains x)

/-- A byte written by a percent sign and two hexadecimal digits. -/
def percentByte? : List Char → Option UInt8
  | '%' :: a :: b :: _ => do
    let a ← Text.hexValue? a
    let b ← Text.hexValue? b
    some (UInt8.ofNat (a * 16 + b))
  | _ => none

/-- The number of bytes of a character from its first byte. -/
def encodedLength (b : UInt8) : Nat :=
  if b &&& 0x80 = 0 then 1
  else if b &&& 0xe0 = 0xc0 then 2
  else if b &&& 0xf0 = 0xe0 then 3
  else if b &&& 0xf8 = 0xf0 then 4
  else 0

/-- The bytes of a character written by percent signs. -/
def percentBytes? (c : Cursor) : Option (List UInt8 × Cursor) := do
  let first ← percentByte? c.rest
  let length := encodedLength first
  if length = 0 then none
  else
    let further ← (List.range (length - 1)).mapM fun i => do
      let b ← percentByte? (c.rest.drop (3 * (i + 1)))
      if b &&& 0xc0 = 0x80 then some b else none
    some (first :: further, c.skip (3 * length))

/-- The characters of a tag, in which percent signs may write bytes. -/
def tagText? (inAngles : Bool) : (fuel : Nat) → List UInt8 → Cursor → Option (String × Cursor)
  | 0, _, _ => none
  | fuel + 1, read, c =>
    match c.rest with
    | [] => finish read c
    | x :: _ =>
      if x = '%' then do
        let (bytes, c) ← percentBytes? c
        tagText? inAngles fuel (read ++ bytes) c
      else if isTagCharacter inAngles x then
        tagText? inAngles fuel (read ++ [UInt8.ofNat x.toNat]) (c.skip 1)
      else finish read c
where
  /-- The text of the bytes read. -/
  finish (read : List UInt8) (c : Cursor) : Option (String × Cursor) :=
    (String.fromUTF8? ⟨read.toArray⟩).map (·, c)

/-- A tag: in angle brackets, with a handle, or after a single mark. -/
def tag? (c : Cursor) : Option (Token × Cursor) := do
  let fuel := c.rest.length + 1
  if (c.skip 1).startsWith '<' then
    let (suffix, c) ← tagText? true fuel [] (c.skip 2)
    let c ← expect? '>' c
    if suffix.isEmpty then none else some (.tag "" suffix, c)
  else
    let (handle, after) ← handle? c
    if 1 < handle.length ∧ handle.getLast? = some '!' then
      let (suffix, c) ← tagText? false fuel [] after
      if suffix.isEmpty then none else some (.tag (String.ofList handle) suffix, c)
    else
      let (suffix, c) ← tagText? false fuel [] (c.skip 1)
      if suffix.isEmpty then some (.tag "" "!", c) else some (.tag "!" suffix, c)

/-- What follows the name of a directive. -/
def directiveValue? (name : String) (c : Cursor) : Option (Token × Cursor) := do
  let c := c.skipWhile isBlank
  if name = "YAML" then
    let (major, c) ← versionNumber? c
    let c ← expect? '.' c
    let (minor, c) ← versionNumber? c
    some (.version major minor, c)
  else if name = "TAG" then
    let (handle, c) ← handle? c
    if handle.getLast? = some '!' ∧ c.rest.head?.any isBlank then
      let c := c.skipWhile isBlank
      let (expansion, c) ← tagText? true (c.rest.length + 1) [] c
      if expansion.isEmpty || !atGap c.rest then none
      else some (.tagHandle (String.ofList handle) expansion, c)
    else none
  else none

/-- A directive and the rest of its line. -/
def directive? (c : Cursor) : Option (Token × Cursor) := do
  let (name, c) := (c.skip 1).span isName
  if name.isEmpty || !atGap c.rest then none
  else
    let (t, c) ← directiveValue? (String.ofList name) c
    let c := (c.skipWhile isBlank).skipComment
    if atLineEnd c.rest then some (t, c.lineBreak.2) else none

/-- The name of an anchor after its indicator, which a gap or another indicator must follow. -/
def anchorName? (c : Cursor) : Option (String × Cursor) :=
  let (name, c) := (c.skip 1).span isName
  if name.isEmpty then none
  else if atGap c.rest || c.rest.head?.any ("?:,]\x7d%@`".toList.contains ·) then
    some (String.ofList name, c)
  else none

/-! ### One token -/

/-- A directive or a mark between documents, which ends all collections. -/
def documentToken? (t : Token) (c : Cursor) (s : Scan) : Option Scan := do
  let s ← s.dedentAll.dropCandidate?
  some ({ s with keyAllowed := false }.push t |>.move c)

/-- An opening bracket. -/
def openFlow? (b : Bracket) (s : Scan) : Option Scan := do
  let s ← s.offer?
  some ({ s with candidate := none, outer := s.candidate :: s.outer, keyAllowed := true }.push
    (.openFlow b) |>.move (s.cursor.skip 1))

/-- A closing bracket. -/
def closeFlow? (b : Bracket) (s : Scan) : Option Scan := do
  let s ← s.dropCandidate?
  let s := match s.outer with
    | candidate :: outer => { s with candidate, outer }
    | [] => s
  some ({ s with keyAllowed := false }.push (.closeFlow b) |>.move (s.cursor.skip 1))

/-- A comma inside brackets. -/
def comma? (s : Scan) : Option Scan := do
  let s ← s.dropCandidate?
  some ({ s with keyAllowed := true }.push .comma |>.move (s.cursor.skip 1))

/-- The indicator of an entry of a sequence, or of a key: outside brackets it starts a collection
unless one of its column is open. -/
def indicator? (opening t : Token) (keyAllowed : Bool) (s : Scan) : Option Scan := do
  if !s.inFlow && !s.keyAllowed then none
  else
    let (s, starts) := s.indentTo s.cursor.column
    let s := if starts then s.push opening else s
    let s ← s.dropCandidate?
    some ({ s with keyAllowed }.push t |>.move (s.cursor.skip 1))

/-- The colon before a value.  If there is a candidate, that is the key. -/
def value? (s : Scan) : Option Scan :=
  match s.candidate with
  | some k =>
    let (s, starts) := s.indentTo k.place.column
    let tokens := if starts then [Token.blockMapping, .key] else [.key]
    some ({ s with
      filled := (k.slot, tokens) :: s.filled, candidate := none, keyAllowed := false }.push .value
      |>.move (s.cursor.skip 1))
  | none =>
    if !s.inFlow && !s.keyAllowed then none
    else
      let (s, starts) := s.indentTo s.cursor.column
      let s := if starts then s.push .blockMapping else s
      some ({ s with keyAllowed := !s.inFlow }.push .value |>.move (s.cursor.skip 1))

/-- A token that may be a key or the beginning of one. -/
def content? (read : Cursor → Option (Token × Cursor)) (s : Scan) : Option Scan := do
  let s ← s.offer?
  let (t, c) ← read s.cursor
  some ({ s with keyAllowed := false }.push t |>.move c)

/-- A tag, which a gap must follow, or inside brackets a comma. -/
def spacedTag? (inFlow : Bool) (c : Cursor) : Option (Token × Cursor) := do
  let (t, c) ← tag? c
  if atGap c.rest || (inFlow && c.startsWith ',') then some (t, c) else none

/-- A scalar in quotes. -/
def quotedToken? (double : Bool) (c : Cursor) : Option (Token × Cursor) :=
  (Scalar.quoted? double c).map fun (text, c) =>
    (.scalar (if double then .doubleQuoted else .singleQuoted) (String.ofList text), c)

/-- A block scalar. -/
def blockToken? (literal : Bool) (s : Scan) : Option Scan := do
  let s ← s.dropCandidate?
  let (text, c) ← Scalar.block? literal s.margin (s.cursor.skip 1)
  let style : Style := if literal then .literal else .folded
  some ({ s with keyAllowed := true }.push (.scalar style (String.ofList text)) |>.move c)

/-- A plain scalar.  If a line ends after it, a key may begin. -/
def plainToken? (s : Scan) : Option Scan := do
  let s ← s.offer?
  let (text, broken, c) ← Scalar.plain? s.inFlow s.margin s.cursor
  some ({ s with keyAllowed := broken }.push (.scalar .plain (String.ofList text)) |>.move c)

/-- Whether a plain scalar may begin with the character when `rest` follows it. -/
def startsPlain (inFlow : Bool) (x : Char) (rest : List Char) : Bool :=
  if x = '-' then !rest.head?.any isBlank
  else if x = '?' || x = ':' then !inFlow && !atGap rest
  else !isGap x && !",[]\x7b\x7d#&*!|>'\"%@`".toList.contains x

/-- The token at the current place, where no gap stands. -/
def token? (x : Char) (rest : List Char) (s : Scan) : Option Scan :=
  let c := s.cursor
  if c.column = 0 ∧ x = '%' then do
    let (t, after) ← directive? c
    s.documentToken? t after
  else if c.atMark then
    s.documentToken? (if x = '-' then .documentStart else .documentEnd) (c.skip 3)
  else if x = '[' then s.openFlow? .square
  else if x = '{' then s.openFlow? .curly
  else if x = ']' then s.closeFlow? .square
  else if x = '}' then s.closeFlow? .curly
  else if x = ',' then s.comma?
  else if x = '-' ∧ atGap rest then s.indicator? .blockSequence .entry true
  else if x = '?' ∧ (s.inFlow ∨ atGap rest) then s.indicator? .blockMapping .key !s.inFlow
  else if x = ':' ∧ (s.inFlow ∨ atGap rest) then s.value?
  else if x = '*' then
    s.content? fun c => (anchorName? c).map fun (name, c) => (.alias name, c)
  else if x = '&' then
    s.content? fun c => (anchorName? c).map fun (name, c) => (.anchor name, c)
  else if x = '!' then s.content? (spacedTag? s.inFlow)
  else if x = '|' ∧ !s.inFlow then s.blockToken? true
  else if x = '>' ∧ !s.inFlow then s.blockToken? false
  else if x = '\'' then s.content? (quotedToken? false)
  else if x = '"' then s.content? (quotedToken? true)
  else if startsPlain s.inFlow x rest then s.plainToken?
  else none

/-- The state one token further, and whether the text ends there. -/
def next? (s : Scan) : Option (Scan × Bool) := do
  let s := s.toNext (s.cursor.rest.length + 1)
  let s ← s.dropStale?
  let s := s.dedent
  match s.cursor.rest with
  | [] =>
    let s ← s.dedentAll.dropCandidate?
    some (s, true)
  | x :: rest => (s.token? x rest).map (·, false)

/-- The state at the end of the text. -/
def toEnd? : (fuel : Nat) → Scan → Option Scan
  | 0, _ => none
  | fuel + 1, s => do
    let (s, atEnd) ← s.next?
    if atEnd then some s else toEnd? fuel s

/-- The tokens read, without the slots that stayed empty. -/
def tokens (s : Scan) : List Token :=
  s.pieces.reverse.flatMap fun
    | .token t => [t]
    | .slot n => (s.filled.lookup n).getD []

end Scan

/-- The tokens of a text, if all its characters are allowed and it consists of tokens. -/
def Token.scan? (text : String) : Option (List Token) :=
  let cs := text.toList
  if cs.all isAllowed then
    ((Scan.start cs).toEnd? (cs.length + 1)).map (·.tokens)
  else none

end Sidecar.Yaml
