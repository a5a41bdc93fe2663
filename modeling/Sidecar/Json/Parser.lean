/-
**Reading JSON texts.**

The reader accepts the grammar of RFC 8259 and nothing else.  It reads bytes, each as the character
of its number, since the grammar is one of ASCII; what stands between quotes becomes a text when it
has been read.  Whole numbers of 64 bits stay whole, and every other number becomes the nearest
floating number.

What belongs to the grammar but cannot be understood is kept as obscure: bytes that are no UTF-8,
half of a surrogate pair, a number beyond all floating numbers, and a list or object that nests
deeper than the caller allows.

Main definitions:

* `Sidecar.Json.Parser.value` — one value at the head of a text;
* `Sidecar.Json.Raw.parse?` — what a whole text writes that is one value between blanks;
* `Sidecar.Json.parse?` — the document, if all of it can be understood.
-/

import Sidecar.Json.Raw
import Sidecar.Text.HexDigit

set_option autoImplicit false

namespace Sidecar.Json

namespace Parser

/-- The blanks of the grammar. -/
def isSpace (c : Char) : Bool :=
  c = ' ' || c = '\n' || c = '\t' || c = '\r'

/-- The text after the blanks at its head. -/
def skipSpace (cs : List Char) : List Char :=
  cs.dropWhile isSpace

/-! ### Literals -/

/-- The number written by four hexadecimal digits, and the text after them. -/
def hex4 : List Char → Option (Nat × List Char)
  | a :: b :: c :: d :: rest => do
    let a ← Text.hexValue? a
    let b ← Text.hexValue? b
    let c ← Text.hexValue? c
    let d ← Text.hexValue? d
    pure (((a * 16 + b) * 16 + c) * 16 + d, rest)
  | _ => none

/-- The character that an escape with a number stands for, and the text after it: the number is no
surrogate, or the first of a pair of them. -/
def unicodeEscape (cs : List Char) : Option (Char × List Char) := do
  let (high, rest) ← hex4 cs
  if 0xd800 ≤ high ∧ high < 0xdc00 then
    match rest with
    | '\\' :: 'u' :: rest => do
      let (low, rest) ← hex4 rest
      if 0xdc00 ≤ low ∧ low < 0xe000 then
        pure (Char.ofNat (0x10000 + (high - 0xd800) * 0x400 + (low - 0xdc00)), rest)
      else none
    | _ => none
  else if 0xdc00 ≤ high ∧ high < 0xe000 then none
  else pure (Char.ofNat high, rest)

/-- The character that an escape stands for, and the text after it. -/
def escape : List Char → Option (Char × List Char)
  | '"' :: rest => some ('"', rest)
  | '\\' :: rest => some ('\\', rest)
  | '/' :: rest => some ('/', rest)
  | 'b' :: rest => some ('\x08', rest)
  | 'f' :: rest => some ('\x0c', rest)
  | 'n' :: rest => some ('\n', rest)
  | 'r' :: rest => some ('\r', rest)
  | 't' :: rest => some ('\t', rest)
  | 'u' :: rest => unicodeEscape rest
  | _ => none

/-- The bytes that the rest of a literal after its opening quote stands for, after those read so far,
the last one first; nothing if an escape of it is half of a surrogate pair. -/
def literal (fuel : Nat) (read : Option (List UInt8)) (cs : List Char) :
    Option (Option (List UInt8) × List Char) :=
  match fuel, cs with
  | 0, _ => none
  | _, [] => none
  | fuel + 1, c :: rest =>
    if c = '"' then some (read.map List.reverse, rest)
    else if c = '\\' then
      match escape rest, rest with
      | some (x, rest), _ => literal fuel (read.map ((String.utf8EncodeChar x).reverse ++ ·)) rest
      | none, 'u' :: rest => (hex4 rest).bind fun (_, rest) => literal fuel none rest
      | none, _ => none
    else if c.toNat < 0x20 then none
    else literal fuel (read.map (c.toNat.toUInt8 :: ·)) rest

/-- The text of a literal after its opening quote, if it is one of Unicode, and what follows the
literal. -/
def text (cs : List Char) : Option (Option String × List Char) :=
  (literal (cs.length + 1) (some []) cs).map fun (bytes, rest) =>
    (bytes.bind fun bytes => String.fromUTF8? bytes.toByteArray, rest)

/-! ### Numbers -/

/-- The digits at the head of the text, and what follows. -/
def digits (cs : List Char) : List Char × List Char :=
  (cs.takeWhile Char.isDigit, cs.dropWhile Char.isDigit)

/-- The exponent after its mark: sign and at least one digit. -/
def exponent (cs : List Char) : Option (Int × List Char) :=
  let (negative, cs) := match cs with
    | '+' :: rest => (false, rest)
    | '-' :: rest => (true, rest)
    | cs => (false, cs)
  let (ds, rest) := digits cs
  if ds.isEmpty then none
  else
    let e : Int := Nat.ofDigitChars 10 ds 0
    some (if negative then -e else e, rest)

/-- The floating number nearest to `n * 10 ^ e`, unless that is beyond all of them. -/
def floating (negative : Bool) (n : Nat) (e : Int) : Raw :=
  let x := Binary64.ofDecimal negative n e
  if x.isFinite then .float x else .obscure

/-- A whole number if it fits 64 bits, else the nearest floating number.  Zero with a sign is a
floating number. -/
def wholeNumber (negative : Bool) (n : Nat) : Raw :=
  if !negative && n < UInt64.size then .int n
  else if negative && 0 < n && n ≤ 1 <<< 63 then .int (-(n : Int))
  else floating negative n 0

/-- A number at the head of the text. -/
def number (cs : List Char) : Option (Raw × List Char) := do
  let (negative, cs) := match cs with
    | '-' :: rest => (true, rest)
    | cs => (false, cs)
  let (whole, cs) := digits cs
  if whole.isEmpty || (whole.length > 1 && whole.head? == some '0') then none
  else
    let (fraction, cs, isFloat) ← match cs with
      | '.' :: rest =>
        let (ds, rest) := digits rest
        if ds.isEmpty then none else some (ds, rest, true)
      | cs => some ([], cs, false)
    let (e, cs, isFloat) ← match cs with
      | 'e' :: rest | 'E' :: rest => (exponent rest).map fun (e, rest) => (e, rest, true)
      | cs => some (0, cs, isFloat)
    let n := Nat.ofDigitChars 10 (whole ++ fraction) 0
    pure (if isFloat then floating negative n (e - fraction.length) else wholeNumber negative n, cs)

/-! ### Values -/

/-- The text after the given characters, if it starts with them. -/
def expect (word : List Char) (cs : List Char) : Option (List Char) :=
  if word.isPrefixOf cs then some (cs.drop word.length) else none

/-- A list or an object, unless it nests too deep. -/
def nested (depth : Nat) (raw : Raw) : Raw :=
  if depth = 0 then .obscure else raw

/-- An object, if the names of its members are texts. -/
def object (members : List (Option String × Raw)) : Raw :=
  let named : Option (List (String × Raw)) := members.mapM fun (name, x) => name.map (·, x)
  (named.map .obj).getD .obscure

mutual

/-- One value at the head of the text; `depth` levels of nesting are left. -/
def value (fuel depth : Nat) (cs : List Char) : Option (Raw × List Char) :=
  match fuel with
  | 0 => none
  | fuel + 1 =>
    match skipSpace cs with
    | [] => none
    | '"' :: rest => (text rest).map fun (s, rest) => ((s.map .str).getD .obscure, rest)
    | '[' :: rest =>
      match skipSpace rest with
      | ']' :: rest => some (nested depth (.arr []), rest)
      | rest => (items fuel (depth - 1) rest).map fun (xs, rest) => (nested depth (.arr xs), rest)
    | '{' :: rest =>
      match skipSpace rest with
      | '}' :: rest => some (nested depth (.obj []), rest)
      | rest => (members fuel (depth - 1) rest).map fun (xs, rest) => (nested depth (object xs), rest)
    | 't' :: rest => (expect ['r', 'u', 'e'] rest).map (.bool true, ·)
    | 'f' :: rest => (expect ['a', 'l', 's', 'e'] rest).map (.bool false, ·)
    | 'n' :: rest => (expect ['u', 'l', 'l'] rest).map (.null, ·)
    | cs => number cs

/-- The items of a list, up to its closing bracket. -/
def items (fuel depth : Nat) (cs : List Char) : Option (List Raw × List Char) :=
  match fuel with
  | 0 => none
  | fuel + 1 => do
    let (x, rest) ← value fuel depth cs
    match skipSpace rest with
    | ',' :: rest =>
      let (xs, rest) ← items fuel depth rest
      pure (x :: xs, rest)
    | ']' :: rest => pure ([x], rest)
    | _ => none

/-- The members of an object, up to its closing brace. -/
def members (fuel depth : Nat) (cs : List Char) :
    Option (List (Option String × Raw) × List Char) :=
  match fuel with
  | 0 => none
  | fuel + 1 =>
    match skipSpace cs with
    | '"' :: rest => do
      let (name, rest) ← text rest
      match skipSpace rest with
      | ':' :: rest =>
        let (x, rest) ← value fuel depth rest
        match skipSpace rest with
        | ',' :: rest =>
          let (xs, rest) ← members fuel depth rest
          pure ((name, x) :: xs, rest)
        | '}' :: rest => pure ([(name, x)], rest)
        | _ => none
      | _ => none
    | _ => none

end

end Parser

/-- What the bytes write, if they are one value between blanks; what nests more than `depth` deep is
obscure. -/
def Raw.parse? (depth : Nat) (bytes : ByteArray) : Option Raw :=
  let cs := bytes.data.toList.map fun b => Char.ofNat b.toNat
  match Parser.value (2 * cs.length + 2) depth cs with
  | some (raw, rest) => if (Parser.skipSpace rest).isEmpty then some raw else none
  | none => none

/-- The document that the text writes, with the members of objects as written, if all of it can be
understood and it nests at most `depth` deep. -/
def parse? (depth : Nat) (text : String) : Option Json :=
  (Raw.parse? depth text.toUTF8).bind Raw.toJson?

end Sidecar.Json
