/-
**What a plain scalar reads as.**

A plain scalar may read as null, as a truth value or as a number.  Whole numbers are decimal,
hexadecimal, octal or binary; a decimal number of several digits does not begin with zero.

Main definitions:

* `Sidecar.Yaml.Plain.isNull`, `Sidecar.Yaml.Plain.bool?` — null and the truth values;
* `Sidecar.Yaml.Plain.unsigned?`, `Sidecar.Yaml.Plain.signed?` — whole numbers;
* `Sidecar.Yaml.Plain.isFloat` — whether a text writes a floating number;
* `Sidecar.Yaml.Plain.isText` — whether a plain scalar reads as nothing but a text.
-/

import Sidecar.Number.Binary64
import Sidecar.Text.HexDigit

set_option autoImplicit false

namespace Sidecar.Yaml.Plain

/-- Whether the text reads as null. -/
def isNull (s : String) : Bool :=
  s = "null" || s = "Null" || s = "NULL" || s = "~"

/-- The truth value that the text reads as. -/
def bool? (s : String) : Option Bool :=
  if s = "true" ∨ s = "True" ∨ s = "TRUE" then some true
  else if s = "false" ∨ s = "False" ∨ s = "FALSE" then some false
  else none

/-! ### Whole numbers -/

/-- The number that digits of a base write, without sign. -/
def digits? (base : Nat) (cs : List Char) : Option Nat :=
  if cs.isEmpty then none
  else cs.foldlM (fun n c => do
    let d ← Text.hexValue? c
    if d < base then some (n * base + d) else none) 0

/-- A number in one of the bases that have a letter, after its zero. -/
def based? : List Char → Option Nat
  | '0' :: 'x' :: cs => digits? 16 cs
  | '0' :: 'o' :: cs => digits? 8 cs
  | '0' :: 'b' :: cs => digits? 2 cs
  | _ => none

/-- The text after a sign at its head. -/
def unsign : List Char → List Char
  | '-' :: cs | '+' :: cs => cs
  | cs => cs

/-- Whether the text consists of digits, the first of several being zero.  That is no number. -/
def isPadded (cs : List Char) : Bool :=
  match unsign cs with
  | '0' :: d :: cs => (d :: cs).all Char.isDigit
  | _ => false

/-- The number without sign, or after a plus sign. -/
def natural? (cs : List Char) : Option Nat :=
  let digits := match cs with
    | '+' :: cs => cs
    | cs => cs
  match based? digits with
  | some n => some n
  | none => if isPadded cs then none else digits? 10 digits

/-- The number after a minus sign. -/
def negative? : List Char → Option Nat
  | '-' :: cs =>
    match based? cs with
    | some n => some n
    | none => if isPadded cs then none else digits? 10 cs
  | _ => none

/-- A whole number of 64 bits without sign. -/
def unsigned? (s : String) : Option Nat :=
  (natural? s.toList).filter (· < UInt64.size)

/-- A whole number of 64 bits with sign. -/
def signed? (s : String) : Option Int :=
  match natural? s.toList, negative? s.toList with
  | some n, _ => if n < 1 <<< 63 then some n else none
  | none, some n => if n ≤ 1 <<< 63 then some (-(n : Int)) else none
  | none, none => none

/-- Whether the text writes a whole number of at most 128 bits. -/
def isWhole (cs : List Char) : Bool :=
  (natural? cs).any (· < 1 <<< 128) || (negative? cs).any (· ≤ 1 <<< 127)

/-! ### Floating numbers -/

/-- The words for infinity after a plus sign or none. -/
def infinities : List String := [".inf", ".Inf", ".INF"]

/-- The words for negative infinity and for what is not a number. -/
def otherWords : List String := ["-.inf", "-.Inf", "-.INF", ".nan", ".NaN", ".NAN"]

/-- The exponent after its mark, the whole rest of a text. -/
def exponent? (cs : List Char) : Option Int :=
  let negative := cs.head? == some '-'
  (digits? 10 (unsign cs)).map fun (n : Nat) => if negative then -(n : Int) else n

/-- The decimal number that the text writes, as digits and an exponent of ten: digits before or
after a point, and perhaps an exponent. -/
def decimal? (cs : List Char) : Option (Nat × Int) :=
  let isMark (c : Char) : Bool := c = 'e' || c = 'E'
  let mantissa := cs.takeWhile (!isMark ·)
  let whole := mantissa.takeWhile (· ≠ '.')
  let fraction := (mantissa.dropWhile (· ≠ '.')).drop 1
  match digits? 10 (whole ++ fraction), cs.dropWhile (!isMark ·) with
  | some n, [] => some (n, -(fraction.length : Int))
  | some n, _ :: cs => (exponent? cs).map fun e => (n, e - fraction.length)
  | none, _ => none

/-- Whether the text writes a floating number that is finite, or is one of the words for the
others. -/
def isFloat (cs : List Char) : Bool :=
  let word := String.ofList cs
  let afterPlus := match cs with
    | '+' :: cs => cs
    | cs => cs
  let magnitude := match afterPlus with
    | '-' :: rest => if cs.head? = some '+' then afterPlus else rest
    | rest => rest
  infinities.contains (String.ofList afterPlus) || otherWords.contains word
    || (decimal? magnitude).any fun (n, e) => (Binary64.ofDecimal false n e).isFinite

/-- Whether a plain scalar of this text reads as nothing but a text. -/
def isText (s : String) : Bool :=
  let cs := s.toList
  !(cs.isEmpty || isNull s || (bool? s).isSome || isWhole cs || isPadded cs || isFloat cs)

end Sidecar.Yaml.Plain
