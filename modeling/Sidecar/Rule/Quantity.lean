/-
**Quantities of resources.**

A quantity is an optional sign, a decimal number with an optional point, and an optional suffix: a
letter for a power of ten, two letters for a power of two, or an exponent.  Digits of every script
count as digits, and blanks around a quantity are dropped.

Main definitions:

* `Sidecar.Quantity.isQuantity` — the grammar;
* `Sidecar.Quantity.parse` — a trimmed quantity, or the error that shows the text as given.
-/

import Sidecar.Rule.Error
import Sidecar.Text.Blank
import Sidecar.Text.DecimalDigit

set_option autoImplicit false

namespace Sidecar.Quantity

/-- The text after a sign, if there is one. -/
def dropSign : List Char → List Char
  | '+' :: rest => rest
  | '-' :: rest => rest
  | cs => cs

/-- Whether the text is one digit or more. -/
def isDigits (cs : List Char) : Bool :=
  !cs.isEmpty && cs.all Text.isDecimalDigit

/-- Whether the text may follow the number. -/
def isSuffix : List Char → Bool
  | [] => true
  | [c] => c ∈ ['n', 'u', 'm', 'k', 'M', 'G', 'T', 'P', 'E']
  | c :: rest =>
    (rest = ['i'] && c ∈ ['K', 'M', 'G', 'T', 'P', 'E'])
      || (c ∈ ['e', 'E'] && isDigits (dropSign rest))

/-- Whether the text is a number and a suffix. -/
def isUnsigned (cs : List Char) : Bool :=
  let whole := cs.takeWhile Text.isDecimalDigit
  match cs.dropWhile Text.isDecimalDigit with
  | '.' :: rest =>
    let fraction := rest.takeWhile Text.isDecimalDigit
    !(whole.isEmpty && fraction.isEmpty) && isSuffix (rest.dropWhile Text.isDecimalDigit)
  | rest => !whole.isEmpty && isSuffix rest

/-- Whether the text is a quantity. -/
def isQuantity (cs : List Char) : Bool :=
  isUnsigned (dropSign cs)

/-- The quantity that the text is between blanks. -/
def parse (text : String) : Except RuleError String :=
  let trimmed := Text.trim text
  if isQuantity trimmed.toList then .ok trimmed else .error (.invalidQuantity text)

/-- Whatever is accepted is the trimmed text, and a quantity. -/
theorem parse_eq_ok_iff {text quantity : String} :
    parse text = .ok quantity
      ↔ quantity = Text.trim text ∧ isQuantity (Text.trim text).toList = true := by
  simp only [parse]
  split
  · next h => simp [h, eq_comm]
  · next h => simp [h]

end Sidecar.Quantity
