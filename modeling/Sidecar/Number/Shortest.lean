/-
**The shortest decimal that reads back.**

Every finite binary number is the rounding of an interval of reals, whose ends belong to it exactly
if the number's significand is even.  Its shortest text has the fewest digits that name a decimal
of that interval; of two such decimals of one length it takes the nearer, and of two equally near
the even one.

Main definitions:

* `Sidecar.Binary64.shortest` — the digits and the place of the point;
* `Sidecar.FloatLayout`, `Sidecar.Binary64.text` — the text, in the layout that a format fixes.
-/

import Sidecar.Number.Binary64

set_option autoImplicit false

namespace Sidecar

namespace Number

/-- The exponent `k` with `10 ^ k ≤ num / den < 10 ^ (k + 1)`, for `num / den` above `10 ^ -fuel`. -/
def decimalExponent (num den fuel : Nat) : Int :=
  if den ≤ num then ((Nat.toDigits 10 (num / den)).length : Int) - 1
  else go fuel 1
where
  /-- The least `j` with `den ≤ num * 10 ^ j`, negated. -/
  go : Nat → Nat → Int
    | 0, j => -(j : Int)
    | fuel + 1, j => if den ≤ num * Nat.pow 10 j then -(j : Int) else go fuel (j + 1)

end Number

namespace Binary64

/-- The interval of reals that round to `|x|`, as `(low, high)` in units of `2 ^ -1076`. -/
def interval (x : Binary64) : Nat × Nat :=
  let (m, e) := x.significand
  let unit := 1 <<< e
  let below := if m = fractionSize ∧ 0 < e then unit else 2 * unit
  (4 * (m * unit) - below, 4 * (m * unit) + 2 * unit)

/-- Whether `n * 10 ^ grid` lies in the interval of `x`. -/
def readsBack (x : Binary64) (n : Nat) (grid : Int) : Bool :=
  let up := Nat.pow 10 grid.toNat
  let down := Nat.pow 10 (-grid).toNat
  let value := (n * up) <<< 1076
  let (low, high) := x.interval
  if x.significand.1 % 2 = 0 then low * down ≤ value && value ≤ high * down
  else low * down < value && value < high * down

/-- The decimals `n * 10 ^ grid` next to `|x|` that read back, the nearer one, if there is one. -/
def onGrid (x : Binary64) (grid : Int) : Option Nat :=
  let num := x.magnitude * Nat.pow 10 (-grid).toNat
  let den := Nat.pow 10 grid.toNat <<< 1074
  let floor := num / den
  match x.readsBack floor grid, x.readsBack (floor + 1) grid with
  | true, true => some (Number.roundHalfEven num den)
  | true, false => some floor
  | false, true => some (floor + 1)
  | false, false => none

/-- The digits of the shortest decimal of a number that is not zero, and the exponent of its first
digit. -/
def shortest (x : Binary64) : Nat × Int :=
  let k := Number.decimalExponent x.magnitude (1 <<< 1074) 400
  let rec go : Nat → Int → Nat × Int
    | 0, grid => ((x.onGrid grid).getD 0, grid)
    | fuel + 1, grid =>
      match x.onGrid grid with
      | some n => (n, grid)
      | none => go fuel (grid - 1)
  let (n, grid) := go 17 k
  (n, grid + ((Nat.toDigits 10 n).length : Int) - 1)

end Binary64

/-- Where a format turns from positional to exponent notation, and how it writes the exponent. -/
structure FloatLayout where
  /-- The most digits before the point in positional notation. -/
  maxWhole : Int
  /-- One below the least place of the first digit in positional notation. -/
  minPlace : Int
  /-- The mark of an exponent that is not negative. -/
  plus : List Char

namespace Binary64

/-- Removes the zeros at the end of the digits. -/
def dropTrailingZeros (digits : List Char) : List Char :=
  (digits.reverse.dropWhile (· == '0')).reverse

/-- The text of a finite number: its shortest digits in the layout, with a point and at least one
digit after it unless an exponent follows. -/
def text (layout : FloatLayout) (x : Binary64) : String :=
  let sign := if x.isNegative then ['-'] else []
  String.ofList <| sign ++
    if x.magnitude = 0 then ['0', '.', '0']
    else
      let (n, k) := x.shortest
      let digits := dropTrailingZeros (Nat.toDigits 10 n)
      let whole := k + 1
      if whole ≤ layout.maxWhole ∧ digits.length ≤ whole then
        digits ++ List.replicate (whole.toNat - digits.length) '0' ++ ['.', '0']
      else if 0 < whole ∧ whole ≤ layout.maxWhole then
        digits.take whole.toNat ++ ['.'] ++ digits.drop whole.toNat
      else if layout.minPlace < whole ∧ whole ≤ 0 then
        ['0', '.'] ++ List.replicate (-whole).toNat '0' ++ digits
      else
        let fraction := if digits.length = 1 then [] else '.' :: digits.drop 1
        let mark := if k < 0 then ['-'] else layout.plus
        digits.take 1 ++ fraction ++ ['e'] ++ mark ++ Nat.toDigits 10 k.natAbs

end Binary64

end Sidecar
