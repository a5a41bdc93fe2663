/-
**Binary floating point numbers of 64 bits.**

A number is its bit pattern, so equality is decidable and every operation below is exact integer
arithmetic followed by one rounding: to the nearest number, a tie going to the even neighbour.

Main definitions:

* `Sidecar.Binary64` — the bit pattern;
* `Sidecar.Binary64.magnitude` — a finite number's distance from zero in units of `2 ^ -1074`;
* `Sidecar.Binary64.ofRatio`, `Sidecar.Binary64.ofDecimal` — rounding a quotient or a decimal;
* `Sidecar.Binary64.add`, `Sidecar.Binary64.le` — the sum, rounded, and the order.
-/

set_option autoImplicit false

namespace Sidecar

namespace Number

/-- The natural number nearest to `num / den`; of two equally near, the even one. -/
def roundHalfEven (num den : Nat) : Nat :=
  let q := num / den
  let r := num % den
  if 2 * r < den then q
  else if den < 2 * r then q + 1
  else if q % 2 = 0 then q else q + 1

end Number

/-- A binary floating point number: one sign bit, eleven exponent bits, fifty-two fraction bits. -/
structure Binary64 where
  bits : UInt64
deriving DecidableEq, Inhabited

namespace Binary64

/-- How many values the fraction bits have. -/
def fractionSize : Nat := 1 <<< 52

/-- The sign bit. -/
def signBit : Nat := 1 <<< 63

/-- The exponent bits. -/
def exponentField (x : Binary64) : Nat :=
  x.bits.toNat >>> 52 % 2048

/-- The fraction bits. -/
def fractionField (x : Binary64) : Nat :=
  x.bits.toNat % fractionSize

/-- Whether the sign bit is set. -/
def isNegative (x : Binary64) : Bool :=
  signBit ≤ x.bits.toNat

/-- Whether the number is no infinity and not the result of an undefined sum. -/
def isFinite (x : Binary64) : Bool :=
  x.exponentField < 2047

/-- The number of the given sign whose other bits are `low`. -/
def ofFields (negative : Bool) (low : Nat) : Binary64 :=
  ⟨UInt64.ofNat (low + if negative then signBit else 0)⟩

/-- Zero of the given sign. -/
def zero (negative : Bool) : Binary64 :=
  ofFields negative 0

/-- Infinity of the given sign. -/
def infinity (negative : Bool) : Binary64 :=
  ofFields negative (2047 * fractionSize)

/-- The value of an undefined sum. -/
def undefined : Binary64 :=
  ofFields false (2047 * fractionSize + fractionSize / 2)

/-- The greatest finite number. -/
def greatest : Binary64 :=
  ofFields false (2047 * fractionSize - 1)

/-- The integer significand `m` and the exponent `e ≥ 0` with `|x| = m * 2 ^ e * 2 ^ -1074`. -/
def significand (x : Binary64) : Nat × Nat :=
  if x.exponentField = 0 then (x.fractionField, 0)
  else (x.fractionField + fractionSize, x.exponentField - 1)

/-- The distance from zero in units of `2 ^ -1074`. -/
def magnitude (x : Binary64) : Nat :=
  x.significand.1 <<< x.significand.2

/-- A finite number in units of `2 ^ -1074`. -/
def scaled (x : Binary64) : Int :=
  if x.isNegative then -(x.magnitude : Int) else x.magnitude

/-- The number nearest to `num / den`, of the given sign; beyond the greatest finite number,
infinity. -/
def ofRatio (negative : Bool) (num den : Nat) : Binary64 :=
  if num = 0 ∨ den = 0 then zero negative
  else
    -- `num * 2 ^ 1074 / den` lies between `2 ^ (top - 1)` and `2 ^ (top + 1)`
    let top : Nat := num.log2 + 1074 - den.log2
    let guess := top - 52
    let n := num <<< 1074
    let shift := if n < den <<< (guess + 52) then guess - 1 else guess
    let m := Number.roundHalfEven n (den <<< shift)
    let low := if m < fractionSize then m else shift * fractionSize + m
    if low < 2047 * fractionSize then ofFields negative low else infinity negative

/-- The number nearest to `m * 10 ^ e`, of the given sign.  The guards keep the powers of ten
small: beyond them the result is infinity or zero anyway. -/
def ofDecimal (negative : Bool) (m : Nat) (e : Int) : Binary64 :=
  if m = 0 then zero negative
  else
    let digits : Int := (Nat.toDigits 10 m).length
    if digits + e > 400 then infinity negative
    else if digits + e < -400 then zero negative
    else if 0 ≤ e then ofRatio negative (m * Nat.pow 10 e.toNat) 1
    else ofRatio negative m (Nat.pow 10 (-e).toNat)

/-- The sum, rounded. -/
def add (x y : Binary64) : Binary64 :=
  if x.isFinite && y.isFinite then
    let sum := x.scaled + y.scaled
    if sum = 0 then zero (x.isNegative && y.isNegative)
    else ofRatio (sum < 0) sum.natAbs (1 <<< 1074)
  else if x.isFinite then y
  else if y.isFinite || x = y then x
  else undefined

/-- The product with a power of two, for a number far from both ends of the range. -/
def timesPowerOfTwo (x : Binary64) (k : Nat) : Binary64 :=
  ofRatio x.isNegative (x.magnitude <<< k) (1 <<< 1074)

/-- The order of the finite numbers. -/
def le (x y : Binary64) : Bool :=
  x.scaled ≤ y.scaled

end Binary64

end Sidecar
