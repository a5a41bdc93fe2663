/-
**Addresses of the network.**

An address of four bytes is written as four decimal numbers between points, without leading zeros.
One of sixteen bytes is written as eight groups of up to four hexadecimal digits between colons; two
colons stand for one or more groups of zeros, and the last two groups may be written as an address
of four bytes.  A port follows a colon, and an address of sixteen bytes with a port stands in square
brackets.

Main definitions:

* `Sidecar.IpAddress`, `Sidecar.IpAddress.parse?` — addresses as bytes;
* `Sidecar.SocketAddress`, `Sidecar.SocketAddress.parse?` — addresses with a port.
-/

import Sidecar.Text.HexDigit

set_option autoImplicit false

namespace Sidecar

/-- An address, the most significant byte first. -/
structure IpAddress where
  bytes : List UInt8
deriving DecidableEq

namespace IpAddress

/-! ### Numbers -/

/-- A decimal number of any length, at most the limit, and the text after it. -/
def number? (limit : Nat) (cs : List Char) : Option (Nat × List Char) :=
  let digits := cs.takeWhile Char.isDigit
  let n := Nat.ofDigitChars 10 digits 0
  if digits.isEmpty ∨ limit < n then none else some (n, cs.dropWhile Char.isDigit)

/-- A decimal number of up to three digits without a leading zero, at most 255, and the text after
it. -/
def octet? (cs : List Char) : Option (UInt8 × List Char) :=
  let digits := cs.takeWhile Char.isDigit
  if 3 < digits.length ∨ (1 < digits.length ∧ digits.head? = some '0') then none
  else (number? 255 cs).map fun (n, rest) => (UInt8.ofNat n, rest)

/-- A hexadecimal number of up to four digits as two bytes, and the text after it. -/
def group? (cs : List Char) : Option (List UInt8 × List Char) :=
  let isHex (c : Char) : Bool := (Text.hexValue? c).isSome
  let digits := cs.takeWhile isHex
  if digits.isEmpty ∨ 4 < digits.length then none
  else
    let n := digits.foldl (fun n d => n * 16 + (Text.hexValue? d).getD 0) 0
    some ([UInt8.ofNat (n / 256), UInt8.ofNat (n % 256)], cs.dropWhile isHex)

/-! ### Four bytes -/

/-- An address of four bytes, and the text after it. -/
def v4? (cs : List Char) : Option (List UInt8 × List Char) := do
  let (a, rest) ← octet? cs
  let (b, rest) ← (['.'].isPrefixOf? rest).bind octet?
  let (c, rest) ← (['.'].isPrefixOf? rest).bind octet?
  let (d, rest) ← (['.'].isPrefixOf? rest).bind octet?
  some ([a, b, c, d], rest)

/-! ### Sixteen bytes -/

/-- What a list of groups gives: their bytes, whether the last of them were written as an address of
four bytes, and the text after them. -/
structure Groups where
  bytes : List UInt8
  endsInV4 : Bool
  rest : List Char

/-- Up to `room` groups between colons; a colon comes before the first too unless it `starts`. -/
def readGroups : (room : Nat) → (starts : Bool) → List Char → Groups
  | 0, _, cs => ⟨[], false, cs⟩
  | room + 1, starts, cs =>
    match if starts then some cs else [':'].isPrefixOf? cs with
    | none => ⟨[], false, cs⟩
    | some inner =>
      match if 0 < room then v4? inner else none with
      | some (bytes, rest) => ⟨bytes, true, rest⟩
      | none =>
        match group? inner with
        | none => ⟨[], false, cs⟩
        | some (bytes, rest) =>
          let more := readGroups room false rest
          { more with bytes := bytes ++ more.bytes }

/-- An address of sixteen bytes, and the text after it. -/
def v6? (cs : List Char) : Option (List UInt8 × List Char) :=
  let head := readGroups 8 true cs
  if head.bytes.length = 16 then some (head.bytes, head.rest)
  else if head.endsInV4 then none
  else
    match head.rest with
    | ':' :: ':' :: rest =>
      let tail := readGroups (8 - (head.bytes.length / 2 + 1)) true rest
      let gap := 16 - head.bytes.length - tail.bytes.length
      some (head.bytes ++ List.replicate gap 0 ++ tail.bytes, tail.rest)
    | _ => none

/-- The address that the whole text writes. -/
def parse? (text : String) : Option IpAddress :=
  match (v4? text.toList).or (v6? text.toList) with
  | some (bytes, []) => some ⟨bytes⟩
  | _ => none

end IpAddress

/-- An address with a port. -/
structure SocketAddress where
  ip : IpAddress
  port : UInt16
deriving DecidableEq

namespace SocketAddress

/-- A port after its colon, and the text after it. -/
def port? (cs : List Char) : Option (UInt16 × List Char) := do
  let (n, rest) ← ([':'].isPrefixOf? cs).bind (IpAddress.number? 65535)
  some (UInt16.ofNat n, rest)

/-- The text after a zone, a percent sign and a number, if there is one. -/
def skipZone (cs : List Char) : List Char :=
  match (['%'].isPrefixOf? cs).bind (IpAddress.number? (UInt32.size - 1)) with
  | some (_, rest) => rest
  | none => cs

/-- An address of four bytes with a port, and the text after it. -/
def v4? (cs : List Char) : Option (SocketAddress × List Char) := do
  let (bytes, rest) ← IpAddress.v4? cs
  let (port, rest) ← port? rest
  some (⟨⟨bytes⟩, port⟩, rest)

/-- An address of sixteen bytes in brackets with a port, and the text after it. -/
def v6? (cs : List Char) : Option (SocketAddress × List Char) := do
  let (bytes, rest) ← (['['].isPrefixOf? cs).bind IpAddress.v6?
  let (port, rest) ← ([']'].isPrefixOf? (skipZone rest)).bind port?
  some (⟨⟨bytes⟩, port⟩, rest)

/-- The address that the whole text writes. -/
def parse? (text : String) : Option SocketAddress :=
  match (v4? text.toList).or (v6? text.toList) with
  | some (address, []) => some address
  | _ => none

end SocketAddress

end Sidecar
