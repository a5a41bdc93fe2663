/-
**Times in the cluster's objects.**

A time is written as in RFC 3339, and read more leniently: numbers need no zeros before them, blanks
may stand between the parts, the name of UTC may stand for its offset and the colon in an offset may
be missing.  A year of other than four digits has a sign.  The offset is less than a day; the second
60 is a leap second, which the time remembers.

Times are whole seconds when they are written back, in UTC.

Main definitions:

* `Sidecar.Cluster.Time` — a time;
* `Sidecar.Cluster.Time.parse?`, `Sidecar.Cluster.Time.render` — its text.
-/

import Sidecar.Text.Blank
import Sidecar.Timestamp

set_option autoImplicit false

namespace Sidecar.Cluster

/-- A time, up to its fraction of a second. -/
structure Time where
  /-- The seconds since the start of 1970, leap seconds apart. -/
  seconds : Int
  /-- Whether the time lies in the leap second that follows. -/
  isLeap : Bool
deriving DecidableEq

namespace Time

/-! ### Reading -/

/-- The text after the blanks at its head. -/
def skipBlanks (cs : List Char) : List Char :=
  cs.dropWhile Text.isBlank

/-- The number that at most `width` decimal digits at the head of the text write, and the rest. -/
def number? (width : Nat) (cs : List Char) : Option (Nat × List Char) :=
  let ds := (cs.take width).takeWhile Char.isDigit
  if ds.isEmpty then none else some (Nat.ofDigitChars 10 ds 0, cs.drop ds.length)

/-- A year after blanks: at most four digits, or a sign and any number of them. -/
def year? (cs : List Char) : Option (Int × List Char) :=
  match skipBlanks cs with
  | '-' :: rest => (number? rest.length rest).map fun (y, rest) => (-(y : Int), rest)
  | '+' :: rest => (number? rest.length rest).map fun (y, rest) => ((y : Int), rest)
  | cs => (number? 4 cs).map fun (y, rest) => ((y : Int), rest)

/-- A part of a date or of a clock after blanks: one digit or two. -/
def part? (cs : List Char) : Option (Nat × List Char) :=
  number? 2 (skipBlanks cs)

/-- A part after a separator, which blanks may stand before. -/
def nextPart? (separator : Char) (cs : List Char) : Option (Nat × List Char) :=
  match skipBlanks cs with
  | x :: rest => if x = separator then part? rest else none
  | [] => none

/-- The text after an optional fraction of a second. -/
def skipFraction? : List Char → Option (List Char)
  | '.' :: rest =>
    if rest.head?.any Char.isDigit then some (rest.dropWhile Char.isDigit) else none
  | cs => some cs

/-- The number that the two decimal digits at the head of the text write, and the rest. -/
def twoDigits? : List Char → Option (Nat × List Char)
  | a :: b :: rest =>
    if a.isDigit && b.isDigit then some (Nat.ofDigitChars 10 [a, b] 0, rest) else none
  | _ => none

/-- The seconds by which hours and minutes are ahead: two digits each, with colons and blanks or
nothing in between. -/
def distance? (cs : List Char) : Option (Nat × List Char) := do
  let (hours, rest) ← twoDigits? cs
  let (minutes, rest) ← twoDigits? (rest.dropWhile fun c => c = ':' || Text.isBlank c)
  if minutes < 60 then some (hours * 3600 + minutes * 60, rest) else none

/-- The seconds by which the clock is ahead of UTC: the name of UTC, a Z, or a distance with a
sign. -/
def offset? (cs : List Char) : Option (Int × List Char) :=
  if (cs.take 3).map Char.toUpper = ['U', 'T', 'C'] then some (0, cs.drop 3)
  else match cs with
    | 'Z' :: rest | 'z' :: rest => some (0, rest)
    | '+' :: rest => (distance? rest).map fun (n, rest) => ((n : Int), rest)
    | '-' :: rest | '\u2212' :: rest => (distance? rest).map fun (n, rest) => (-(n : Int), rest)
    | _ => none

/-- The first year and the last. -/
def years : Int × Int := (-262143, 262142)

/-- The first second of the first year. -/
def first : Int := Timestamp.Day.number ⟨years.1, 1, 1⟩ * 86400

/-- The last second of the last year. -/
def last : Int := (Timestamp.Day.number ⟨years.2, 12, 31⟩ + 1) * 86400 - 1

/-- The time that the text writes. -/
def parse? (text : String) : Option Time := do
  let (year, rest) ← year? text.toList
  let (month, rest) ← nextPart? '-' rest
  let (day, rest) ← nextPart? '-' rest
  let rest ← match rest with
    | 'T' :: rest | 't' :: rest | ' ' :: rest => some rest
    | _ => none
  let (hour, rest) ← part? rest
  let (minute, rest) ← nextPart? ':' rest
  let (second, rest) ← nextPart? ':' rest
  let rest ← skipFraction? rest
  let (offset, rest) ← offset? (skipBlanks rest)
  if !(skipBlanks rest).isEmpty ∨ year < years.1 ∨ years.2 < year ∨ month < 1 ∨ 12 < month ∨ day < 1
      ∨ Timestamp.daysInMonth year month < day ∨ 23 < hour ∨ 59 < minute ∨ 60 < second
      ∨ 86400 ≤ offset.natAbs then none
  else
    let days := Timestamp.Day.number ⟨year, month, day⟩
    let seconds := days * 86400 + hour * 3600 + minute * 60 + min second 59 - offset
    if first ≤ seconds ∧ seconds ≤ last then some ⟨seconds, second = 60⟩ else none

/-! ### Writing -/

/-- At least four digits of a year, with a sign unless it has these. -/
def yearText (year : Int) : List Char :=
  let digits := Timestamp.padded 4 year.natAbs
  if year < 0 then '-' :: digits else if year ≤ 9999 then digits else '+' :: digits

/-- The text of a time. -/
def render (t : Time) : String :=
  let day := Timestamp.Day.ofNumber (t.seconds / 86400)
  let clock := (t.seconds % 86400).toNat
  let two := Timestamp.padded 2
  String.ofList <| yearText day.year ++ '-' :: two day.month.toNat ++ '-' :: two day.day.toNat
    ++ 'T' :: two (clock / 3600) ++ ':' :: two (clock / 60 % 60)
    ++ ':' :: two (clock % 60 + if t.isLeap then 1 else 0) ++ ['Z']

end Time

end Sidecar.Cluster
