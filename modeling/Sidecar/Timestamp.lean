/-
**Moments in time.**

A moment is a number of nanoseconds since the start of 1970, between fixed bounds near the years
-9999 and 9999.  Its text is that of RFC 3339 in UTC; a year before 0 has a sign and six digits.

Main definitions:

* `Sidecar.Timestamp` — a moment, with its bounds;
* `Sidecar.Timestamp.roundToSecond` — the nearest second;
* `Sidecar.Timestamp.nextYear?` — a year later by the calendar;
* `Sidecar.Timestamp.render`, `Sidecar.Timestamp.parse?` — the text of a moment.
-/

set_option autoImplicit false

namespace Sidecar

/-- Nanoseconds in a second. -/
abbrev nanosPerSecond : Int := 1000000000

/-- The first moment. -/
def Timestamp.first : Int := -377705023201 * nanosPerSecond

/-- The last moment. -/
def Timestamp.last : Int := 253402207200 * nanosPerSecond + 999999999

/-- A moment: nanoseconds since the start of 1970. -/
structure Timestamp where
  nanos : Int
  first_le : Timestamp.first ≤ nanos
  le_last : nanos ≤ Timestamp.last
deriving DecidableEq

namespace Timestamp

/-- The moment of that many nanoseconds, if there is one. -/
def ofNanos? (nanos : Int) : Option Timestamp :=
  if h : first ≤ nanos ∧ nanos ≤ last then some ⟨nanos, h.1, h.2⟩ else none

/-- The start of 1970. -/
def epoch : Timestamp := ⟨0, by decide, by decide⟩

instance : Inhabited Timestamp := ⟨epoch⟩

/-- The nearest number of whole units, in nanoseconds; half a unit goes away from zero. -/
def nearest (unit nanos : Int) : Int :=
  if 0 ≤ nanos then (nanos + unit / 2) / unit * unit
  else -((-nanos + unit / 2) / unit * unit)

/-- The nearest number of whole seconds, in nanoseconds. -/
def nearestSecond (nanos : Int) : Int :=
  nearest nanosPerSecond nanos

/-- The nearest second; a moment whose nearest second is out of bounds is left alone. -/
def roundToSecond (t : Timestamp) : Timestamp :=
  (ofNanos? (nearestSecond t.nanos)).getD t

/-! ### The calendar -/

/-- A day of the calendar. -/
structure Day where
  year : Int
  month : Int
  day : Int
deriving DecidableEq

/-- The days from the start of 1970 to a day.  Years are counted from March, so that the leap day
is the last of its year, in cycles of 400 years, which have 146097 days each. -/
def Day.number (d : Day) : Int :=
  let y := if d.month ≤ 2 then d.year - 1 else d.year
  let cycle := y / 400
  let yearOfCycle := y % 400
  let monthFromMarch := (d.month + 9) % 12
  let dayOfYear := (153 * monthFromMarch + 2) / 5 + d.day - 1
  let dayOfCycle := yearOfCycle * 365 + yearOfCycle / 4 - yearOfCycle / 100 + dayOfYear
  cycle * 146097 + dayOfCycle - 719468

/-- The day that is so many days after the start of 1970. -/
def Day.ofNumber (n : Int) : Day :=
  let z := n + 719468
  let cycle := z / 146097
  let dayOfCycle := z % 146097
  let yearOfCycle :=
    (dayOfCycle - dayOfCycle / 1460 + dayOfCycle / 36524 - dayOfCycle / 146096) / 365
  let dayOfYear := dayOfCycle - (365 * yearOfCycle + yearOfCycle / 4 - yearOfCycle / 100)
  let monthFromMarch := (5 * dayOfYear + 2) / 153
  let day := dayOfYear - (153 * monthFromMarch + 2) / 5 + 1
  let month := if monthFromMarch < 10 then monthFromMarch + 3 else monthFromMarch - 9
  let year := yearOfCycle + cycle * 400 + if month ≤ 2 then 1 else 0
  ⟨year, month, day⟩

/-- Whether the year has a leap day. -/
def isLeap (year : Int) : Bool :=
  year % 4 = 0 && (year % 100 ≠ 0 || year % 400 = 0)

/-- The number of days of a month. -/
def daysInMonth (year month : Int) : Int :=
  if month = 2 then if isLeap year then 29 else 28
  else if month = 4 ∨ month = 6 ∨ month = 9 ∨ month = 11 then 30 else 31

/-- The same time of the same day in the next year, or of the day before if that year lacks it. -/
def nextYear? (t : Timestamp) : Option Timestamp :=
  let nanosPerDay : Int := 86400 * nanosPerSecond
  let today := Day.ofNumber (t.nanos / nanosPerDay)
  let year := today.year + 1
  let anniversary : Day := ⟨year, today.month, min today.day (daysInMonth year today.month)⟩
  ofNanos? (anniversary.number * nanosPerDay + t.nanos % nanosPerDay)

/-- The whole seconds between a moment and the start of 1970. -/
def wholeSeconds (t : Timestamp) : Timestamp where
  nanos :=
    if 0 ≤ t.nanos then t.nanos / nanosPerSecond * nanosPerSecond
    else -(-t.nanos / nanosPerSecond * nanosPerSecond)
  first_le := by
    have hfirst := t.first_le
    simp only [first, nanosPerSecond] at hfirst ⊢
    split <;> omega
  le_last := by
    have hlast := t.le_last
    simp only [last, nanosPerSecond] at hlast ⊢
    split <;> omega

/-! ### Text -/

/-- At least `width` decimal digits. -/
def padded (width : Nat) (n : Nat) : List Char :=
  let digits := Nat.toDigits 10 n
  List.replicate (width - digits.length) '0' ++ digits

/-- A point and the digits of a fraction of a second without zeros at the end; a fraction of zero
has no text. -/
def fractionText (nanos : Nat) : List Char :=
  if nanos = 0 then [] else '.' :: ((padded 9 nanos).reverse.dropWhile (· == '0')).reverse

/-- The text of a moment. -/
def render (t : Timestamp) : String :=
  let seconds := t.nanos / nanosPerSecond
  let fraction := (t.nanos % nanosPerSecond).toNat
  let day := Day.ofNumber (seconds / 86400)
  let clock := (seconds % 86400).toNat
  let year :=
    if day.year < 0 then '-' :: padded 6 day.year.natAbs else padded 4 day.year.natAbs
  String.ofList <| year ++ '-' :: padded 2 day.month.toNat ++ '-' :: padded 2 day.day.toNat
    ++ 'T' :: padded 2 (clock / 3600) ++ ':' :: padded 2 (clock / 60 % 60)
    ++ ':' :: padded 2 (clock % 60) ++ fractionText fraction ++ ['Z']

/-- The number that exactly `count` decimal digits at the head of the text write, and the rest. -/
def digits? (count : Nat) (cs : List Char) : Option (Nat × List Char) :=
  let ds := cs.take count
  if ds.length = count ∧ ds.all Char.isDigit then
    some (Nat.ofDigitChars 10 ds 0, cs.drop count)
  else none

/-- A year: four digits, or a sign and six. -/
def year? : List Char → Option (Int × List Char)
  | '-' :: rest => (digits? 6 rest).map fun (y, rest) => (-(y : Int), rest)
  | '+' :: rest => (digits? 6 rest).map fun (y, rest) => ((y : Int), rest)
  | cs => (digits? 4 cs).map fun (y, rest) => ((y : Int), rest)

/-- The nanoseconds of an optional fraction of one to nine digits. -/
def fraction? : List Char → Option (Nat × List Char)
  | '.' :: rest =>
    let ds := rest.takeWhile Char.isDigit
    if ds.isEmpty ∨ 9 < ds.length then none
    else (digits? ds.length rest).map fun (n, rest) => (n * Nat.pow 10 (9 - ds.length), rest)
  | cs => some (0, cs)

/-- The seconds by which the clock is ahead of UTC: a Z, or a sign, hours and minutes. -/
def offset? : List Char → Option Int
  | ['Z'] => some 0
  | ['z'] => some 0
  | sign :: rest => do
    let (hours, rest) ← digits? 2 rest
    let (minutes, rest) ← ([':'].isPrefixOf? rest).bind (digits? 2)
    let seconds : Int := hours * 3600 + minutes * 60
    if !rest.isEmpty ∨ 25 < hours ∨ 59 < minutes then none
    else if sign = '+' then pure seconds
    else if sign = '-' then pure (-seconds)
    else none
  | [] => none

/-- The moment that the text writes; second 60 is read as second 59. -/
def parse? (text : String) : Option Timestamp := do
  let (year, rest) ← year? text.toList
  let (month, rest) ← (['-'].isPrefixOf? rest).bind (digits? 2)
  let (day, rest) ← (['-'].isPrefixOf? rest).bind (digits? 2)
  let rest ← match rest with
    | 'T' :: rest | 't' :: rest | ' ' :: rest => some rest
    | _ => none
  let (hour, rest) ← digits? 2 rest
  let (minute, rest) ← ([':'].isPrefixOf? rest).bind (digits? 2)
  let (second, rest) ← ([':'].isPrefixOf? rest).bind (digits? 2)
  let (fraction, rest) ← fraction? rest
  let offset ← offset? rest
  if month < 1 ∨ 12 < month ∨ day < 1 ∨ daysInMonth year month < day ∨ 23 < hour ∨ 59 < minute
      ∨ 60 < second then none
  else
    let days := Day.number ⟨year, month, day⟩
    let seconds : Int := days * 86400 + hour * 3600 + minute * 60 + min second 59 - offset
    ofNanos? (seconds * nanosPerSecond + fraction)

end Timestamp

end Sidecar
