/-
**Filters of the log.**

A filter is a list of directives between commas, of which the empty ones do not count.  A directive
is a level, or a target, or a target with a level after an equals sign; a span in square brackets,
with fields in braces, may stand in place of the target or behind it.  A level is one of six names,
in letters of any case, or a number up to five.

Blanks around a directive are passed over where its parts are told apart, but the level after an
equals sign is cut from the directive with its blanks, at the place that it would have without
those before it.

Main definitions:

* `Sidecar.LogFilter.directive` — whether a directive is one;
* `Sidecar.LogFilter.check` — whether a text is a filter;
* `Sidecar.LogSettings.filter` — the filter that the settings of the log make.
-/

import Sidecar.Settings
import Sidecar.Text.Alphanumeric

set_option autoImplicit false

namespace Sidecar

/-- Why a text is no filter. -/
inductive LogFilterError where
  | directive
  | level
deriving DecidableEq

/-- The wording of the error. -/
def LogFilterError.message : LogFilterError → String
  | .directive => "invalid filter directive"
  | .level => "error parsing level filter: expected one of \"off\", \"error\", \"warn\", \"info\", "
      ++ "\"debug\", \"trace\", or a number 0-5"

namespace LogFilter

/-- The names of the levels. -/
def levelNames : List String := ["off", "error", "warn", "info", "debug", "trace"]

/-- Whether the characters write a number up to five, perhaps with a plus sign. -/
def isLevelNumber (cs : List Char) : Bool :=
  let digits := match cs with
    | '+' :: digits => digits
    | digits => digits
  !digits.isEmpty && digits.all Char.isDigit && decide (Nat.ofDigitChars 10 digits 0 ≤ 5)

/-- Whether the characters name a level; no characters do. -/
def isLevel (cs : List Char) : Bool :=
  cs.isEmpty || isLevelNumber cs || levelNames.any fun name => cs.map Char.toLower = name.toList

/-- The part of a directive that is being read. -/
inductive Part where
  | beginning
  | levelOrTarget
  | span
  /-- A field, and whether it has a character yet. -/
  | field (isEmpty : Bool)
  | fieldsEnd
  | spanEnd
  /-- A level that starts after so many characters. -/
  | level (start : Nat)
deriving DecidableEq

/-- Whether a directive may start with the character, a bracket apart. -/
def mayStart (c : Char) : Bool :=
  c = '-' || c = ':' || c = '_' || Text.isAlphanumeric c

/-- The part that is read after a character, which comes after so many others. -/
def Part.next? (place : Nat) : Part → Char → Option Part
  | .beginning, '[' => some .span
  | .beginning, c => if mayStart c then some .levelOrTarget else none
  | .levelOrTarget, '=' => some (.level (place + 1))
  | .levelOrTarget, '[' => some .span
  | .levelOrTarget, _ => some .levelOrTarget
  | .span, ']' => some .spanEnd
  | .span, '{' => some (.field true)
  | .span, _ => some .span
  | .field isEmpty, '}' => if isEmpty then none else some .fieldsEnd
  | .field _, _ => some (.field false)
  | .fieldsEnd, ']' => some .spanEnd
  | .fieldsEnd, _ => none
  | .spanEnd, '=' => some (.level (place + 1))
  | .spanEnd, '[' => some .span
  | .spanEnd, _ => none
  | .level start, _ => some (.level start)

/-- The part that is read after all characters, of which the first comes after so many others. -/
def Part.run? : Nat → Part → List Char → Option Part
  | _, part, [] => some part
  | place, part, c :: cs => (part.next? place c).bind fun part => run? (place + 1) part cs

/-- Whether the characters are a directive. -/
def directive (cs : List Char) : Except LogFilterError Unit :=
  match Part.run? 0 .beginning (Text.trimChars cs) with
  | some .levelOrTarget | some .spanEnd => .ok ()
  | some (.level start) => if isLevel (cs.drop start) then .ok () else .error .level
  | _ => .error .directive

/-- Whether the text is a filter. -/
def check (text : String) : Except LogFilterError Unit :=
  ((text.toList.splitOn ',').filter (!·.isEmpty)).forM directive

end LogFilter

/-- Warnings of all, and the level of the settings for the injector and its client. -/
def LogSettings.filter (s : LogSettings) : String :=
  "warn,kube_sidecar_injector=" ++ s.level ++ ",kube=" ++ s.level

end Sidecar
