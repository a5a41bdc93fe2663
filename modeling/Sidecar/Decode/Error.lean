/-
**Why a value cannot be decoded.**

Main definitions:

* `Sidecar.Found` — what stands where something else was expected;
* `Sidecar.DecodeError` — the causes;
* `Sidecar.DecodeError.message` — their wording.
-/

import Sidecar.Json.Printer
import Sidecar.Text.Quoted

set_option autoImplicit false

namespace Sidecar

/-- What stands where something else was expected. -/
inductive Found where
  | null
  | bool (value : Bool)
  | int (value : Int)
  | float (value : Binary64)
  | text (value : String)
  | list
  | map
deriving DecidableEq

namespace Found

/-- The description of what was found. -/
def describe : Found → String
  | .null => "null"
  | .bool b => "boolean `" ++ (if b then "true" else "false") ++ "`"
  | .int n => "integer `" ++ toString n ++ "`"
  | .float x => "floating point `" ++ x.text Json.Printer.floatLayout ++ "`"
  | .text s => "string " ++ Text.quoted s
  | .list => "sequence"
  | .map => "map"

/-- A description of a document. -/
def ofJson : Json → Found
  | .null => .null
  | .bool b => .bool b
  | .int n => .int n
  | .float x => .float x
  | .str s => .text s
  | .arr _ => .list
  | .obj _ => .map

end Found

/-- Why a value cannot be decoded. -/
inductive DecodeError where
  | missingField (name : String)
  | unknownField (name : String) (known : List String)
  | duplicateField (name : String)
  | invalidType (found : Found) (expected : String)
  | invalidValue (found : Found) (expected : String)
  | invalidLength (length : Nat) (expected : String)
  | unknownVariant (name : String) (known : List String)
deriving DecidableEq

namespace DecodeError

/-- A choice of names: one alone, two joined by "or", more after "one of". -/
def choice : List String → String
  | [] => "there are no fields"
  | [a] => "expected `" ++ a ++ "`"
  | [a, b] => "expected `" ++ a ++ "` or `" ++ b ++ "`"
  | names => "expected one of " ++ ", ".intercalate (names.map fun a => "`" ++ a ++ "`")

/-- The wording of the error. -/
def message : DecodeError → String
  | .missingField name => "missing field `" ++ name ++ "`"
  | .unknownField name [] => "unknown field `" ++ name ++ "`, there are no fields"
  | .unknownField name known => "unknown field `" ++ name ++ "`, " ++ choice known
  | .duplicateField name => "duplicate field `" ++ name ++ "`"
  | .invalidType found expected =>
    "invalid type: " ++ found.describe ++ ", expected " ++ expected
  | .invalidValue found expected =>
    "invalid value: " ++ found.describe ++ ", expected " ++ expected
  | .invalidLength length expected =>
    "invalid length " ++ toString length ++ ", expected " ++ expected
  | .unknownVariant name known => "unknown variant `" ++ name ++ "`, " ++ choice known

end DecodeError

end Sidecar
