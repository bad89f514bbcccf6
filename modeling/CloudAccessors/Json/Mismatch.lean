import CloudAccessors.Json.Printer
import CloudAccessors.Text.Quoted

/-!
# Values of the wrong form

What is wrong with a JSON value that does not describe what it should, and how that is said.
-/

namespace CloudAccessors.Json

/-- How a message names what was found. -/
def Head.description : Head → String
  | .null => "null"
  | .bool b => "boolean `" ++ toString b ++ "`"
  | .number (.integer n) => "integer `" ++ toString n ++ "`"
  | .number (.float x) => "floating point `" ++ String.ofList x.text ++ "`"
  | .string s => "string " ++ Text.quoted s
  | .sequence => "sequence"
  | .map => "map"

inductive Mismatch where
  /-- A value of another type was found. -/
  | invalidType (found : Head) (expected : String)
  /-- A key that may occur once occurs again. -/
  | duplicateField (key : String)
  /-- A sequence has more items than there are fields. -/
  | tooManyItems (count : Nat)
  /-- A name is not one of those that are allowed. -/
  | unknownVariant (name : String) (allowed : List String)
  /-- An object was given for a name and does not have exactly one key. -/
  | notSingleKey
deriving DecidableEq, Repr

namespace Mismatch

def message : Mismatch → String
  | .invalidType found expected =>
    "invalid type: " ++ found.description ++ ", expected " ++ expected
  | .duplicateField key => "duplicate field `" ++ key ++ "`"
  | .tooManyItems count =>
    "invalid length " ++ toString count ++ ", expected fewer elements in array"
  | .unknownVariant name allowed =>
    "unknown variant `" ++ name ++ "`, expected one of " ++
      ", ".intercalate (allowed.map fun a => "`" ++ a ++ "`")
  | .notSingleKey => "invalid value: map, expected map with a single key"

end Mismatch

end CloudAccessors.Json
