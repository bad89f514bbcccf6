import CloudAccessors.Binary64.Basic

/-!
# JSON values

Members of an object keep their order, and a key may occur more than once. A number is an integer
if it was written without a fraction and an exponent and fits into 64 bits.
-/

namespace CloudAccessors

namespace Json

inductive Number where
  | integer (n : Int)
  | float (x : Binary64)
deriving DecidableEq, Repr

end Json

inductive Json where
  | null
  | bool (b : Bool)
  | number (n : Json.Number)
  | string (s : String)
  | array (items : List Json)
  | object (members : List (String × Json))
deriving Repr

namespace Json

/-- What a reader meets first in a value: a scalar as a whole, or the kind of a container. -/
inductive Head where
  | null
  | bool (b : Bool)
  | number (n : Number)
  | string (s : String)
  | sequence
  | map
deriving DecidableEq, Repr

def head : Json → Head
  | .null => .null
  | .bool b => .bool b
  | .number n => .number n
  | .string s => .string s
  | .array _ => .sequence
  | .object _ => .map

end Json

end CloudAccessors
