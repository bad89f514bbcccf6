/-!
# Result shapes

A call returns one item, a map of items or a sequence of items. The shape decides the qualifier of
the Go result type and whether a page replaces what was fetched before or is appended to it.
-/

namespace CloudAccessors

inductive Shape where
  | single
  | map
  | sequence
deriving DecidableEq, Repr

namespace Shape

instance : Inhabited Shape := ⟨.sequence⟩

/-- The shapes in the order in which they are listed to a reader. -/
def all : List Shape := [.single, .map, .sequence]

def name : Shape → String
  | .single => "single"
  | .map => "map"
  | .sequence => "sequence"

def ofName? (s : String) : Option Shape := all.find? (·.name = s)

/-- Does each page replace what was fetched before it? -/
def replacesOnMerge : Shape → Bool
  | .single | .map => true
  | .sequence => false

/-- The qualifier in front of the element type. -/
def typePrefix : Shape → String
  | .single => "*"
  | .map => "map[string]*"
  | .sequence => "[]*"

theorem ofName?_name (shape : Shape) : ofName? shape.name = some shape := by
  cases shape <;> decide

end Shape

end CloudAccessors
