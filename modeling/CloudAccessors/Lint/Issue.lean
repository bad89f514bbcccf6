/-!
# Issues of a descriptor list

What a descriptor list can have that is resolved silently when source is generated, and that a
caller may want to refuse.
-/

namespace CloudAccessors

inductive Issue where
  /-- The descriptor at this position has a blank entity. -/
  | emptyEntity (index : Nat)
  /-- Both flags of the result shape are set. -/
  | conflictingShape (entity : String)
  /-- The attribute path is neither one segment nor two. -/
  | malformedAttributePath (entity path : String)
  /-- Token fields are named for a call without a token. -/
  | ignoredPaginationOverride (entity : String)
  /-- Several descriptors have a method of this name. -/
  | duplicateMethod (name : String)
deriving DecidableEq, Repr

namespace Issue

def message : Issue → String
  | .emptyEntity index => "Descriptor at position " ++ toString index ++ " has an empty entity"
  | .conflictingShape entity =>
    "Descriptor '" ++ entity ++
      "' sets both single_result and is_map_result; single_result takes priority"
  | .malformedAttributePath entity path =>
    "Descriptor '" ++ entity ++ "' has malformed attribute path '" ++ path ++
      "': expected exactly two non-empty segments around '#'"
  | .ignoredPaginationOverride entity =>
    "Descriptor '" ++ entity ++
      "' overrides pagination fields but suppresses pagination; the overrides are ignored"
  | .duplicateMethod name => "Method '" ++ name ++ "' is declared more than once"

end Issue

end CloudAccessors
