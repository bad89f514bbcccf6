import CloudAccessors.Shape

/-!
# Accessor plans

A plan holds everything that is written into one generated accessor. Nothing is derived any more
when it is rendered.
-/

namespace CloudAccessors

/-- How a page is merged into what was fetched before. -/
inductive Merge where
  /-- Append the field `inner` of each element of the field `outer`. -/
  | flatten (outer inner : String)
  /-- Replace everything by the field. -/
  | assign (field : String)
  /-- Append the field. -/
  | append (field : String)
deriving DecidableEq, Repr

/-- The continuation token: where a page has it, and where the next request takes it. -/
structure Pagination where
  outputField : String
  inputField : String
deriving DecidableEq, Repr

structure Plan where
  entity : String
  name : String
  documentation : String
  /-- The method signature, without keyword and receiver. -/
  signature : String
  inputType : String
  /-- The result type with the qualifier of the shape. -/
  outputType : String
  shape : Shape
  service : String
  /-- The call name, without the suffix of the variant that takes a context. -/
  call : String
  ownerFilter : Option String
  /-- The segments of the attribute path. -/
  accessPath : List String
  merge : Merge
  /-- The token fields, unless the call is made just once. -/
  pagination : Option Pagination
  generateBody : Bool
deriving DecidableEq, Repr

end CloudAccessors
