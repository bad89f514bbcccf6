import CloudAccessors.Json.Mismatch
import CloudAccessors.Plan.Basic

/-!
# Plans as JSON values

A plan is written as an object with all of its fields in order; what is absent is `null`, and a
merge says its kind in a member of its own.
-/

namespace CloudAccessors

open Json (Mismatch)

namespace Shape

def toJson (shape : Shape) : Json := .string shape.name

def ofJsonName (s : String) : Except Mismatch Shape :=
  match ofName? s with
  | some shape => .ok shape
  | none => .error (.unknownVariant s (all.map name))

/-- Reads a shape: its name, or an object with the name as its only key and no content. -/
def ofJson : Json → Except Mismatch Shape
  | .string s => ofJsonName s
  | .object [(key, value)] => do
    let shape ← ofJsonName key
    match value with
    | .null => return shape
    | value => throw (.invalidType value.head "unit")
  | .object _ => .error .notSingleKey
  | j => .error (.invalidType j.head "string or map")

end Shape

def Merge.toJson : Merge → Json
  | .flatten outer inner =>
    .object [("kind", .string "flatten"), ("outer", .string outer), ("inner", .string inner)]
  | .assign field => .object [("kind", .string "assign"), ("field", .string field)]
  | .append field => .object [("kind", .string "append"), ("field", .string field)]

def Pagination.toJson (p : Pagination) : Json :=
  .object [("output_field", .string p.outputField), ("input_field", .string p.inputField)]

/-- An absent value as `null`. -/
def orNull (j? : Option Json) : Json := j?.getD .null

def Plan.toJson (p : Plan) : Json :=
  .object
    [("entity", .string p.entity),
     ("name", .string p.name),
     ("documentation", .string p.documentation),
     ("signature", .string p.signature),
     ("input_type", .string p.inputType),
     ("output_type", .string p.outputType),
     ("shape", p.shape.toJson),
     ("service", .string p.service),
     ("service_call", .string p.call),
     ("owner_filter", orNull (p.ownerFilter.map .string)),
     ("access_path", .array (p.accessPath.map .string)),
     ("merge", p.merge.toJson),
     ("pagination", orNull (p.pagination.map Pagination.toJson)),
     ("generate_body", .bool p.generateBody)]

end CloudAccessors
