import CloudAccessors.Descriptor.Basic
import CloudAccessors.Json.Mismatch

/-!
# Descriptors as JSON values

A descriptor is written as an object with its fields in order, absent texts left out. Reading an
object takes the members in any order, gives missing fields their default, ignores unknown keys and
refuses a known key that occurs twice. An array is read as the fields in order; it may be short.
-/

namespace CloudAccessors.Descriptor

open Json (Head Mismatch)

namespace Kind

/-- The JSON form of a value, if it is written at all. -/
def toJson? : (k : Kind) → k.Value → Option Json
  | .text, s => some (.string s)
  | .optionalText, none => none
  | .optionalText, some s => some (.string s)
  | .flag, b => some (.bool b)

/-- The value that a field of this kind takes from a JSON value. -/
def accept : (k : Kind) → Head → Except Mismatch k.Value
  | .text, .string s => .ok s
  | .text, found => .error (.invalidType found "a string")
  | .optionalText, .null => .ok none
  | .optionalText, .string s => .ok (some s)
  | .optionalText, found => .error (.invalidType found "a string")
  | .flag, .bool b => .ok b
  | .flag, found => .error (.invalidType found "a boolean")

end Kind

/-- The member that a field is written as. -/
def member? (d : Descriptor) (f : Field) : Option (String × Json) :=
  (f.kind.toJson? (d.get f)).map fun value => (f.key, value)

def members (d : Descriptor) : List (String × Json) := Field.all.filterMap d.member?

def toJson (d : Descriptor) : Json := .object d.members

/-- The descriptor on one line, as JSON. -/
def serialize (d : Descriptor) : String := d.toJson.compact

/-- A descriptor that is being read, with the fields that have been met. -/
structure Draft where
  seen : List Field := []
  descriptor : Descriptor := {}
deriving DecidableEq, Repr

namespace Draft

/-- The field of a key, or `none` for an unknown key. A field must not have been met before. -/
def fieldOf (draft : Draft) (key : String) : Except Mismatch (Option Field) :=
  match Field.ofKey? key with
  | none => .ok none
  | some f => if f ∈ draft.seen then .error (.duplicateField key) else .ok (some f)

/-- Takes the value of a field. -/
def take (draft : Draft) (f : Field) (value : Head) : Except Mismatch Draft :=
  (f.kind.accept value).map fun v => ⟨f :: draft.seen, draft.descriptor.set f v⟩

/-- Takes a member. -/
def takeMember (draft : Draft) (member : String × Json) : Except Mismatch Draft := do
  match ← draft.fieldOf member.1 with
  | none => return draft
  | some f => draft.take f member.2.head

end Draft

/-- Reads the fields from an array, in order. -/
def ofItems (count : Nat) : List Field → Descriptor → List Json → Except Mismatch Descriptor
  | _, d, [] => .ok d
  | [], _, _ :: _ => .error (.tooManyItems count)
  | f :: fields, d, item :: more =>
    match f.kind.accept item.head with
    | .error mismatch => .error mismatch
    | .ok v => ofItems count fields (d.set f v) more

def ofJson : Json → Except Mismatch Descriptor
  | .object members => (members.foldlM Draft.takeMember {}).map (·.descriptor)
  | .array items => ofItems items.length Field.all {} items
  | j => .error (.invalidType j.head "struct Descriptor")

end CloudAccessors.Descriptor
