import CloudAccessors.Descriptor.Basic

/-!
# Edits of a descriptor

A descriptor is built from its entity by a row of edits. An edit assigns one field, or the two
fields of the service at once, and leaves all others alone.
-/

namespace CloudAccessors.Descriptor

inductive Edit where
  | service (package verb : String)
  | methodName (s : String)
  | signature (s : String)
  | elementType (s : String)
  | attributePath (s : String)
  | callName (s : String)
  | singular (s : String)
  | ownerField (s : String)
  | tokenField (s : String)
  | inputTokenField (s : String)
  | unpaginated
  | singleResult
  | mapResult
  | documentation (s : String)
  | handWritten
deriving DecidableEq, Repr

/-- A field and the value it is given. -/
abbrev Assignment := (f : Field) × f.kind.Value

namespace Edit

def assignments : Edit → List Assignment
  | .service package verb => [⟨.service, package⟩, ⟨.callPrefix, verb⟩]
  | .methodName s => [⟨.methodName, some s⟩]
  | .signature s => [⟨.signature, some s⟩]
  | .elementType s => [⟨.elementType, some s⟩]
  | .attributePath s => [⟨.attributePath, some s⟩]
  | .callName s => [⟨.callName, some s⟩]
  | .singular s => [⟨.singular, some s⟩]
  | .ownerField s => [⟨.ownerField, some s⟩]
  | .tokenField s => [⟨.tokenField, some s⟩]
  | .inputTokenField s => [⟨.inputTokenField, some s⟩]
  | .unpaginated => [⟨.unpaginated, true⟩]
  | .singleResult => [⟨.singleResult, true⟩]
  | .mapResult => [⟨.mapResult, true⟩]
  | .documentation s => [⟨.documentation, s⟩]
  | .handWritten => [⟨.handWritten, true⟩]

end Edit

def assign (d : Descriptor) (a : Assignment) : Descriptor := d.set a.1 a.2

def apply (d : Descriptor) (edit : Edit) : Descriptor := edit.assignments.foldl assign d

/-- The descriptor of an entity after the given edits. -/
def build (entity : String) (edits : List Edit) : Descriptor := edits.foldl apply { entity }

theorem get_assign_of_ne {d : Descriptor} {a : Assignment} {f : Field} (h : f ≠ a.1) :
    (d.assign a).get f = d.get f := get_set_of_ne h a.2

end CloudAccessors.Descriptor
