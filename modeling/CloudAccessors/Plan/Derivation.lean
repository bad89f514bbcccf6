import CloudAccessors.Descriptor.Basic
import CloudAccessors.Noun.Singular
import CloudAccessors.Plan.Basic

/-!
# Deriving a plan from a descriptor

Every name, type and strategy that a descriptor does not state is derived from its entity and its
service. Nothing is refused here: a malformed descriptor has a malformed plan.
-/

namespace CloudAccessors.Descriptor

/-- Stands in an attribute path between the field to iterate over and the field to collect. -/
def pathSeparator : Char := '#'

/-- The token field of most calls. -/
def defaultTokenField : String := "NextToken"

variable (d : Descriptor)

def methodNameOrDefault : String :=
  d.methodName.getD ((if d.ownerField.isSome then "GetOwn" else "Get") ++ d.entity)

def singularOrDefault : String := d.singular.getD (Noun.singularize d.entity)

/-- The shape of the result. Of the two flags, the one for a single item comes first. -/
def shape : Shape :=
  if d.singleResult then .single else if d.mapResult then .map else .sequence

def elementTypeOrDefault : String := d.elementType.getD (d.service ++ "." ++ d.singularOrDefault)

def outputType : String := d.shape.typePrefix ++ d.elementTypeOrDefault

/-- The call name. The prefix stands in front of an overridden name as well. -/
def call : String := d.callPrefix ++ d.callName.getD d.entity

def inputType : String := d.service ++ "." ++ d.call ++ "Input"

def signatureOrDefault : String :=
  d.signature.getD
    (d.methodNameOrDefault ++ "(ctx context.Context, input *" ++ d.inputType ++ ") (" ++
      d.outputType ++ ", error)")

/-- Does the attribute path ask to collect a field of each element? -/
def collectsElements : Bool := d.attributePath.any fun path => path.toList.contains pathSeparator

/-- The segments of the attribute path, or the entity as the only one. -/
def accessPath : List String :=
  match d.attributePath with
  | none => [d.entity]
  | some path => (path.toList.splitOn pathSeparator).map String.ofList

def outputTokenField : String := d.tokenField.getD defaultTokenField

def inputTokenFieldOrDefault : String := d.inputTokenField.getD d.outputTokenField

def merge : Merge :=
  if d.collectsElements then .flatten (d.accessPath.getD 0 "") (d.accessPath.getD 1 "")
  else if d.shape.replacesOnMerge then .assign (d.accessPath.getD 0 "")
  else .append (d.accessPath.getD 0 "")

def pagination : Option Pagination :=
  if d.unpaginated then none else some ⟨d.outputTokenField, d.inputTokenFieldOrDefault⟩

def plan : Plan where
  entity := d.entity
  name := d.methodNameOrDefault
  documentation := d.documentation
  signature := d.signatureOrDefault
  inputType := d.inputType
  outputType := d.outputType
  shape := d.shape
  service := d.service
  call := d.call
  ownerFilter := d.ownerField
  accessPath := d.accessPath
  merge := d.merge
  pagination := d.pagination
  generateBody := !d.handWritten

end CloudAccessors.Descriptor
