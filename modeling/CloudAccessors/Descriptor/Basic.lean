/-!
# Resource descriptors

A descriptor says what is needed to generate one accessor: the plural resource name, the SDK service
that is called, and overrides of the names, types and token fields that would be derived otherwise.
Its fields are also an enumeration (`Field`), so that a field can be read, written and listed as a
value: `get_set` and `get_set_of_ne` say that each is an independent slot, and `ext_get` that a
descriptor has nothing else.
-/

namespace CloudAccessors

structure Descriptor where
  /-- The plural resource name, such as `Instances`. -/
  entity : String := ""
  /-- The method name, instead of `Get` or `GetOwn` and the entity. -/
  methodName : Option String := none
  /-- The whole method signature. -/
  signature : Option String := none
  /-- The element type, without the qualifier of the shape. -/
  elementType : Option String := none
  /-- The output field that holds the resources, or `Outer#Inner` to collect the field `Inner` of
  each element of `Outer`. The entity by default. -/
  attributePath : Option String := none
  /-- The call name behind its prefix, instead of the entity. -/
  callName : Option String := none
  /-- The singular of the entity. -/
  singular : Option String := none
  /-- The verb in front of the call name, such as `Describe`. -/
  callPrefix : String := ""
  /-- The SDK package, such as `ec2`. -/
  service : String := ""
  /-- The input field that receives the account of the caller. -/
  ownerField : Option String := none
  /-- The call has no continuation token. -/
  unpaginated : Bool := false
  /-- The call returns one item. -/
  singleResult : Bool := false
  /-- The call returns a map. -/
  mapResult : Bool := false
  /-- The output field of the continuation token. -/
  tokenField : Option String := none
  /-- The input field of the continuation token, if it differs from the output field. -/
  inputTokenField : Option String := none
  documentation : String := ""
  /-- Only the interface method is generated. -/
  handWritten : Bool := false
deriving DecidableEq, Repr

namespace Descriptor

/-- What a field holds: a text, a text that may be absent, or a flag. -/
inductive Kind where
  | text
  | optionalText
  | flag
deriving DecidableEq, Repr

abbrev Kind.Value : Kind → Type
  | .text => String
  | .optionalText => Option String
  | .flag => Bool

def Kind.default : (k : Kind) → k.Value
  | .text => ""
  | .optionalText => none
  | .flag => false

inductive Field where
  | entity
  | methodName
  | signature
  | elementType
  | attributePath
  | callName
  | singular
  | callPrefix
  | service
  | ownerField
  | unpaginated
  | singleResult
  | mapResult
  | tokenField
  | inputTokenField
  | documentation
  | handWritten
deriving DecidableEq, Repr

namespace Field

/-- All fields in the order in which they are written. -/
def all : List Field :=
  [entity, methodName, signature, elementType, attributePath, callName, singular, callPrefix,
   service, ownerField, unpaginated, singleResult, mapResult, tokenField, inputTokenField,
   documentation, handWritten]

/-- The key of a field in the written form of a descriptor. -/
def key : Field → String
  | .entity => "entity"
  | .methodName => "explicit_name"
  | .signature => "explicit_signature"
  | .elementType => "explicit_output_type"
  | .attributePath => "attribute_path"
  | .callName => "explicit_service_call_name"
  | .singular => "singular_override"
  | .callPrefix => "service_prefix"
  | .service => "service_namespace"
  | .ownerField => "owner_filter_field"
  | .unpaginated => "suppress_pagination"
  | .singleResult => "single_result"
  | .mapResult => "is_map_result"
  | .tokenField => "pagination_token_field"
  | .inputTokenField => "pagination_input_field"
  | .documentation => "documentation"
  | .handWritten => "skip_body_generation"

def ofKey? (s : String) : Option Field := all.find? (·.key = s)

abbrev kind : Field → Kind
  | .entity | .callPrefix | .service | .documentation => .text
  | .unpaginated | .singleResult | .mapResult | .handWritten => .flag
  | .methodName | .signature | .elementType | .attributePath | .callName | .singular
  | .ownerField | .tokenField | .inputTokenField => .optionalText

theorem mem_all (f : Field) : f ∈ all := by cases f <;> decide

theorem ofKey?_key (f : Field) : ofKey? f.key = some f := by cases f <;> decide

end Field

def get (d : Descriptor) : (f : Field) → f.kind.Value
  | .entity => d.entity
  | .methodName => d.methodName
  | .signature => d.signature
  | .elementType => d.elementType
  | .attributePath => d.attributePath
  | .callName => d.callName
  | .singular => d.singular
  | .callPrefix => d.callPrefix
  | .service => d.service
  | .ownerField => d.ownerField
  | .unpaginated => d.unpaginated
  | .singleResult => d.singleResult
  | .mapResult => d.mapResult
  | .tokenField => d.tokenField
  | .inputTokenField => d.inputTokenField
  | .documentation => d.documentation
  | .handWritten => d.handWritten

def set (d : Descriptor) : (f : Field) → f.kind.Value → Descriptor
  | .entity, v => { d with entity := v }
  | .methodName, v => { d with methodName := v }
  | .signature, v => { d with signature := v }
  | .elementType, v => { d with elementType := v }
  | .attributePath, v => { d with attributePath := v }
  | .callName, v => { d with callName := v }
  | .singular, v => { d with singular := v }
  | .callPrefix, v => { d with callPrefix := v }
  | .service, v => { d with service := v }
  | .ownerField, v => { d with ownerField := v }
  | .unpaginated, v => { d with unpaginated := v }
  | .singleResult, v => { d with singleResult := v }
  | .mapResult, v => { d with mapResult := v }
  | .tokenField, v => { d with tokenField := v }
  | .inputTokenField, v => { d with inputTokenField := v }
  | .documentation, v => { d with documentation := v }
  | .handWritten, v => { d with handWritten := v }

variable {d e : Descriptor} {f g : Field}

theorem get_set (v : f.kind.Value) : (d.set f v).get f = v := by cases f <;> rfl

theorem get_set_of_ne (h : g ≠ f) (v : f.kind.Value) : (d.set f v).get g = d.get g := by
  cases f <;> cases g <;> first | rfl | exact absurd rfl h

theorem ext_get (h : ∀ f, d.get f = e.get f) : d = e := by
  cases d; cases e
  simp only [Descriptor.mk.injEq]
  exact ⟨h .entity, h .methodName, h .signature, h .elementType, h .attributePath, h .callName,
    h .singular, h .callPrefix, h .service, h .ownerField, h .unpaginated, h .singleResult,
    h .mapResult, h .tokenField, h .inputTokenField, h .documentation, h .handWritten⟩

theorem get_default (f : Field) : ({} : Descriptor).get f = f.kind.default := by cases f <;> rfl

end Descriptor

end CloudAccessors
