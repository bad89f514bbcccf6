import CloudAccessors.Proofs.Outcome

/-!
# Fields that another field leaves no effect

A whole signature leaves a stated method name no effect, an element type the singular, the flag for
a single item the one for a map, and a call without a continuation token the two token fields
(`Descriptor.shadows`). Changing such fields changes nothing in the plan but the name of the method
(`unnamed_plan_eq`). The name has its effect through the signature only: no check and no text reads
it from a plan (`interface_map_unnamed`, `mapM_method_map_unnamed`), and so neither the source nor
the failure changes, wherever the descriptor stands (`generate_eq_of_sameInEffect`).
-/

namespace CloudAccessors

/-! ### Descriptors -/

namespace Descriptor

/-- Is this a field that has no effect beside another one? -/
def shadows (d : Descriptor) : Field → Bool
  | .tokenField | .inputTokenField => d.unpaginated
  | .mapResult => d.singleResult
  | .singular => d.elementType.isSome
  | .methodName => d.signature.isSome
  | _ => false

/-- Has `e` all fields of `d` but for those without effect? -/
def SameInEffect (d e : Descriptor) : Prop := ∀ f, d.shadows f = false → e.get f = d.get f

namespace SameInEffect

variable {d e : Descriptor}

section
variable (h : SameInEffect d e)
include h

theorem entity : e.entity = d.entity := h .entity rfl

theorem service : e.service = d.service := h .service rfl

theorem ownerField : e.ownerField = d.ownerField := h .ownerField rfl

theorem attributePath : e.attributePath = d.attributePath := h .attributePath rfl

theorem call : e.call = d.call := by
  have hname : e.callName = d.callName := h .callName rfl
  have hprefix : e.callPrefix = d.callPrefix := h .callPrefix rfl
  simp only [Descriptor.call, hname, hprefix, h.entity]

theorem inputType : e.inputType = d.inputType := by
  simp only [Descriptor.inputType, h.service, h.call]

theorem shape : e.shape = d.shape := by
  have hsingle : e.singleResult = d.singleResult := h .singleResult rfl
  unfold Descriptor.shape
  rw [hsingle]
  cases hd : d.singleResult with
  | true => rfl
  | false =>
    have hmap : e.mapResult = d.mapResult := h .mapResult hd
    rw [hmap]

theorem elementTypeOrDefault : e.elementTypeOrDefault = d.elementTypeOrDefault := by
  have htype : e.elementType = d.elementType := h .elementType rfl
  unfold Descriptor.elementTypeOrDefault
  rw [htype]
  cases hd : d.elementType with
  | some s => rfl
  | none =>
    have hsingular : e.singular = d.singular := h .singular (by rw [shadows, hd]; rfl)
    simp only [singularOrDefault, hsingular, h.entity, h.service]

theorem outputType : e.outputType = d.outputType := by
  simp only [Descriptor.outputType, h.shape, h.elementTypeOrDefault]

theorem signatureOrDefault : e.signatureOrDefault = d.signatureOrDefault := by
  have hsignature : e.signature = d.signature := h .signature rfl
  unfold Descriptor.signatureOrDefault
  rw [hsignature]
  cases hd : d.signature with
  | some s => rfl
  | none =>
    have hname : e.methodName = d.methodName := h .methodName (by rw [shadows, hd]; rfl)
    simp only [methodNameOrDefault, hname, h.ownerField, h.entity, h.inputType, h.outputType]

theorem accessPath : e.accessPath = d.accessPath := by
  simp only [Descriptor.accessPath, h.attributePath, h.entity]

theorem collectsElements : e.collectsElements = d.collectsElements := by
  simp only [Descriptor.collectsElements, h.attributePath]

theorem merge : e.merge = d.merge := by
  unfold Descriptor.merge
  rw [h.collectsElements, h.accessPath, h.shape]

theorem pagination : e.pagination = d.pagination := by
  have hunpaginated : e.unpaginated = d.unpaginated := h .unpaginated rfl
  unfold Descriptor.pagination
  rw [hunpaginated]
  cases hd : d.unpaginated with
  | true => rfl
  | false =>
    have houtput : e.tokenField = d.tokenField := h .tokenField hd
    have hinput : e.inputTokenField = d.inputTokenField := h .inputTokenField hd
    simp only [outputTokenField, inputTokenFieldOrDefault, houtput, hinput]

end

end SameInEffect

end Descriptor

/-! ### Plans -/

/-- A plan without the name of its method. -/
def Plan.unnamed (p : Plan) : Plan := { p with name := "" }

theorem Descriptor.SameInEffect.unnamed_plan_eq {d e : Descriptor} (h : d.SameInEffect e) :
    e.plan.unnamed = d.plan.unnamed := by
  have hdocumentation : e.documentation = d.documentation := h .documentation rfl
  have hwritten : e.handWritten = d.handWritten := h .handWritten rfl
  simp only [Plan.unnamed, plan, hdocumentation, hwritten, h.entity, h.service, h.ownerField,
    h.signatureOrDefault, h.inputType, h.outputType, h.shape, h.call, h.accessPath, h.merge,
    h.pagination]

namespace Source

variable {c : Config} {ds es : List Descriptor} {d e : Descriptor}

theorem interface_map_unnamed (c : Config) (ps : List Plan) :
    interface c (ps.map Plan.unnamed) = interface c ps := by
  rw [interface_eq_okUnless, interface_eq_okUnless, List.findSome?_map, List.map_map]
  rfl

theorem mapM_method_map_unnamed (c : Config) (ps : List Plan) :
    (ps.map Plan.unnamed).mapM (method c) = ps.mapM (method c) := by
  rw [List.mapM_map]
  rfl

/-! ### Runs -/

theorem generate_eq_of_unnamed
    (h : (planAll ds).map Plan.unnamed = (planAll es).map Plan.unnamed) :
    generate c ds = generate c es := by
  have hdeclared : interface c (planAll ds) = interface c (planAll es) := by
    rw [← interface_map_unnamed, h, interface_map_unnamed]
  have hmade : (planAll ds).mapM (method c) = (planAll es).mapM (method c) := by
    rw [← mapM_method_map_unnamed, h, mapM_method_map_unnamed]
  simp only [generate, hdeclared, hmade]

/-- Fields without effect can be changed in any descriptor of a list, and the result is the same
source or the same failure. -/
theorem generate_eq_of_sameInEffect (h : d.SameInEffect e) (c : Config)
    (xs ys : List Descriptor) : generate c (xs ++ e :: ys) = generate c (xs ++ d :: ys) := by
  refine generate_eq_of_unnamed ?_
  simp only [planAll, List.map_append, List.map_cons, h.unnamed_plan_eq]

/-- A descriptor in which five fields have no effect. -/
def fullyStated : Descriptor where
  entity := "Images"
  service := "ec2"
  callPrefix := "Describe"
  signature := some "GetImages() (*ec2.Image, error)"
  elementType := some "ec2.Image"
  singleResult := true
  unpaginated := true

/-- The same with other values in these fields, among them texts that are no Go names. -/
def fullyStatedOtherwise : Descriptor :=
  { fullyStated with
    methodName := some "func"
    singular := some "Im\nage"
    mapResult := true
    tokenField := some "Next Token"
    inputTokenField := some "" }

theorem generate_eq_fullyStatedOtherwise :
    fullyStated.SameInEffect fullyStatedOtherwise ∧ fullyStated ≠ fullyStatedOtherwise ∧
      ∀ c xs ys, generate c (xs ++ fullyStatedOtherwise :: ys) =
        generate c (xs ++ fullyStated :: ys) := by
  have hsame : fullyStated.SameInEffect fullyStatedOtherwise := by
    intro f hf
    cases f <;> first | rfl | cases hf
  exact ⟨hsame, by decide, generate_eq_of_sameInEffect hsame⟩

end Source

end CloudAccessors
