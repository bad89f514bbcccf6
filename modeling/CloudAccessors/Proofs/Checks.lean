import CloudAccessors.Proofs.AttributePaths
import CloudAccessors.Source.File

/-!
# What the checks establish

Each check of the renderers returns the first fault it finds. Here its success is stated as what
the checked value then has: `Config.fault?_eq_none_iff` for a configuration, `declarationFault?` for
a declared plan (`DeclarationOk`) and `bodyFault?` for a plan with a body (`BodyOk`). For a derived
plan the check of the input type is implied by those of the service and the call
(`isSelector_inputType`), so that a declared plan has only the faults of `RenderFault.inBody`; and
what its merge reads are the segments that have been checked (`BodyOk.fields_merge`).
-/

namespace CloudAccessors

open Text (blank trimmed)

namespace Config

theorem identifierFault?_eq_none_iff {label value : String} :
    identifierFault? label value = none ↔ Go.isIdentifier value := by
  unfold identifierFault?; split <;> simp_all

/-- A configuration without a fault: three identifiers, and a generator name on one line. -/
theorem fault?_eq_none_iff {c : Config} :
    c.fault? = none ↔ Go.isIdentifier c.package ∧ Go.isIdentifier c.interface ∧
      Go.isIdentifier c.receiver ∧ blank c.generator = false ∧ '\n' ∉ c.generator.toList := by
  have hg : generatorFault? c.generator = none ↔
      blank c.generator = false ∧ '\n' ∉ c.generator.toList := by
    unfold generatorFault?; cases blank c.generator <;> simp
  simp only [fault?, Option.orElse_eq_orElse, Option.orElse_eq_or, Option.or_eq_none_iff,
    identifierFault?_eq_none_iff, hg]

end Config

/-- The faults that only a body has. -/
def RenderFault.inBody : RenderFault → Bool
  | .service _ | .call _ | .ownerFilter _ | .segmentCount _ | .segment _ | .tokenField _ => true
  | _ => false

namespace Source

variable {p : Plan} {d : Descriptor} {fault : RenderFault}

/-! ### Declarations -/

/-- A plan that can be declared. -/
structure DeclarationOk (p : Plan) : Prop where
  entity : blank p.entity = false
  signature : blank p.signature = false
  line : '\n' ∉ (trimmed p.signature).toList

theorem declarationFault?_eq_none_iff : declarationFault? p = none ↔ DeclarationOk p := by
  unfold declarationFault?
  constructor
  · intro h
    split at h
    · cases h
    split at h
    · cases h
    split at h
    · cases h
    · exact ⟨by simp_all, by simp_all, by simp_all⟩
  · intro h
    simp [h.entity, h.signature, h.line]

/-! ### Bodies -/

theorem unlessSelector_eq_none_iff {f : String → RenderFault} {s : String} :
    unlessSelector f s = none ↔ Go.isSelector s := by
  unfold unlessSelector; split <;> simp_all

theorem unlessIdentifier_eq_none_iff {f : String → RenderFault} {s : String} :
    unlessIdentifier f s = none ↔ Go.isIdentifier s := by
  unfold unlessIdentifier; split <;> simp_all

/-- A plan whose body can be written. -/
structure BodyOk (p : Plan) : Prop where
  entity : blank p.entity = false
  signature : blank p.signature = false
  service : Go.isIdentifier p.service
  call : Go.isIdentifier p.call
  inputType : Go.isSelector p.inputType
  ownerFilter : ∀ field, p.ownerFilter = some field → Go.isSelector field
  segmentCount : segmentCountFault? p = none
  segments : ∀ s ∈ p.accessPath, Go.isSelector s
  tokens : ∀ t, p.pagination = some t → Go.isSelector t.outputField ∧ Go.isSelector t.inputField

theorem bodyFault?_eq_none_iff : bodyFault? p = none ↔ BodyOk p := by
  simp only [bodyFault?, Option.orElse_eq_orElse, Option.orElse_eq_or, Option.or_eq_none_iff,
    unlessIdentifier_eq_none_iff, unlessSelector_eq_none_iff, Option.bind_eq_none_iff,
    List.findSome?_eq_none_iff, ite_eq_right_iff, reduceCtorEq, imp_false, Bool.not_eq_true]
  constructor
  · rintro ⟨h1, h2, h3, h4, h5, h6, h7, h8, h9⟩
    exact ⟨h1, h2, h3, h4, h5, h6, h7, h8, h9⟩
  · rintro ⟨h1, h2, h3, h4, h5, h6, h7, h8, h9⟩
    exact ⟨h1, h2, h3, h4, h5, h6, h7, h8, h9⟩

/-! ### Faults of derived plans -/

theorem isSelector_inputType (hs : Go.isIdentifier d.service) (hc : Go.isIdentifier d.call) :
    Go.isSelector d.inputType := by
  have := Go.isSelectorText_inputType hs hc
  simpa [Go.isSelector, Descriptor.inputType] using this

theorem inBody_of_unlessSelector {f : String → RenderFault} {s : String} (hf : ∀ s, (f s).inBody)
    (h : unlessSelector f s = some fault) : fault.inBody := by
  unfold unlessSelector at h
  split at h
  · cases h
  · cases h; exact hf s

theorem inBody_of_segmentCountFault? (h : segmentCountFault? p = some fault) : fault.inBody := by
  unfold segmentCountFault? at h
  split at h
  · split at h
    · cases h
    · cases h; rfl
  · cases h

/-- A descriptor that can be declared has no other faults than those of its body. -/
theorem inBody_of_bodyFault? (hd : DeclarationOk d.plan) (h : bodyFault? d.plan = some fault) :
    fault.inBody := by
  simp only [bodyFault?, Option.orElse_eq_orElse, Option.orElse_eq_or, hd.entity, hd.signature,
    Bool.false_eq_true, if_false, Option.or_eq_some_iff, reduceCtorEq, true_and, false_or] at h
  rcases h with h | ⟨hservice, h⟩
  · unfold unlessIdentifier at h
    split at h <;> cases h; rfl
  rcases h with h | ⟨hcall, h⟩
  · unfold unlessIdentifier at h
    split at h <;> cases h; rfl
  -- the input type is put together from what the last two checks have accepted
  have hinput : unlessSelector .inputType d.plan.inputType = none :=
    unlessSelector_eq_none_iff.2 (isSelector_inputType (unlessIdentifier_eq_none_iff.1 hservice)
      (unlessIdentifier_eq_none_iff.1 hcall))
  rw [hinput] at h
  simp only [reduceCtorEq, true_and, false_or] at h
  rcases h with h | ⟨-, h | ⟨-, h | ⟨-, h⟩⟩⟩
  · obtain ⟨field, -, h⟩ := Option.bind_eq_some_iff.1 h
    exact inBody_of_unlessSelector (fun _ => rfl) h
  · exact inBody_of_segmentCountFault? h
  · obtain ⟨s, -, h⟩ := List.exists_of_findSome?_eq_some h
    exact inBody_of_unlessSelector (fun _ => rfl) h
  · obtain ⟨t, -, h⟩ := Option.bind_eq_some_iff.1 h
    rcases Option.or_eq_some_iff.1 h with h | ⟨-, h⟩
    · exact inBody_of_unlessSelector (fun _ => rfl) h
    · exact inBody_of_unlessSelector (fun _ => rfl) h

end Source

/-! ### Fields of derived plans -/

/-- The fields that a merge reads. -/
def Merge.fields : Merge → List String
  | .flatten outer inner => [outer, inner]
  | .assign field | .append field => [field]

namespace Source

variable {d : Descriptor}

theorem segmentCountFault?_plan_eq_none_iff :
    segmentCountFault? d.plan = none ↔ (d.collectsElements = true → d.accessPath.length = 2) := by
  cases hc : d.collectsElements with
  | true => simp [segmentCountFault?, Descriptor.plan, Descriptor.merge, hc]
  | false =>
    cases hs : d.shape.replacesOnMerge <;>
      simp [segmentCountFault?, Descriptor.plan, Descriptor.merge, hc, hs]

/-- What is merged are the segments of the path, which have been checked. -/
theorem BodyOk.fields_merge (h : BodyOk d.plan) : d.merge.fields = d.accessPath := by
  cases hc : d.collectsElements with
  | true =>
    have hlength := segmentCountFault?_plan_eq_none_iff.1 h.segmentCount hc
    match hpath : d.accessPath, hlength with
    | [outer, inner], _ => simp [Descriptor.merge, hc, hpath, Merge.fields]
  | false =>
    have hpath := Descriptor.accessPath_eq_singleton hc
    cases hs : d.shape.replacesOnMerge <;> simp [Descriptor.merge, hc, hs, hpath, Merge.fields]

/-- The token fields matter only to a call that has a token. -/
theorem tokens_pagination_iff :
    (∀ t, d.pagination = some t → Go.isSelector t.outputField ∧ Go.isSelector t.inputField) ↔
      d.unpaginated = true ∨
        (Go.isSelector d.outputTokenField ∧ Go.isSelector d.inputTokenFieldOrDefault) := by
  rw [Descriptor.pagination]
  cases d.unpaginated <;> simp

theorem BodyOk.mem_accessPath (h : BodyOk d.plan) {field : String}
    (hfield : field ∈ d.merge.fields) : field ∈ d.accessPath := h.fields_merge ▸ hfield

end Source

end CloudAccessors
