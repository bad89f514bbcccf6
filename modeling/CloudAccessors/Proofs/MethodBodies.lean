import CloudAccessors.Proofs.Accumulators
import CloudAccessors.Proofs.ListIssues

/-!
# When a body is written

The checks of a body are made on the plan, and most of what they look at is derived. Here they are
put back to the descriptor (`bodyOk_plan_iff_renderable`): the input type needs no check of its own,
and the segments of a path are those that stand around its one separator. The merge is derived from
the path apart from the segments that are checked, but reads the same fields
(`BodyOk.fields_merge`). The check of a list looks at the white space of a path instead of its
names; since no selector is blank, it reports no path of a body that is written
(`BodyOk.isMalformedPath`).
-/

namespace CloudAccessors

open Text (blank)

/-! ### Descriptors with a body -/

/-- Is the path two selectors around a separator? No selector has a separator, so that the path is
cut nowhere else. -/
def IsSelectorPair (path : String) : Prop :=
  ∃ outer inner, path = outer ++ "#" ++ inner ∧ Go.isSelector outer ∧ Go.isSelector inner

/-- A descriptor whose method body can be written. -/
structure Descriptor.Renderable (d : Descriptor) : Prop where
  entity : blank d.entity = false
  signature : blank d.signatureOrDefault = false
  service : Go.isIdentifier d.service
  call : Go.isIdentifier d.call
  ownerField : ∀ field, d.ownerField = some field → Go.isSelector field
  entityPath : d.attributePath = none → Go.isSelector d.entity
  attributePath : ∀ path, d.attributePath = some path → Go.isSelector path ∨ IsSelectorPair path
  tokens : d.unpaginated = true ∨
    (Go.isSelector d.outputTokenField ∧ Go.isSelector d.inputTokenFieldOrDefault)

namespace Source

variable {d : Descriptor} {path : String}

theorem separator_not_mem_of_isSelector {s : String} (h : Go.isSelector s) :
    Descriptor.pathSeparator ∉ s.toList :=
  Go.not_mem_of_isSelectorText (by decide) (by decide) h

/-- The checks of a path accept one selector, or two around a separator. -/
theorem segmentsOk_iff (hpath : d.attributePath = some path) :
    (segmentCountFault? d.plan = none ∧ ∀ s ∈ d.accessPath, Go.isSelector s) ↔
      Go.isSelector path ∨ IsSelectorPair path := by
  rw [segmentCountFault?_plan_eq_none_iff, Descriptor.accessPath_of_eq_some hpath,
    Descriptor.collectsElements_of_eq_some hpath]
  constructor
  · rintro ⟨hcount, hsegments⟩
    by_cases hsep : Descriptor.pathSeparator ∈ path.toList
    · match hpair : Descriptor.segments path, hcount hsep with
      | [outer, inner], _ =>
        rw [hpair] at hsegments
        refine .inr ⟨outer, inner, ?_, hsegments outer (by simp), hsegments inner (by simp)⟩
        rw [← Descriptor.intercalate_segments path, hpair]
        simp [String.intercalate_cons_cons]
    · rw [Descriptor.segments_of_not_mem hsep] at hsegments
      exact .inl (hsegments path (by simp))
  · rintro (h | ⟨outer, inner, rfl, houter, hinner⟩)
    · have hsep := separator_not_mem_of_isSelector h
      rw [Descriptor.segments_of_not_mem hsep]
      exact ⟨fun hmem => absurd hmem hsep, by simpa using h⟩
    · rw [Descriptor.segments_pair (separator_not_mem_of_isSelector houter)
        (separator_not_mem_of_isSelector hinner)]
      exact ⟨fun _ => rfl, by simpa using ⟨houter, hinner⟩⟩

theorem bodyOk_plan_iff_renderable : BodyOk d.plan ↔ d.Renderable := by
  constructor
  · intro h
    refine ⟨h.entity, h.signature, h.service, h.call, h.ownerFilter, fun hnone => ?_,
      fun path hpath => ?_, tokens_pagination_iff.1 h.tokens⟩
    · exact h.segments d.entity (by simp [Descriptor.plan, Descriptor.accessPath_of_eq_none hnone])
    · exact (segmentsOk_iff hpath).1 ⟨h.segmentCount, h.segments⟩
  · intro h
    have hpath : segmentCountFault? d.plan = none ∧ ∀ s ∈ d.accessPath, Go.isSelector s := by
      cases hpath : d.attributePath with
      | some path => exact (segmentsOk_iff hpath).2 (h.attributePath path hpath)
      | none =>
        rw [segmentCountFault?_plan_eq_none_iff, Descriptor.accessPath_of_eq_none hpath]
        exact ⟨by simp [Descriptor.collectsElements, hpath], by simpa using h.entityPath hpath⟩
    exact ⟨h.entity, h.signature, h.service, h.call, isSelector_inputType h.service h.call,
      h.ownerField, hpath.1, hpath.2, tokens_pagination_iff.2 h.tokens⟩

/-! ### The fields of a merge -/

/-- The statements that read just these fields of a page: of each element of the first one the
second one, or the only one. -/
inductive MergesFields : List String → String → Prop
  | flatten (outer inner : String) : MergesFields [outer, inner]
      ("\t\tfor _, v := range o." ++ outer ++ " \x7b\n" ++
        "\t\t\topt = append(opt, v." ++ inner ++ "...)\n" ++ "\t\t\x7d\n")
  | assign (field : String) : MergesFields [field] ("\t\topt = o." ++ field ++ "\n")
  | append (field : String) : MergesFields [field] ("\t\topt = append(opt, o." ++ field ++ "...)\n")

theorem mergesFields_mergeStatement (merge : Merge) :
    MergesFields merge.fields (mergeStatement merge) := by
  cases merge with
  | flatten outer inner => exact .flatten outer inner
  | assign field => exact .assign field
  | append field => exact .append field

/-- A body is written exactly for a renderable descriptor. Its merge reads the segments of the path,
which have been checked, and joined again are the path. -/
theorem exists_method_iff_renderable (c : Config) (hbody : d.handWritten = false) :
    ((∃ body, method c d.plan = .ok (some body)) ↔ d.Renderable) ∧
    ∀ body, method c d.plan = .ok (some body) →
      (∃ front back, body = front ++ mergeStatement d.merge ++ back) ∧
      MergesFields d.accessPath (mergeStatement d.merge) ∧
      (∀ segment ∈ d.accessPath, Go.isSelector segment) ∧
      "#".intercalate d.accessPath = d.attributePath.getD d.entity := by
  have hgenerate : d.plan.generateBody = true := by simp [Descriptor.plan, hbody]
  simp only [method_eq_ok_some_iff, hgenerate, true_and, bodyOk_plan_iff_renderable]
  refine ⟨by simp, ?_⟩
  rintro body ⟨hd, rfl⟩
  have hok : BodyOk d.plan := bodyOk_plan_iff_renderable.2 hd
  refine ⟨⟨_, _, methodText_eq_accumulator_merge c d.plan⟩, ?_, hok.segments,
    d.intercalate_accessPath⟩
  rw [← hok.fields_merge]
  exact mergesFields_mergeStatement d.merge

/-- All fields are chains, and the tokens of the call differ. -/
def sharedImages : Descriptor where
  entity := "Images"
  service := "ec2"
  callPrefix := "Describe"
  ownerField := some "Filter.Owners"
  attributePath := some "Result.Groups#Images.Items"
  tokenField := some "Result.Marker"
  inputTokenField := some "Marker"

theorem method_sharedImages :
    method {} sharedImages.plan = .ok (some (methodText {} sharedImages.plan)) :=
  method_eq_ok_some_iff.2 ⟨rfl, bodyFault?_eq_none_iff.1 (by decide +kernel), rfl⟩

theorem exists_method_iff_renderable_sharedImages :
    sharedImages.handWritten = false ∧ sharedImages.Renderable ∧
      MergesFields ["Result.Groups", "Images.Items"] (mergeStatement sharedImages.merge) := by
  obtain ⟨hiff, hmerge⟩ := exists_method_iff_renderable (d := sharedImages) {} rfl
  have hpath : sharedImages.accessPath = ["Result.Groups", "Images.Items"] := by decide
  exact ⟨rfl, hiff.1 ⟨_, method_sharedImages⟩, hpath ▸ (hmerge _ method_sharedImages).2.1⟩

/-! ### Agreement with the check of a list -/

/-- A path that has been checked for a body is not malformed. -/
theorem BodyOk.isMalformedPath (h : BodyOk d.plan) (hpath : d.attributePath = some path) :
    isMalformedPath path = false := by
  have haccess : d.accessPath = Descriptor.segments path := Descriptor.accessPath_of_eq_some hpath
  rw [← Bool.not_eq_true, isMalformedPath_iff, Decidable.not_not, ← haccess]
  constructor
  · cases hc : d.collectsElements with
    | true => exact .inr (segmentCountFault?_plan_eq_none_iff.1 h.segmentCount hc)
    | false => exact .inl (by rw [Descriptor.accessPath_eq_singleton hc, List.length_singleton])
  · intro segment hsegment
    exact Go.blank_of_isSelector (h.segments segment hsegment)

/-- A path is reported exactly if the access path does not have one or two segments that are all not
blank; and where a body is written, neither the entity nor the path is reported. -/
theorem malformedPath_iff_accessPath (c : Config) (d : Descriptor) (index : Nat) :
    (∀ path, d.attributePath = some path →
      ((∃ entity p, .malformedAttributePath entity p ∈ d.issues index) ↔
        ¬ ((d.accessPath.length = 1 ∨ d.accessPath.length = 2) ∧
          ∀ segment ∈ d.accessPath, blank segment = false))) ∧
    ∀ body, method c d.plan = .ok (some body) →
      (∀ i, .emptyEntity i ∉ d.issues index) ∧
        ∀ entity p, .malformedAttributePath entity p ∉ d.issues index := by
  constructor
  · intro path hpath
    rw [Descriptor.accessPath_of_eq_some hpath, ← isMalformedPath_iff]
    simp [mem_issues_iff, hpath]
  · intro body hmethod
    obtain ⟨-, hbody, -⟩ := method_eq_ok_some_iff.1 hmethod
    have hentity : blank d.entity = false := hbody.entity
    refine ⟨fun i hi => ?_, fun entity p hp => ?_⟩
    · simp [mem_issues_iff, hentity] at hi
    · simp only [mem_issues_iff, reduceCtorEq, and_false, false_or, or_false] at hp
      obtain ⟨path, hpath, hmalformed, -⟩ := hp
      rw [hbody.isMalformedPath hpath] at hmalformed
      cases hmalformed

/-- The second segment of the path is a no-break space. -/
def blankInnerSegment : Descriptor :=
  { entity := "Instances", service := "ec2", callPrefix := "Describe",
    attributePath := some "Reservations#\u00a0" }

/-- The path with the blank segment is reported and has no body; the one of two chains has a body
and is not reported. -/
theorem malformedPath_blankInnerSegment :
    (∃ entity p, .malformedAttributePath entity p ∈ blankInnerSegment.issues 0) ∧
      (∀ body, method {} blankInnerSegment.plan ≠ .ok (some body)) ∧
      method {} sharedImages.plan = .ok (some (methodText {} sharedImages.plan)) ∧
      (∀ i, .emptyEntity i ∉ sharedImages.issues 0) ∧
      ∀ entity p, .malformedAttributePath entity p ∉ sharedImages.issues 0 := by
  have hblank := malformedPath_iff_accessPath {} blankInnerSegment 0
  have hreported := (hblank.1 "Reservations#\u00a0" rfl).2 (by decide)
  refine ⟨hreported, fun body hbody => ?_, method_sharedImages, ?_⟩
  · obtain ⟨entity, p, hp⟩ := hreported
    exact (hblank.2 body hbody).2 entity p hp
  · exact (malformedPath_iff_accessPath {} sharedImages 0).2 _ method_sharedImages

end Source

end CloudAccessors
