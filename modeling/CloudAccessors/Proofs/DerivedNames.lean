import CloudAccessors.Proofs.Outcome
import CloudAccessors.Proofs.Rewrites

/-!
# Names that are derived

Of the names in the generated source only the service, the call and the fields are checked. The
others are derived from these, and what is derived from a checked name is a name as well: the
characters of the entity are in the call, and an uppercase character in front of them keeps them
from being a keyword (`isIdentifierText_of_isUppercase`). The singular of the entity has no
characters but these and letters, and begins with an uppercase character too
(`isIdentifier_singularize`).
-/

namespace CloudAccessors

open Text (blank)
open Unicode

namespace Go

variable {c : Char} {t : List Char}

theorem head_keyword_not_uppercase :
    ∀ k ∈ keywords, k.toList.head?.all (!isUppercase ·) := by
  decide

theorem isIdentifierText_of_isUppercase (hc : isUppercase c) (ht : ∀ d ∈ t, isIdentifierPart d) :
    isIdentifierText (c :: t) := by
  have hstart : isIdentifierStart c := by
    rw [isIdentifierStart, isAlphabetic_of_isUppercase hc, Bool.true_or]
  have hkeyword : isKeyword (c :: t) = false := by
    rw [isKeyword, List.any_eq_false]
    intro k hk heq
    have hhead := head_keyword_not_uppercase k hk
    rw [of_decide_eq_true heq] at hhead
    simp [hc] at hhead
  rw [isIdentifierText, hstart, List.all_eq_true.2 ht, hkeyword]
  rfl

theorem isIdentifier_of_uppercase_head {s : String} (hs : s.toList.head?.any isUppercase)
    (hparts : ∀ a ∈ s.toList, isIdentifierPart a) : isIdentifier s := by
  rw [isIdentifier]
  cases hlist : s.toList with
  | nil =>
    rw [hlist] at hs
    cases hs
  | cons c t =>
    rw [hlist] at hs hparts
    exact isIdentifierText_of_isUppercase hs fun d hd => hparts d (List.mem_cons_of_mem c hd)

end Go

namespace Noun

open Rewrite

variable {w s : List Char}

theorem isUppercase_head_singularWord (h : w.head?.any isUppercase) (hne : singularWord w ≠ []) :
    (singularWord w).head?.any isUppercase := by
  rcases singularWord_eq_self_or_applied w with heq | ⟨e, he, -, -, heq⟩
  · rw [heq]
    exact h
  rw [heq, applied] at hne ⊢
  cases hkept : w.length - e.ending.length with
  | zero =>
    -- the whole word is written anew, in its casing
    rw [hkept] at hne
    refine isUppercase_head_carryCase h (isPlain_of_mem_rewrites e he).2 ?_
    intro hnil
    rw [hnil, carryCase_nil] at hne
    exact hne rfl
  | succ n =>
    cases w with
    | nil => cases h
    | cons c t => exact h

/-- A name in uppercase at its beginning is so in the singular, if it is not lost with its last
letter. -/
theorem isUppercase_head_singularName (h : s.head?.any isUppercase) (hS : s ≠ "S".toList) :
    (singularName s).head?.any isUppercase := by
  have hne : s ≠ [] := by
    rintro rfl
    cases h
  obtain ⟨p, w, rfl, -, hw, heq⟩ := exists_eq_append_lastWord hne
  rw [heq]
  cases p with
  | cons c p => exact h
  | nil =>
    refine isUppercase_head_singularWord h ?_
    intro hnil
    obtain ⟨c, rfl, hc⟩ :=
      List.map_eq_singleton_iff.1 (lower_eq_of_singularWord_eq_nil hw.ne_nil hnil)
    rcases eq_s_or_eq_S hc with rfl | rfl
    · exact absurd h (by decide)
    · exact hS rfl

theorem isIdentifierPart_of_mem_singularName {c : Char}
    (h : ∀ a ∈ s, Go.isIdentifierPart a) (hc : c ∈ singularName s) : Go.isIdentifierPart c := by
  rcases mem_singularName hc with hc | hc
  · exact h c hc
  · rw [Go.isIdentifierPart, isAlphabetic_of_toLower hc]
    rfl

theorem isIdentifier_singularize {s : String} (hs : s.toList.head?.any isUppercase) (hS : s ≠ "S")
    (hparts : ∀ a ∈ s.toList, Go.isIdentifierPart a) : Go.isIdentifier (singularize s) := by
  refine Go.isIdentifier_of_uppercase_head ?_ ?_
  · rw [toList_singularize]
    exact isUppercase_head_singularName hs (mt String.toList_inj.1 hS)
  · intro a ha
    rw [toList_singularize] at ha
    exact isIdentifierPart_of_mem_singularName hparts ha

/-- The name that is lost with its last letter. -/
example : singularize "S" = "" := by decide +kernel

end Noun

namespace Descriptor

variable {d : Descriptor}

/-- A descriptor whose names, types and signature are all derived. -/
structure DerivesNames (d : Descriptor) : Prop where
  methodName : d.methodName = none
  signature : d.signature = none
  elementType : d.elementType = none
  callName : d.callName = none
  singular : d.singular = none

/-! ### The signature -/

theorem newline_not_mem_outputType (h : '\n' ∉ d.elementTypeOrDefault.toList) :
    '\n' ∉ d.outputType.toList := by
  rw [outputType, String.toList_append, List.mem_append, not_or]
  refine ⟨?_, h⟩
  cases d.shape <;> decide

/-- A derived signature is never blank, and it is on one line if its parts are. -/
theorem signatureOrDefault_of_none (h : d.signature = none)
    (hname : '\n' ∉ d.methodNameOrDefault.toList) (hinput : '\n' ∉ d.inputType.toList)
    (helement : '\n' ∉ d.elementTypeOrDefault.toList) :
    blank d.signatureOrDefault = false ∧ '\n' ∉ d.signatureOrDefault.toList := by
  rw [signatureOrDefault, h, Option.getD_none]
  constructor
  · rw [blank, Text.isBlank, Bool.eq_false_iff, ne_eq, List.all_eq_true]
    exact fun hall => absurd (hall '(' (by simp)) (by decide)
  · simp [hname, hinput, newline_not_mem_outputType helement]

/-! ### The names -/

section
variable (hd : d.DerivesNames) (hupper : d.entity.toList.head?.any isUppercase)
  (hbody : Source.BodyOk d.plan)
include hd hbody

theorem isIdentifierPart_of_mem_entity : ∀ a ∈ d.entity.toList, Go.isIdentifierPart a := by
  intro a ha
  have hcall : d.call = d.callPrefix ++ d.entity := by rw [call, hd.callName, Option.getD_none]
  refine Go.isIdentifierPart_of_mem hbody.call ?_
  show a ∈ d.call.toList
  rw [hcall, String.toList_append]
  exact List.mem_append_right _ ha

theorem isIdentifier_methodNameOrDefault : Go.isIdentifier d.methodNameOrDefault := by
  obtain ⟨verb, hverb, hname⟩ :
      ∃ verb ∈ ["Get", "GetOwn"], d.methodNameOrDefault = verb ++ d.entity := by
    rw [methodNameOrDefault, hd.methodName, Option.getD_none]
    cases d.ownerField.isSome with
    | false => exact ⟨"Get", by simp, rfl⟩
    | true => exact ⟨"GetOwn", by simp, rfl⟩
  have hverbs : ∀ verb ∈ ["Get", "GetOwn"],
      verb.toList.head?.any isUppercase ∧ verb.toList.all Go.isIdentifierPart := by
    decide
  obtain ⟨hhead, hparts⟩ := hverbs verb hverb
  obtain ⟨c, hc, hcupper⟩ := (Option.any_eq_true _ _).1 hhead
  rw [hname]
  refine Go.isIdentifier_of_uppercase_head ?_ ?_
  · rw [String.toList_append, List.head?_append, hc]
    exact hcupper
  · intro a ha
    rw [String.toList_append, List.mem_append] at ha
    rcases ha with ha | ha
    · exact List.all_eq_true.1 hparts a ha
    · exact isIdentifierPart_of_mem_entity hd hbody a ha

include hupper

theorem isSelector_elementTypeOrDefault (hS : d.entity ≠ "S") :
    Go.isSelector d.elementTypeOrDefault := by
  have htype : d.elementTypeOrDefault.toList =
      d.service.toList ++ '.' :: (Noun.singularize d.entity).toList := by
    simp [elementTypeOrDefault, hd.elementType, singularOrDefault, hd.singular]
  have hsingular : Go.isIdentifier (Noun.singularize d.entity) :=
    Noun.isIdentifier_singularize hupper hS (isIdentifierPart_of_mem_entity hd hbody)
  rw [Go.isSelector, htype, Go.isSelectorText_append_dot, Bool.and_eq_true]
  exact ⟨Go.isSelectorText_of_isIdentifierText hbody.service,
    Go.isSelectorText_of_isIdentifierText hsingular⟩

end

end Descriptor

/-- Where a method body is generated, the names that nothing checks are names all the same. -/
theorem Source.derivedNames_of_method {c : Config} {d : Descriptor} {body : String}
    (hd : d.DerivesNames) (hupper : d.entity.toList.head?.any isUppercase) (hS : d.entity ≠ "S")
    (h : method c d.plan = .ok (some body)) :
    Go.isIdentifier d.methodNameOrDefault ∧ Go.isSelector d.inputType ∧
      Go.isSelector d.elementTypeOrDefault ∧ blank d.signatureOrDefault = false ∧
      '\n' ∉ d.signatureOrDefault.toList := by
  obtain ⟨-, hbody, -⟩ := method_eq_ok_some_iff.1 h
  have hname := Descriptor.isIdentifier_methodNameOrDefault hd hbody
  have helement := Descriptor.isSelector_elementTypeOrDefault hd hupper hbody hS
  refine ⟨hname, hbody.inputType, helement, ?_⟩
  exact Descriptor.signatureOrDefault_of_none hd.signature
    (Go.newline_not_mem_of_isIdentifier hname) (Go.newline_not_mem_of_isSelector hbody.inputType)
    (Go.newline_not_mem_of_isSelector helement)

/-- The last word of the entity is an `S`, which is lost in the singular. -/
def ownVpcS : Descriptor where
  entity := "ÉVpcS"
  service := "ec2"
  callPrefix := "describe_"
  ownerField := some "Filters.OwnerIds"
  mapResult := true

theorem Source.derivedNames_ownVpcS :
    method {} ownVpcS.plan = .ok (some (methodText {} ownVpcS.plan)) ∧
      ownVpcS.elementTypeOrDefault = "ec2.ÉVpc" ∧ Go.isSelector "ec2.ÉVpc" ∧
      Go.isIdentifier "GetOwnÉVpcS" := by
  have hmethod : method {} ownVpcS.plan = .ok (some (methodText {} ownVpcS.plan)) :=
    method_eq_ok_some_iff.2 ⟨rfl, bodyFault?_eq_none_iff.1 (by decide +kernel), rfl⟩
  have hnames := Source.derivedNames_of_method ⟨rfl, rfl, rfl, rfl, rfl⟩ (by decide) (by decide)
    hmethod
  have hname : ownVpcS.methodNameOrDefault = "GetOwnÉVpcS" := by decide
  have htype : ownVpcS.elementTypeOrDefault = "ec2.ÉVpc" := by decide +kernel
  rw [hname, htype] at hnames
  exact ⟨hmethod, htype, hnames.2.2.1, hnames.1⟩

end CloudAccessors
