import CloudAccessors.CommandLine.Run
import CloudAccessors.Proofs.DerivedNames
import CloudAccessors.Proofs.Trim
import Mathlib.Tactic.MkIffOfInductiveProp

/-!
# Runs over the catalog

Whether source is generated depends on the configuration and on the descriptors. Of a descriptor it
is enough to look at its own fields (`Writable`): the names, types and signatures that are derived
from them are then as they have to be (`Writable.declarationOk`, `Writable.bodyOk`). All descriptors
of the catalog are of this kind (`writable_of_mem_aws`) and have no issue, and so the names that are
given to a run are all that can make it fail.
-/

namespace CloudAccessors

open Text (blank trimmed)

/-! ### Descriptors that can be written -/

/-- A descriptor whose own fields are names, or at least on one line where they are written as they
are. -/
@[mk_iff]
structure Descriptor.Writable (d : Descriptor) : Prop where
  entity : Go.isIdentifierText d.entity.toList
  service : Go.isIdentifierText d.service.toList
  call : Go.isIdentifierText (d.callPrefix.toList ++ (d.callName.getD d.entity).toList)
  methodName : ∀ name ∈ d.methodName, '\n' ∉ name.toList
  singular : ∀ name ∈ d.singular, '\n' ∉ name.toList
  elementType : ∀ type ∈ d.elementType, '\n' ∉ type.toList
  signature : ∀ text ∈ d.signature, blank text = false ∧ '\n' ∉ text.toList
  ownerField : ∀ field ∈ d.ownerField, Go.isSelector field
  attributePath : ∀ path ∈ d.attributePath,
    let segments := path.toList.splitOn Descriptor.pathSeparator
    segments.length ≤ 2 ∧ ∀ segment ∈ segments, Go.isSelectorText segment
  tokenField : ∀ field ∈ d.tokenField, Go.isSelector field
  inputTokenField : ∀ field ∈ d.inputTokenField, Go.isSelector field

instance : DecidablePred Descriptor.Writable := fun d =>
  decidable_of_iff' _ (Descriptor.writable_iff d)

namespace Noun

theorem newline_not_mem_singularize {s : String} (h : '\n' ∉ s.toList) :
    '\n' ∉ (singularize s).toList := fun hmem => by
  rw [singularize, String.toList_ofList] at hmem
  rcases mem_singularName hmem with hmem | hlower
  · exact h hmem
  · exact absurd hlower (by decide)

end Noun

namespace Descriptor.Writable

variable {d : Descriptor} (h : d.Writable)
include h

/-! ### What is derived from writable fields -/

theorem newline_not_mem_entity : '\n' ∉ d.entity.toList :=
  Go.newline_not_mem_of_isIdentifier h.entity

theorem blank_entity : blank d.entity = false := Go.blank_of_isIdentifier h.entity

theorem isIdentifier_call : Go.isIdentifier d.call := by
  show Go.isIdentifierText (d.callPrefix ++ d.callName.getD d.entity).toList
  rw [String.toList_append]
  exact h.call

theorem isSelector_inputType : Go.isSelector d.inputType :=
  Source.isSelector_inputType h.service h.isIdentifier_call

theorem newline_not_mem_methodName : '\n' ∉ d.methodNameOrDefault.toList := by
  rw [methodNameOrDefault]
  cases hname : d.methodName with
  | some name => exact h.methodName name hname
  | none =>
    rw [Option.getD_none, String.toList_append, List.mem_append, not_or]
    refine ⟨?_, h.newline_not_mem_entity⟩
    split <;> decide

theorem newline_not_mem_elementType : '\n' ∉ d.elementTypeOrDefault.toList := by
  have hsingular : '\n' ∉ d.singularOrDefault.toList := by
    rw [singularOrDefault]
    cases hname : d.singular with
    | some name => exact h.singular name hname
    | none => exact Noun.newline_not_mem_singularize h.newline_not_mem_entity
  rw [elementTypeOrDefault]
  cases htype : d.elementType with
  | some type => exact h.elementType type htype
  | none =>
    simp [hsingular, Go.newline_not_mem_of_isIdentifier h.service]

theorem signatureOrDefault_ok :
    blank d.signatureOrDefault = false ∧ '\n' ∉ d.signatureOrDefault.toList := by
  cases htext : d.signature with
  | some text =>
    rw [signatureOrDefault, htext]
    exact h.signature text htext
  | none =>
    exact signatureOrDefault_of_none htext h.newline_not_mem_methodName
      (Go.newline_not_mem_of_isSelector h.isSelector_inputType) h.newline_not_mem_elementType

theorem isSelector_segment (segment : String) (hmem : segment ∈ d.accessPath) :
    Go.isSelector segment := by
  rw [accessPath] at hmem
  cases hpath : d.attributePath with
  | none =>
    rw [hpath] at hmem
    rw [List.mem_singleton.1 hmem]
    exact Go.isSelectorText_of_isIdentifierText h.entity
  | some path =>
    rw [hpath] at hmem
    obtain ⟨cs, hcs, rfl⟩ := List.mem_map.1 hmem
    rw [Go.isSelector, String.toList_ofList]
    exact (h.attributePath path hpath).2 cs hcs

theorem length_accessPath (hc : d.collectsElements) : d.accessPath.length = 2 := by
  rw [collectsElements, Option.any_eq_true] at hc
  obtain ⟨path, hpath, hsep⟩ := hc
  have hle := (h.attributePath path hpath).1
  have htwo := two_le_length_segments (List.contains_iff_mem.1 hsep)
  rw [segments, List.length_map] at htwo
  rw [accessPath, hpath, List.length_map]
  omega

theorem segmentCount : Source.segmentCountFault? d.plan = none :=
  Source.segmentCountFault?_plan_eq_none_iff.2 h.length_accessPath

theorem declarationOk : Source.DeclarationOk d.plan where
  entity := h.blank_entity
  signature := h.signatureOrDefault_ok.1
  line := by
    rw [trimmed, String.toList_ofList]
    exact Text.not_mem_trim h.signatureOrDefault_ok.2

theorem bodyOk : Source.BodyOk d.plan where
  entity := h.blank_entity
  signature := h.signatureOrDefault_ok.1
  service := h.service
  call := h.isIdentifier_call
  inputType := h.isSelector_inputType
  ownerFilter := h.ownerField
  segmentCount := h.segmentCount
  segments := h.isSelector_segment
  tokens := Source.tokens_pagination_iff.2 <| .inr <| by
    have htoken : Go.isSelector d.outputTokenField := by
      rw [outputTokenField]
      cases hfield : d.tokenField with
      | some field => exact h.tokenField field hfield
      | none => decide
    refine ⟨htoken, ?_⟩
    rw [inputTokenFieldOrDefault]
    cases hfield : d.inputTokenField with
    | some field => exact h.inputTokenField field hfield
    | none => exact htoken

end Descriptor.Writable

/-! ### The catalog -/

theorem writable_of_mem_aws : ∀ d ∈ Catalog.aws, d.Writable := by
  decide +kernel

theorem lint_aws : lint Catalog.aws = [] := by
  decide +kernel

theorem generate_aws (c : Config) :
    Source.generate c Catalog.aws =
      okUnless (c.fault?.map .config) (Source.fileText c Catalog.aws) := by
  have hdecl : Catalog.aws.findSome? (Source.declarationFailure? ·.plan) = none :=
    List.findSome?_eq_none_iff.2 fun d hd =>
      Source.declarationFailure?_eq_none_iff.2 (writable_of_mem_aws d hd).declarationOk
  have hbody : Catalog.aws.findSome? (Source.bodyFailure? ·.plan) = none :=
    List.findSome?_eq_none_iff.2 fun d hd =>
      Source.bodyFailure?_eq_none_iff.2 fun _ => (writable_of_mem_aws d hd).bodyOk
  rw [Source.generate_eq_okUnless, Source.firstFailure?, hdecl, hbody]
  cases c.fault? <;> rfl

/-! ### The names that are given to a run -/

/-- The names of a configuration with their labels, in the order in which they are checked. -/
def Config.names (c : Config) : List (String × String) :=
  [("package", c.package), ("interface", c.interface), ("receiver", c.receiver)]

/-- The first of the names that is no identifier, with its label. -/
def Config.invalidName? (c : Config) : Option (String × String) :=
  c.names.find? fun name => !Go.isIdentifier name.2

theorem Config.fault?_eq_invalidName? {c : Config} (h : generatorFault? c.generator = none) :
    c.fault? = c.invalidName?.map fun name => .identifier name.1 name.2 := by
  rw [fault?, h, invalidName?, names]
  simp only [identifierFault?, List.find?_cons]
  cases Go.isIdentifier c.package <;> cases Go.isIdentifier c.interface <;>
    cases Go.isIdentifier c.receiver <;> rfl

theorem Config.invalidName?_eq_none_iff {c : Config} :
    c.invalidName? = none ↔
      Go.isIdentifier c.package ∧ Go.isIdentifier c.interface ∧ Go.isIdentifier c.receiver := by
  simp [invalidName?, names]

namespace CommandLine

variable {args : List String} {a : Arguments}

theorem Arguments.descriptors_eq (a : Arguments) : a.descriptors = Catalog.aws := by
  rw [descriptors]
  cases a.provider.getD .aws
  rfl

/-- A strict run accepts the catalog, so that no run depends on being strict. -/
theorem Arguments.output_eq (a : Arguments) :
    a.output =
      if a.inspect then .ok (Source.inspect Catalog.aws ++ "\n")
      else Source.generate a.config Catalog.aws := by
  have hcheck : checkAll Catalog.aws = .ok () := by rw [checkAll, lint_aws]; rfl
  rw [output, a.descriptors_eq, hcheck]
  cases a.strict <;> cases a.inspect <;> rfl

theorem Arguments.issueLines_eq (a : Arguments) : a.issueLines = "" := by
  rw [issueLines, a.descriptors_eq, lint_aws, ite_self]
  rfl

theorem Arguments.output_eq_of_not_inspect (h : a.inspect = false) :
    a.output = okUnless
      (a.config.invalidName?.map fun name => Failure.config (.identifier name.1 name.2))
      (Source.fileText a.config Catalog.aws) := by
  have hgenerator : Config.generatorFault? a.config.generator = none := by
    show Config.generatorFault? "reader-gen" = none
    decide
  rw [a.output_eq, h, if_neg Bool.false_ne_true, generate_aws,
    Config.fault?_eq_invalidName? hgenerator, Option.map_map]
  rfl

theorem Arguments.report_of_inspect (h : a.inspect = true) :
    a.report.exitCode = 0 ∧ a.report.stdout = Source.inspect Catalog.aws ++ "\n" := by
  rw [report, a.output_eq, if_pos h]
  exact ⟨rfl, rfl⟩

theorem Arguments.report_of_valid (h : a.inspect = false) (hname : a.config.invalidName? = none) :
    ∃ src, Source.generate a.config Catalog.aws = .ok src ∧
      a.report.exitCode = 0 ∧ a.report.stdout = src := by
  have houtput := output_eq_of_not_inspect h
  rw [hname, Option.map_none] at houtput
  have hgenerate : a.output = Source.generate a.config Catalog.aws := by
    rw [a.output_eq, h, if_neg Bool.false_ne_true]
  rw [report, houtput]
  exact ⟨_, hgenerate.symm.trans houtput, rfl, rfl⟩

theorem Arguments.report_of_invalid (h : a.inspect = false) {label value : String}
    (hname : a.config.invalidName? = some (label, value)) :
    a.report.exitCode = 1 ∧ a.report.stdout = "" ∧ a.report.stderr =
      "Error: " ++ (Failure.config (.identifier label value)).diagnostic ++ "\n" := by
  have houtput := output_eq_of_not_inspect h
  rw [hname, Option.map_some] at houtput
  rw [report, houtput, a.issueLines_eq]
  exact ⟨rfl, rfl, by simp [okUnless]⟩

/-- A run that shows the plans succeeds, whatever the names are. Any other run succeeds with the
source for these names exactly if the three of them are identifiers, and otherwise reports the first
one that is not. -/
theorem run_outcome_of_parse (h : Arguments.parse args = .ok a) :
    let package := a.package.getD "reader"
    let interface := a.interface.getD "Reader"
    let receiver := a.receiver.getD "connector"
    (a.inspect = true →
      (run args).exitCode = 0 ∧ (run args).stdout = Source.inspect Catalog.aws ++ "\n") ∧
    (a.inspect = false →
      ((run args).exitCode = 0 ↔
        Go.isIdentifier package ∧ Go.isIdentifier interface ∧ Go.isIdentifier receiver) ∧
      match [("package", package), ("interface", interface), ("receiver", receiver)].find?
          fun name => !Go.isIdentifier name.2 with
      | none => ∃ src, Source.generate { package, interface, receiver } Catalog.aws = .ok src ∧
          (run args).exitCode = 0 ∧ (run args).stdout = src
      | some (label, value) => (run args).exitCode = 1 ∧ (run args).stdout = "" ∧
          (run args).stderr =
            "Error: " ++ (Failure.config (.identifier label value)).diagnostic ++ "\n") := by
  intro package interface receiver
  have hrun : run args = a.report := by rw [run, h]
  have hconfig : a.config = { package, interface, receiver } := rfl
  rw [hrun]
  refine ⟨Arguments.report_of_inspect, fun hinspect => ?_⟩
  have hvalid : a.config.invalidName? = none ↔
      Go.isIdentifier package ∧ Go.isIdentifier interface ∧ Go.isIdentifier receiver :=
    Config.invalidName?_eq_none_iff
  rw [← hvalid, ← hconfig]
  show _ ∧ match a.config.invalidName? with
    | none => _
    | some (label, value) => _
  cases hname : a.config.invalidName? with
  | none =>
    have hreport := Arguments.report_of_valid hinspect hname
    have hexit : a.report.exitCode = 0 := hreport.elim fun _ hsrc => hsrc.2.1
    exact ⟨by simp [hexit], hreport⟩
  | some name =>
    have hreport := Arguments.report_of_invalid hinspect hname
    exact ⟨by simp [hreport.1], hreport⟩

def namedArgs : List String :=
  ["--package", "awsreader", "--interface", "AWSReader", "--receiver", "awsConnector"]

/-- A name with a space and a keyword. -/
def misnamedArgs : List String := ["--interface", "AWS Reader", "--receiver=type"]

/-- With names of its own a run prints the source for them. Of two names that are refused the first
one is reported, unless only the plans are shown. -/
theorem run_namedArgs_run_misnamedArgs :
    (∃ src, Source.generate ⟨"awsreader", "AWSReader", "awsConnector", "reader-gen"⟩ Catalog.aws =
        .ok src ∧ (run namedArgs).exitCode = 0 ∧ (run namedArgs).stdout = src) ∧
    ((run ("--strict" :: misnamedArgs)).exitCode = 1 ∧
      (run ("--strict" :: misnamedArgs)).stdout = "" ∧
      (run ("--strict" :: misnamedArgs)).stderr =
        "Error: ConfigError(\"interface 'AWS Reader' is not a valid Go identifier\")\n") ∧
    (run ("--inspect" :: misnamedArgs)).exitCode = 0 ∧
    (run ("--inspect" :: misnamedArgs)).stdout = Source.inspect Catalog.aws ++ "\n" := by
  have hnamed : Arguments.parse namedArgs =
      .ok ⟨none, some "awsreader", some "AWSReader", some "awsConnector", false, false, 0⟩ := rfl
  have hmisnamed : Arguments.parse ("--strict" :: misnamedArgs) =
      .ok ⟨none, none, some "AWS Reader", some "type", true, false, 0⟩ := rfl
  have hinspect : Arguments.parse ("--inspect" :: misnamedArgs) =
      .ok ⟨none, none, some "AWS Reader", some "type", false, true, 0⟩ := rfl
  have hvalid : [("package", "awsreader"), ("interface", "AWSReader"),
      ("receiver", "awsConnector")].find? (fun name => !Go.isIdentifier name.2) = none := by
    decide +kernel
  have hinvalid : [("package", "reader"), ("interface", "AWS Reader"), ("receiver", "type")].find?
      (fun name => !Go.isIdentifier name.2) = some ("interface", "AWS Reader") := by decide +kernel
  refine ⟨?_, ?_, (run_outcome_of_parse hinspect).1 rfl⟩
  · have houtcome := ((run_outcome_of_parse hnamed).2 rfl).2
    simp only [Option.getD_some, hvalid] at houtcome
    exact houtcome
  · have houtcome := ((run_outcome_of_parse hmisnamed).2 rfl).2
    simp only [Option.getD_some, Option.getD_none, hinvalid] at houtcome
    exact ⟨houtcome.1, houtcome.2.1, houtcome.2.2.trans (by decide +kernel)⟩

end CommandLine

end CloudAccessors
