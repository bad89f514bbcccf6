import CloudAccessors.Proofs.Comments
import CloudAccessors.Proofs.Lines
import CloudAccessors.Proofs.Outcome

/-!
# The lines that open a method

`openings` lists the lines of a source that open a method. Every piece of a file is followed by
`Leaves`: the header, the declarations and all parts of a body but the accumulator begin and end at
the left margin and have no line that begins with `f`, because no checked value has a line feed. So
the openings of a file are those of its bodies (`openings_fileText`), and each body has its own and
those that a line break in the result type makes (`openings_bodyText_append`). The result type is
the one text of a body that no check looks at: `openings_accumulator_eq_nil_iff` says when it does
no harm.
-/

namespace CloudAccessors.Source

open Text

/-! ### Where a piece leaves off -/

/-- `s`, begun at the left margin or inside a line as `a` says, leaves off as `b` says and has no
line that begins with `f`. -/
def Leaves (a : Bool) (s : String) (b : Bool) : Prop := margin? 'f' a s.toList = some b

namespace Leaves

variable {a b e : Bool} {s t : String}

theorem append (hs : Leaves a s b) (ht : Leaves b t e) : Leaves a (s ++ t) e := by
  unfold Leaves at *
  rw [String.toList_append, margin?_append, hs]
  exact ht

/-- A text that leaves off inside a line, and what goes on there. -/
theorem within (hs : Leaves a s false) (ht : Leaves false t e) : Leaves a (s ++ t) e := hs.append ht

/-- A text that ends its line, and the next ones. -/
theorem ended (hs : Leaves a s true) (ht : Leaves true t e) : Leaves a (s ++ t) e := hs.append ht

/-- A text without a line feed stays inside its line. -/
theorem line (hs : '\n' ∉ s.toList) (ht : Leaves false t e) : Leaves false (s ++ t) e :=
  within (margin?_of_not_mem hs) ht

theorem join {ss : List String} (h : ∀ s ∈ ss, Leaves true s true) :
    Leaves true (String.join ss) true := by
  rw [Leaves, String.toList_join]
  exact margin?_flatMap h

theorem comment {indent : String} (hi : Leaves true indent b) (text : String) :
    Leaves true (Go.comment indent text) true := by
  rw [Leaves, Go.comment, Go.commentText, String.toList_ofList]
  refine margin?_flatMap fun line hline => ?_
  have hnot := Go.not_mem_commentLine (Go.not_mem_of_mem_documentationLines hline)
  obtain ⟨rest, heq⟩ := Go.exists_commentLine_eq line
  rw [heq] at hnot ⊢
  have hrest : margin? 'f' false ('/' :: rest) = some false :=
    margin?_of_not_mem fun h => hnot (List.mem_cons_of_mem _ h)
  rw [margin?_append, margin?_append, hi, Option.bind_some]
  -- the marker is no line feed and no `f`, so that it leaves the margin
  have hmarker : margin? 'f' b ('/' :: '/' :: rest) = some false := by
    rw [margin?, if_neg (by decide), if_neg (by simp), hrest]
  rw [hmarker]
  rfl

end Leaves

/-! ### The pieces of a file -/

variable {c : Config} {d : Descriptor} {p : Plan}

theorem leaves_tab (a : Bool) : Leaves a "\t" false := by cases a <;> rfl

theorem leaves_tabs (a : Bool) : Leaves a "\t\t" false := by cases a <;> rfl

theorem leaves_fileHeader (h : c.fault? = none) : Leaves true (fileHeader c) true := by
  obtain ⟨hpackage, hinterface, -, -, hg⟩ := Config.fault?_eq_none_iff.1 h
  have hp := Go.newline_not_mem_of_isIdentifier hpackage
  have hi := Go.newline_not_mem_of_isIdentifier hinterface
  have hempty : Leaves true "" true := rfl
  have haccessors : Leaves true ("\n".intercalate (fixedAccessors.map FixedAccessor.declaration))
      true := by
    unfold Leaves
    decide +kernel
  unfold fileHeader preambleText interfaceHeader interfaceOpening
  simp only [String.append_assoc]
  exact .within rfl <| .line hg <| .within rfl <| .line hp <| .ended rfl <| .ended rfl <|
    .within rfl <| .line hi <| .ended rfl <| .ended (hempty.comment contract) <|
    .within rfl <| .line hi <| .ended rfl haccessors

theorem leaves_declaration (h : DeclarationOk p) : Leaves true (declaration p) true := by
  have hcomment := (leaves_tab true).comment p.documentation
  unfold declaration
  simp only [String.append_assoc]
  exact .ended rfl <| .ended hcomment <| .within rfl <| .line h.line rfl

theorem leaves_inputAllocation {indent inputType : String} (hi : ∀ a, Leaves a indent false)
    (ht : '\n' ∉ inputType.toList) : Leaves true (inputAllocation indent inputType) true := by
  unfold inputAllocation
  simp only [String.append_assoc]
  exact .within (hi true) <| .ended rfl <|
    .within (hi true) <| .within rfl <| .line ht <| .ended rfl <|
    .within (hi true) rfl

/-! ### The pieces of a body -/

/-- What stands in a body between its opening and its accumulator. -/
def beforeAccumulator (p : Plan) : String :=
  (p.ownerFilter.map (ownerRestriction p.inputType)).getD "" ++ clientCreation p.service

/-- What stands in a body behind its accumulator. -/
def afterAccumulator (p : Plan) : String :=
  "\n" ++ "\thasMorePages := true\n" ++ "\tfor hasMorePages \x7b\n" ++
  pageRequest p.service p.call ++ continuation p.inputType p.pagination ++ "\n" ++
  mergeStatement p.merge ++ "\t\x7d\n\n" ++ "\treturn opt, nil\n" ++ "\x7d\n"

theorem methodText_eq (c : Config) (p : Plan) :
    methodText c p = methodHeader c p ++ (beforeAccumulator p ++
      (accumulator p.shape p.outputType ++ afterAccumulator p)) := by
  unfold methodText beforeAccumulator afterAccumulator
  simp only [String.append_assoc]

theorem leaves_clientCreation (h : BodyOk p) : Leaves true (clientCreation p.service) true := by
  have hs := Go.newline_not_mem_of_isIdentifier h.service
  unfold clientCreation
  simp only [String.append_assoc]
  exact .within rfl <| .line hs <| .ended rfl <|
    .within rfl <| .line hs <| .within rfl <| .line hs rfl

theorem leaves_ownerRestriction (h : BodyOk p) {field : String} (hf : p.ownerFilter = some field) :
    Leaves true (ownerRestriction p.inputType field) true := by
  have hfield := Go.newline_not_mem_of_isSelector (h.ownerFilter field hf)
  have hinput := leaves_inputAllocation leaves_tab (Go.newline_not_mem_of_isSelector h.inputType)
  unfold ownerRestriction
  simp only [String.append_assoc]
  exact .ended hinput <| .within rfl <| .line hfield <| .within rfl <| .line hfield rfl

theorem leaves_beforeAccumulator (h : BodyOk p) : Leaves true (beforeAccumulator p) true := by
  refine .ended ?_ (leaves_clientCreation h)
  cases hf : p.ownerFilter with
  | none => rfl
  | some field => exact leaves_ownerRestriction h hf

theorem leaves_pageRequest (h : BodyOk p) : Leaves true (pageRequest p.service p.call) true := by
  have hs := Go.newline_not_mem_of_isIdentifier h.service
  have hc := Go.newline_not_mem_of_isIdentifier h.call
  unfold pageRequest
  simp only [String.append_assoc]
  exact .within rfl <| .line hs <| .within rfl <| .line hc rfl

theorem leaves_continuation (h : BodyOk p) :
    Leaves true (continuation p.inputType p.pagination) true := by
  cases ht : p.pagination with
  | none =>
    show Leaves true "\t\thasMorePages = false\n" true
    rfl
  | some t =>
    obtain ⟨hout, hin⟩ := h.tokens t ht
    have hout := Go.newline_not_mem_of_isSelector hout
    have hin := Go.newline_not_mem_of_isSelector hin
    have hinput := leaves_inputAllocation leaves_tabs (Go.newline_not_mem_of_isSelector h.inputType)
    unfold continuation
    simp only [String.append_assoc]
    exact .ended hinput <| .within rfl <| .line hin <| .within rfl <| .line hout <|
      .ended rfl <| .within rfl <| .line hout rfl

theorem leaves_mergeStatement {merge : Merge} (h : ∀ field ∈ merge.fields, '\n' ∉ field.toList) :
    Leaves true (mergeStatement merge) true := by
  cases merge with
  | flatten outer inner =>
    have ho := h outer (by simp [Merge.fields])
    have hi := h inner (by simp [Merge.fields])
    unfold mergeStatement
    simp only [String.append_assoc]
    exact .within rfl <| .line ho <| .ended rfl <| .within rfl <| .line hi rfl
  | assign field | append field =>
    have hf := h field (by simp [Merge.fields])
    unfold mergeStatement
    simp only [String.append_assoc]
    exact .within rfl <| .line hf rfl

theorem leaves_afterAccumulator (h : BodyOk d.plan) :
    Leaves true (afterAccumulator d.plan) true := by
  have hmerge : Leaves true (mergeStatement d.plan.merge) true :=
    leaves_mergeStatement fun field hfield =>
      Go.newline_not_mem_of_isSelector (h.segments field (h.mem_accessPath hfield))
  unfold afterAccumulator
  simp only [String.append_assoc]
  exact .ended rfl <| .ended rfl <| .ended rfl <|
    .ended (leaves_pageRequest h) <| .ended (leaves_continuation h) <| .ended rfl <|
    .ended hmerge rfl

/-! ### The openings of a source -/

/-- How a method begins. -/
def opening : String := "func (c *"

/-- The lines of a source that open a method. -/
def openings (src : String) : List String :=
  (linesWith opening.toList src.toList).map String.ofList

theorem openings_append_of_leaves {s : String} (h : Leaves true s true) (t : String) :
    openings (s ++ t) = openings t := by
  rw [openings, String.toList_append]
  exact congrArg _ (linesWith_append h)

theorem openings_append_newline (s t : String) :
    openings (s ++ "\n" ++ t) = openings (s ++ "\n") ++ openings t := by
  have hs : (s ++ "\n" ++ t).toList = s.toList ++ '\n' :: t.toList := by simp
  have ht : (s ++ "\n").toList = s.toList ++ ['\n'] := by simp
  rw [openings, hs, linesWith_append_newline, List.map_append, ← ht]
  rfl

/-! ### The opening of a body -/

/-- The line that opens the method of a descriptor. -/
def openingLine (c : Config) (d : Descriptor) : String :=
  "func (c *" ++ c.receiver ++ ") " ++ trimmed d.signatureOrDefault ++ " \x7b"

theorem methodHeader_eq (c : Config) (d : Descriptor) :
    methodHeader c d.plan = openingLine c d ++ "\n" := by
  have hbrace : " \x7b\n" = " \x7b" ++ "\n" := rfl
  have hsignature : d.plan.signature = d.signatureOrDefault := rfl
  rw [openingLine, methodHeader, hbrace, hsignature]
  simp only [String.append_assoc]

theorem openings_openingLine_append (hc : c.fault? = none) (hd : DeclarationOk d.plan)
    (t : String) :
    openings (openingLine c d ++ "\n" ++ t) = openingLine c d :: openings t := by
  have hreceiver : '\n' ∉ c.receiver.toList :=
    Go.newline_not_mem_of_isIdentifier (Config.fault?_eq_none_iff.1 hc).2.2.1
  have hsignature : '\n' ∉ (trimmed d.signatureOrDefault).toList := hd.line
  have hnot : '\n' ∉ (openingLine c d).toList := by
    simp [openingLine, hreceiver, hsignature]
  have hlast : (openingLine c d).toList.getLast? ≠ some '\r' := by
    have hbrace : " \x7b".toList.getLast? = some '\x7b' := rfl
    rw [openingLine, String.toList_append, List.getLast?_append, hbrace, Option.some_or]
    simp
  have hprefix : opening.toList.isPrefixOf (openingLine c d).toList := by
    rw [List.isPrefixOf_iff_prefix]
    simp only [openingLine, String.toList_append, List.append_assoc]
    exact List.prefix_append _ _
  have htext : (openingLine c d ++ "\n" ++ t).toList =
      (openingLine c d).toList ++ '\n' :: t.toList := by simp
  rw [openings, htext, linesWith, lines_line_append hnot hlast, List.filter_cons_of_pos hprefix,
    List.map_cons, String.ofList_toList]
  rfl

/-! ### The openings of a file -/

/-- A declared accumulator ends its line, so that it has openings of its own. -/
theorem openings_accumulator_append (shape : Shape) (outputType t : String) :
    openings (accumulator shape outputType ++ t) =
      openings (accumulator shape outputType) ++ openings t := by
  obtain ⟨s, hs⟩ : ∃ s, accumulator shape outputType = s ++ "\n" := by
    cases shape with
    | single => exact ⟨_, rfl⟩
    | map => exact ⟨"\topt := make(" ++ outputType ++ ")", by rw [String.append_assoc]; rfl⟩
    | sequence => exact ⟨"\topt := make(" ++ outputType ++ ", 0)", by rw [String.append_assoc]; rfl⟩
  rw [hs, openings_append_newline]

/-- The openings that the body of a descriptor adds to a file. -/
def bodyOpenings (c : Config) (d : Descriptor) : List String :=
  if d.handWritten then [] else openingLine c d :: openings (accumulator d.shape d.outputType)

theorem openings_bodyText_append (hc : c.fault? = none) (hd : DeclarationOk d.plan)
    (hb : d.handWritten = false → BodyOk d.plan) (t : String) :
    openings (bodyText c d ++ t) = bodyOpenings c d ++ openings t := by
  unfold bodyText bodyOpenings
  cases hw : d.handWritten with
  | true => simp
  | false =>
    have hbody := hb hw
    have hfeed : Leaves true "\n" true := rfl
    simp only [Bool.false_eq_true, if_false]
    rw [methodText_eq, methodHeader_eq, String.append_assoc, openings_append_of_leaves hfeed,
      String.append_assoc, openings_openingLine_append hc hd, String.append_assoc,
      openings_append_of_leaves (leaves_beforeAccumulator hbody), String.append_assoc]
    show _ :: openings (accumulator d.shape d.outputType ++ _) = _
    rw [openings_accumulator_append, openings_append_of_leaves (leaves_afterAccumulator hbody)]
    rfl

theorem openings_fileText {ds : List Descriptor} (h : firstFailure? c ds = none) :
    openings (fileText c ds) = ds.flatMap (bodyOpenings c) := by
  obtain ⟨hc, hds⟩ := firstFailure?_eq_none_iff.1 h
  have hdeclarations : Leaves true (declarations ds) true := by
    refine .join fun s hs => ?_
    obtain ⟨d, hd, rfl⟩ := List.mem_map.1 hs
    exact leaves_declaration (hds d hd).1
  have hbrace : Leaves true "\x7d\n" true := rfl
  have hhead := ((leaves_fileHeader hc).append hdeclarations).append hbrace
  rw [fileText, openings_append_of_leaves hhead, bodies]
  clear h hdeclarations hhead
  induction ds with
  | nil => rfl
  | cons d ds ih =>
    obtain ⟨hd, hb⟩ := hds d (by simp)
    rw [List.map_cons, String.join_cons, openings_bodyText_append hc hd hb,
      ih fun e he => hds e (by simp [he])]
    rfl

/-! ### When the result type does no harm -/

/-- Between a first part without a line feed and a last part without an asterisk, only what is
framed can open a method. -/
theorem openings_framed_eq_nil_iff {front text back : String}
    (hstart : front.toList.head? = some '\t')
    (hfront : '\n' ∉ front.toList) (hback : '*' ∉ back.toList) :
    openings (front ++ text ++ back) = [] ↔ ¬ "\nfunc (c *".toList <:+: text.toList := by
  have hno : ¬ opening.toList <+: (front ++ text ++ back).toList := by
    rw [String.append_assoc, String.toList_append]
    cases hf : front.toList with
    | nil => rw [hf] at hstart; cases hstart
    | cons e rest =>
      rw [hf] at hstart
      cases hstart
      intro h
      exact absurd (List.cons_prefix_cons.1 h).1 (by decide)
  rw [openings, List.map_eq_nil_iff, linesWith_eq_nil_iff (by decide) (by decide) (by decide)]
  simp only [hno, not_false_eq_true, true_and]
  rw [String.toList_append, String.toList_append, List.append_assoc, infix_append_left_iff hfront]
  exact not_congr (infix_append_right_iff (p := "\nfunc (c ".toList) hback)

theorem openings_accumulator_eq_nil_iff {shape : Shape} {outputType : String} :
    openings (accumulator shape outputType) = [] ↔
      ¬ "\nfunc (c *".toList <:+: outputType.toList := by
  cases shape with
  | single => exact openings_framed_eq_nil_iff rfl (by decide) (by decide)
  | map =>
    show openings ("\topt := make(" ++ outputType ++ ")\n") = [] ↔ _
    exact openings_framed_eq_nil_iff rfl (by decide) (by decide)
  | sequence =>
    show openings ("\topt := make(" ++ outputType ++ ", 0)\n") = [] ↔ _
    exact openings_framed_eq_nil_iff rfl (by decide) (by decide)

/-- A derived signature has the result type in it, so that the type is on one line. -/
theorem newline_not_mem_outputType (hd : DeclarationOk d.plan) (h : d.signature = none) :
    '\n' ∉ d.outputType.toList := by
  intro hmem
  refine hd.line ?_
  show '\n' ∈ (trimmed d.signatureOrDefault).toList
  -- the type stands between the parenthesis that opens the results and the comma behind it
  have htext : d.signatureOrDefault.toList =
      (d.methodNameOrDefault ++ "(ctx context.Context, input *" ++ d.inputType ++ ") ").toList ++
        '(' :: (d.outputType.toList ++ ',' :: " error)".toList) := by
    have hopen : ") (" = ") " ++ "(" := rfl
    have hclose : ", error)".toList = ',' :: " error)".toList := rfl
    have hparen : "(".toList = ['('] := rfl
    rw [Descriptor.signatureOrDefault, h, Option.getD_none, hopen]
    simp only [String.toList_append, hclose, hparen, List.append_assoc, List.cons_append,
      List.nil_append]
  rw [trimmed, String.toList_ofList, htext]
  exact mem_trim_of_framed (by decide) (by decide) hmem

/-! ### Exactly the asked-for methods -/

/-- A list of runs that each begin with their own head is the list of heads only if no run goes
on. -/
theorem flatMap_cons_eq_map_iff {α β : Type} {f : α → β} {g : α → List β} {xs : List α} :
    xs.flatMap (fun x => f x :: g x) = xs.map f ↔ ∀ x ∈ xs, g x = [] := by
  constructor
  · intro h
    -- each run has its head, so that a longer run makes the whole list too long
    have hlength : (xs.flatMap fun x => f x :: g x).length = xs.length := by
      rw [h, List.length_map]
    clear h
    have hle : ∀ ys : List α, ys.length ≤ (ys.flatMap fun x => f x :: g x).length := by
      intro ys
      induction ys with
      | nil => simp
      | cons y ys ih => simp only [List.flatMap_cons, List.length_append, List.length_cons]; omega
    induction xs with
    | nil => simp
    | cons x xs ih =>
      simp only [List.flatMap_cons, List.length_append, List.length_cons] at hlength
      have hxs := hle xs
      have hx : (g x).length = 0 := by omega
      simp only [List.mem_cons, forall_eq_or_imp]
      exact ⟨List.length_eq_zero_iff.1 hx, ih (by omega)⟩
  · intro h
    induction xs with
    | nil => rfl
    | cons x xs ih =>
      simp only [List.mem_cons, forall_eq_or_imp] at h
      rw [List.flatMap_cons, h.1, ih h.2]
      rfl

theorem flatMap_bodyOpenings (c : Config) (ds : List Descriptor) :
    ds.flatMap (bodyOpenings c) =
      (ds.filter (!·.handWritten)).flatMap fun d =>
        openingLine c d :: openings (accumulator d.shape d.outputType) := by
  induction ds with
  | nil => rfl
  | cons d ds ih =>
    rw [List.flatMap_cons, ih, bodyOpenings]
    cases hw : d.handWritten <;> simp [hw]

/-- A source has the methods that were asked for and no others, exactly if no result type of a
generated body brings an opening of its own. A derived signature keeps its result type from it. -/
theorem openings_generate_iff {c : Config} {ds : List Descriptor} {src : String}
    (h : generate c ds = .ok src) :
    (openings src = (ds.filter (!·.handWritten)).map (openingLine c) ↔
      ∀ d ∈ ds, d.handWritten = false → ¬ "\nfunc (c *".toList <:+: d.outputType.toList) ∧
    ∀ d ∈ ds, d.signature = none → '\n' ∉ d.outputType.toList := by
  obtain ⟨hnone, rfl⟩ := generate_eq_ok_iff.1 h
  constructor
  · rw [openings_fileText hnone, flatMap_bodyOpenings, flatMap_cons_eq_map_iff]
    simp only [List.mem_filter, Bool.not_eq_true', and_imp, openings_accumulator_eq_nil_iff]
  · intro d hd hderived
    exact newline_not_mem_outputType ((firstFailure?_eq_none_iff.1 hnone).2 d hd).1 hderived

/-- One body is generated and one is written by hand. -/
def generatedAndHandWritten : List Descriptor :=
  [{ entity := "Vpcs", service := "ec2", callPrefix := "Describe", singular := some "Vpc" },
    { entity := "Tags", service := "s3", signature := some " GetTags() ", handWritten := true }]

theorem openings_generatedAndHandWritten :
    generate {} generatedAndHandWritten = .ok (fileText {} generatedAndHandWritten) ∧
      openings (fileText {} generatedAndHandWritten) =
        ["func (c *connector) GetVpcs(ctx context.Context, input *ec2.DescribeVpcsInput) " ++
          "([]*ec2.Vpc, error) \x7b"] := by
  have hrun : generate {} generatedAndHandWritten = .ok (fileText {} generatedAndHandWritten) :=
    generate_eq_ok_iff.2 ⟨by decide +kernel, rfl⟩
  have hopenings := (openings_generate_iff hrun).1.2 (by decide +kernel)
  exact ⟨hrun, hopenings.trans (by decide +kernel)⟩

/-- The result type goes on behind a line break, as no other text of a body may. -/
def brokenType : Descriptor where
  entity := "Vpcs"
  service := "ec2"
  callPrefix := "Describe"
  signature := some "GetVpcs()"
  elementType := some "T\nfunc (c *connector) GetMore() \x7b"

/-- The method behind the line break is generated, although nobody asked for it. -/
theorem openings_ne_of_brokenType :
    ¬ ∀ (c : Config) (ds : List Descriptor) (src : String), generate c ds = .ok src →
      openings src = (ds.filter (!·.handWritten)).map (openingLine c) := by
  intro hall
  have hnone : firstFailure? {} [brokenType] = none := by decide +kernel
  have hopenings := hall {} [brokenType] _ (generate_eq_ok_iff.2 ⟨hnone, rfl⟩)
  rw [openings_fileText hnone] at hopenings
  exact absurd hopenings (by decide +kernel)

end CloudAccessors.Source
