import CloudAccessors.Proofs.Comments
import CloudAccessors.Proofs.Outcome
import Mathlib.Data.List.Forall2

/-!
# An interface is read back

The text of an interface is its header, the lines of each declaration and a closing brace
(`toList_interface`). A declaration is an empty line, the lines of its comment and the line of its
signature. None of the last two is empty, since each begins with a tab; so the empty lines take the
text apart into the declarations (`splitOn_flatMap_cons`), and of each declaration the last line is
the signature, whatever it looks like (`interface_eq_iff_declared`).
-/

namespace CloudAccessors

/-! ### Blocks behind a separator -/

section
variable {α β : Type} [DecidableEq β] {sep : β} {g : α → List β} {xs ys : List α} {front : List β}

/-- Blocks without the separator that stands in front of each are read back. -/
theorem splitOn_flatMap_cons (hfront : sep ∉ front) (h : ∀ x ∈ xs, sep ∉ g x) :
    (front ++ xs.flatMap fun x => sep :: g x).splitOn sep = front :: xs.map g := by
  induction xs generalizing front with
  | nil =>
    rw [List.flatMap_nil, List.append_nil, List.splitOn_eq_singleton hfront]
    rfl
  | cons x xs ih =>
    rw [List.flatMap_cons, List.cons_append, List.splitOn_append_cons_self,
      List.splitOn_eq_singleton hfront, ih (h x (by simp)) fun y hy => h y (by simp [hy])]
    rfl

theorem map_eq_of_flatMap_cons_eq (hxs : ∀ x ∈ xs, sep ∉ g x) (hys : ∀ y ∈ ys, sep ∉ g y)
    (h : (xs.flatMap fun x => sep :: g x) = ys.flatMap fun y => sep :: g y) :
    xs.map g = ys.map g := by
  have hx := splitOn_flatMap_cons List.not_mem_nil hxs
  rw [h, splitOn_flatMap_cons List.not_mem_nil hys] at hx
  exact (List.cons.inj hx).2.symm

end

namespace Source

open Text

variable {c : Config} {p q : Plan} {ps qs : List Plan} {s t : String}

/-! ### The lines of a declaration -/

def commentLines (p : Plan) : List (List Char) :=
  (Go.documentationLines p.documentation.toList).map fun line => '\t' :: Go.commentLine line

/-- The lines of a declaration behind the empty one. -/
def declaredLines (p : Plan) : List (List Char) :=
  commentLines p ++ ['\t' :: (trimmed p.signature).toList]

theorem toList_comment (p : Plan) :
    (Go.comment "\t" p.documentation).toList = joinLines (commentLines p) := by
  rw [Go.comment, String.toList_ofList, Go.commentText_eq_joinLines]
  rfl

theorem toList_declaration (p : Plan) :
    (declaration p).toList = joinLines ([] :: declaredLines p) := by
  rw [declaration, declaredLines, ← List.cons_append, joinLines_append, joinLines,
    List.flatMap_cons, ← joinLines]
  simp only [String.toList_append, toList_comment]
  simp [joinLines]

theorem exists_cons_of_mem_declaredLines {line : List Char} (h : line ∈ declaredLines p) :
    ∃ rest, line = '\t' :: rest := by
  rcases List.mem_append.1 h with h | h
  · obtain ⟨l, -, rfl⟩ := List.mem_map.1 h
    exact ⟨_, rfl⟩
  · exact ⟨_, List.mem_singleton.1 h⟩

theorem nil_not_mem_declaredLines (p : Plan) : [] ∉ declaredLines p := fun h => by
  obtain ⟨rest, hrest⟩ := exists_cons_of_mem_declaredLines h
  cases hrest

theorem isLine_of_mem_declaredLines (hp : DeclarationOk p) {line : List Char}
    (h : line ∈ declaredLines p) : IsLine line := by
  rcases List.mem_append.1 h with h | h
  · obtain ⟨l, hl, rfl⟩ := List.mem_map.1 h
    exact (Go.isLine_commentLine (Go.isLine_of_mem_documentationLines hl)).cons (by decide)
      (by decide)
  · rw [List.mem_singleton.1 h]
    have hline := hp.line
    rw [trimmed, String.toList_ofList] at hline ⊢
    exact (Go.isLine_trim hline).cons (by decide) (by decide)

/-! ### The lines of an interface -/

/-- The lines of all declarations, and the closing brace. -/
def bodyLines (ps : List Plan) : List (List Char) :=
  (ps.flatMap fun p => [] :: declaredLines p) ++ [['\x7d']]

def interfaceText (c : Config) (ps : List Plan) : String :=
  interfaceHeader c ++ String.join (ps.map declaration) ++ "\x7d\n"

theorem interface_eq_ok_iff :
    interface c ps = .ok s ↔ (∀ p ∈ ps, DeclarationOk p) ∧ s = interfaceText c ps := by
  rw [interface_eq_okUnless, okUnless_eq_ok_iff, List.findSome?_eq_none_iff]
  simp only [declarationFailure?_eq_none_iff]
  exact and_congr_right fun _ => eq_comm

theorem toList_interface (h : interface c ps = .ok s) :
    s.toList = (interfaceHeader c).toList ++ joinLines (bodyLines ps) := by
  obtain ⟨-, rfl⟩ := interface_eq_ok_iff.1 h
  have hdeclarations (ps : List Plan) : (String.join (ps.map declaration)).toList =
      joinLines (ps.flatMap fun p => [] :: declaredLines p) := by
    induction ps with
    | nil => rfl
    | cons p ps ih =>
      rw [List.map_cons, String.join_cons, String.toList_append, toList_declaration, ih,
        List.flatMap_cons, joinLines_append]
  have hbrace : "\x7d\n".toList = joinLines [['\x7d']] := rfl
  rw [interfaceText, String.toList_append, String.toList_append, hdeclarations, hbrace,
    List.append_assoc, bodyLines, joinLines_append]

theorem isLine_of_mem_bodyLines (h : ∀ p ∈ ps, DeclarationOk p) {line : List Char}
    (hline : line ∈ bodyLines ps) : IsLine line := by
  rcases List.mem_append.1 hline with hline | hline
  · obtain ⟨p, hp, hline⟩ := List.mem_flatMap.1 hline
    rcases List.mem_cons.1 hline with rfl | hline
    · exact .nil
    · exact isLine_of_mem_declaredLines (h p hp) hline
  · rw [List.mem_singleton.1 hline]
    exact IsLine.nil.cons (by decide) (by decide)

/-- The lines of a fixed accessor: its comment and its method. -/
def FixedAccessor.lines (a : FixedAccessor) : List (List Char) :=
  [("\t// " ++ a.name ++ " " ++ a.purpose).toList, ("\t" ++ a.name ++ "() string").toList]

/-- The lines of the fixed accessors, with an empty one between them. -/
def fixedLines : List (List Char) := [[]].intercalate (fixedAccessors.map FixedAccessor.lines)

/-- Behind the line that opens the interface, the header has the lines of the fixed accessors. -/
theorem lines_interfaceHeader_append (c : Config) (rest : List Char) :
    lines ((interfaceHeader c).toList ++ rest) =
      lines (interfaceOpening c).toList ++ (fixedLines ++ lines rest) := by
  have hopening : ∃ front, (interfaceOpening c).toList = front ++ ['\n'] := by
    have hlast : " interface \x7b\n".toList = " interface \x7b".toList ++ ['\n'] := rfl
    rw [interfaceOpening, String.toList_append, hlast, ← List.append_assoc]
    exact ⟨_, rfl⟩
  have hfixed : ("\n".intercalate (fixedAccessors.map FixedAccessor.declaration)).toList =
      joinLines fixedLines := by decide +kernel
  have hlines : ∀ line ∈ fixedLines, IsLine line := by
    have hall : ∀ line ∈ fixedLines, '\n' ∉ line ∧ line.getLast? ≠ some '\r' := by decide +kernel
    exact fun line hline => ⟨(hall line hline).1, (hall line hline).2⟩
  obtain ⟨front, hfront⟩ := hopening
  rw [interfaceHeader, String.toList_append, hfront, hfixed, List.append_assoc, List.append_assoc,
    List.singleton_append, lines_append_newline, lines_joinLines_append hlines]

theorem lines_interface (h : interface c ps = .ok s) :
    lines s.toList = lines (interfaceHeader c).toList ++ bodyLines ps := by
  have hbody : lines (joinLines (bodyLines ps) ++ []) = bodyLines ps ++ lines [] :=
    lines_joinLines_append fun _ => isLine_of_mem_bodyLines (interface_eq_ok_iff.1 h).1
  have hheader := lines_interfaceHeader_append c []
  have hnil : lines [] = [] := by simp [lines]
  rw [List.append_nil, hnil, List.append_nil] at hbody hheader
  rw [toList_interface h, lines_interfaceHeader_append, hheader, hbody, List.append_assoc]

/-! ### What two interfaces have in common -/

/-- Are two plans declared alike? -/
def DeclaredAlike (p q : Plan) : Prop :=
  trimmed p.signature = trimmed q.signature ∧
    Go.comment "\t" p.documentation = Go.comment "\t" q.documentation

theorem declaredAlike_of_declaredLines_eq (h : declaredLines p = declaredLines q) :
    DeclaredAlike p q := by
  rw [declaredLines, declaredLines] at h
  obtain ⟨hcomment, hsignature⟩ := List.append_inj' h (by simp)
  refine ⟨String.toList_inj.1 (List.cons.inj (List.cons.inj hsignature).1).2, ?_⟩
  rw [← String.toList_inj, toList_comment, toList_comment, hcomment]

theorem DeclaredAlike.declaration_eq (h : DeclaredAlike p q) : declaration p = declaration q := by
  rw [declaration, declaration, h.1, h.2]

theorem map_eq_map_iff_forall₂ {α β : Type} {f : α → β} {xs ys : List α} :
    xs.map f = ys.map f ↔ List.Forall₂ (fun x y => f x = f y) xs ys := by
  rw [← List.forall₂_eq_eq_eq, List.forall₂_map_left_iff, List.forall₂_map_right_iff]

/-- The empty lines of an interface are those in front of its declarations. -/
theorem map_declaredLines_eq_of_bodyLines_eq (h : bodyLines ps = bodyLines qs) :
    ps.map declaredLines = qs.map declaredLines :=
  map_eq_of_flatMap_cons_eq (fun p _ => nil_not_mem_declaredLines p)
    (fun q _ => nil_not_mem_declaredLines q) (List.append_cancel_right h)

/-- Plans make the same interface exactly if they are declared alike one by one; and the interface
has behind its header, for each plan, an empty line, lines that are comments and a line with the
signature, and then a closing brace. -/
theorem interface_eq_iff_declared (hp : interface c ps = .ok s) (hq : interface c qs = .ok t) :
    (s = t ↔ List.Forall₂ DeclaredAlike ps qs) ∧
    s.toList = (interfaceHeader c).toList ++ joinLines (bodyLines ps) ∧
    lines s.toList = lines (interfaceHeader c).toList ++ bodyLines ps ∧
    bodyLines ps =
      (ps.flatMap fun p =>
        [] :: (commentLines p ++ ['\t' :: (trimmed p.signature).toList])) ++ [['\x7d']] ∧
    ∀ p ∈ ps, ∀ line ∈ commentLines p, "\t//".toList <+: line := by
  refine ⟨⟨fun hst => ?_, fun hlike => ?_⟩, toList_interface hp, lines_interface hp, rfl,
    fun p _ line hline => ?_⟩
  · have hlines := lines_interface hp
    rw [hst, lines_interface hq] at hlines
    have hbody := (List.append_cancel_left hlines).symm
    have hblocks := map_eq_map_iff_forall₂.1 (map_declaredLines_eq_of_bodyLines_eq hbody)
    exact hblocks.imp fun _ _ => declaredAlike_of_declaredLines_eq
  · have hdeclarations : ps.map declaration = qs.map declaration :=
      map_eq_map_iff_forall₂.2 (hlike.imp fun _ _ => DeclaredAlike.declaration_eq)
    rw [(interface_eq_ok_iff.1 hp).2, (interface_eq_ok_iff.1 hq).2, interfaceText, interfaceText,
      hdeclarations]
  · obtain ⟨l, -, rfl⟩ := List.mem_map.1 hline
    obtain ⟨rest, hrest⟩ := Go.exists_commentLine_eq l
    rw [hrest]
    exact ⟨rest, rfl⟩

/-- A plan with the given documentation and signature. -/
def documentedPlan (documentation signature : String) : Plan :=
  { ({ entity := "Vpcs", service := "ec2" } : Descriptor).plan with documentation, signature }

def untidyPlans : List Plan :=
  [documentedPlan "\na\r\n\r\n//b  \n" " // F() ", documentedPlan " \n" "G()\n"]

def tidyPlans : List Plan :=
  [documentedPlan "  // a\n\n//b" "// F()", documentedPlan "" "G()"]

theorem interface_eq_iff_declared_untidyPlans :
    interface {} untidyPlans = .ok (interfaceText {} untidyPlans) ∧
      interface {} tidyPlans = .ok (interfaceText {} tidyPlans) ∧
      interfaceText {} untidyPlans = interfaceText {} tidyPlans ∧
      List.Forall₂ DeclaredAlike untidyPlans tidyPlans := by
  have huntidy : ∀ p ∈ untidyPlans, declarationFault? p = none := by decide +kernel
  have htidy : ∀ p ∈ tidyPlans, declarationFault? p = none := by decide +kernel
  have hdeclarations : untidyPlans.map declaration = tidyPlans.map declaration := by
    decide +kernel
  have hp : interface {} untidyPlans = .ok (interfaceText {} untidyPlans) :=
    interface_eq_ok_iff.2 ⟨fun p hp => declarationFault?_eq_none_iff.1 (huntidy p hp), rfl⟩
  have hq : interface {} tidyPlans = .ok (interfaceText {} tidyPlans) :=
    interface_eq_ok_iff.2 ⟨fun p hp => declarationFault?_eq_none_iff.1 (htidy p hp), rfl⟩
  have htext : interfaceText {} untidyPlans = interfaceText {} tidyPlans := by
    rw [interfaceText, interfaceText, hdeclarations]
  exact ⟨hp, hq, htext, (interface_eq_iff_declared hp hq).1.1 htext⟩

end Source

end CloudAccessors
