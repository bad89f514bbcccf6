import CloudAccessors.Proofs.Declarations
import CloudAccessors.Proofs.MethodNames

/-!
# The method lines of an interface

The names in `declaredNames` are those that stand in the text of the interface. The line that opens
an interface is the first one that is no comment (`lines_interfaceOpening`). Behind it the fixed
accessors and the methods of the descriptors are blocks of lines, kept apart by empty ones
(`lines_interface_eq_intercalate`), of which each ends with the line of its method. To read off
these lines (`methodLines`) nothing else has to be known of the text.
-/

namespace CloudAccessors.Source

open Text

variable {c : Config} {ps : List Plan} {s : String}

/-! ### The lines in front of the methods -/

/-- The comment in front of the line that opens the interface. -/
def contractLines (c : Config) : List (List Char) :=
  ("// " ++ c.interface ++
      " is the interface defining all methods that need to be implemented").toList ::
    "//".toList :: (Go.documentationLines contract.toList).map Go.commentLine

/-- The line that opens the interface. -/
def typeLine (c : Config) : List Char := ("type " ++ c.interface ++ " interface \x7b").toList

theorem isPrefixOf_of_mem_contractLines {line : List Char} (h : line ∈ contractLines c) :
    "//".toList.isPrefixOf line := by
  rcases List.mem_cons.1 h with rfl | h
  · simp
  rcases List.mem_cons.1 h with rfl | h
  · rfl
  · obtain ⟨l, -, rfl⟩ := List.mem_map.1 h
    exact Go.isPrefixOf_commentLine l

theorem isLine_of_mem_contractLines (hc : '\n' ∉ c.interface.toList) {line : List Char}
    (h : line ∈ contractLines c) : IsLine line := by
  rcases List.mem_cons.1 h with rfl | h
  · refine ⟨by simp [hc], ?_⟩
    rw [String.toList_append, List.getLast?_append]
    simp
  rcases List.mem_cons.1 h with rfl | h
  · exact ⟨by decide, by decide⟩
  · obtain ⟨l, hl, rfl⟩ := List.mem_map.1 h
    exact Go.isLine_commentLine (Go.isLine_of_mem_documentationLines hl)

theorem isLine_typeLine (hc : '\n' ∉ c.interface.toList) : IsLine (typeLine c) := by
  refine ⟨by simp [typeLine, hc], ?_⟩
  rw [typeLine, String.toList_append, List.getLast?_append]
  simp

/-- Two lines, a comment and a line. All texts are variables, so that none of them is evaluated. -/
theorem append_eq_joinLines (comment : List (List Char)) (s t u v w x y : List Char) :
    s ++ t ++ (u ++ '\n' :: (v ++ ['\n'])) ++ joinLines comment ++ w ++ x ++ (y ++ ['\n']) =
      joinLines ((s ++ t ++ u) :: v :: comment ++ [w ++ x ++ y]) := by
  simp [joinLines]

theorem toList_interfaceOpening (c : Config) :
    (interfaceOpening c).toList = joinLines (contractLines c ++ [typeLine c]) := by
  have hfirst : " is the interface defining all methods that need to be implemented\n//\n".toList =
      " is the interface defining all methods that need to be implemented".toList ++
        '\n' :: ("//".toList ++ ['\n']) := by simp
  have hlast : " interface \x7b\n".toList = " interface \x7b".toList ++ ['\n'] := rfl
  have hindent : (fun line => "".toList ++ Go.commentLine line) = Go.commentLine :=
    funext fun line => List.nil_append _
  have hcontract : (Go.comment "" contract).toList =
      joinLines ((Go.documentationLines contract.toList).map Go.commentLine) := by
    rw [Go.comment, String.toList_ofList, Go.commentText_eq_joinLines, hindent]
  rw [interfaceOpening, contractLines, typeLine]
  simp only [String.toList_append, hfirst, hlast, hcontract]
  exact append_eq_joinLines ..

theorem lines_interfaceOpening (hc : '\n' ∉ c.interface.toList) :
    lines (interfaceOpening c).toList = contractLines c ++ [typeLine c] := by
  have hlines : ∀ line ∈ contractLines c ++ [typeLine c], IsLine line := fun line hline => by
    rcases List.mem_append.1 hline with hline | hline
    · exact isLine_of_mem_contractLines hc hline
    · rw [List.mem_singleton.1 hline]
      exact isLine_typeLine hc
  have hjoined : lines (joinLines (contractLines c ++ [typeLine c]) ++ []) = _ :=
    lines_joinLines_append hlines
  rwa [List.append_nil, ← toList_interfaceOpening, lines, List.append_nil] at hjoined

/-! ### The blocks of an interface -/

/-- The lines of the methods, block by block: the fixed accessors and then the plans. -/
def methodBlocks (ps : List Plan) : List (List (List Char)) :=
  fixedAccessors.map FixedAccessor.lines ++ ps.map declaredLines

section
variable {α : Type} {sep : List α} {xs : List (List α)}

theorem intercalate_cons_eq_append_flatMap (x : List α) :
    sep.intercalate (x :: xs) = x ++ xs.flatMap (sep ++ ·) := by
  induction xs generalizing x with
  | nil => simp
  | cons y xs ih =>
    rw [List.intercalate_cons_cons, ih, List.flatMap_cons, List.append_assoc, List.append_assoc]

theorem intercalate_append (h : xs ≠ []) (ys : List (List α)) :
    sep.intercalate (xs ++ ys) = sep.intercalate xs ++ ys.flatMap (sep ++ ·) := by
  obtain ⟨x, xs, rfl⟩ := List.exists_cons_of_ne_nil h
  rw [List.cons_append, intercalate_cons_eq_append_flatMap, intercalate_cons_eq_append_flatMap,
    List.flatMap_append, List.append_assoc]

end

theorem fixedLines_append_bodyLines (ps : List Plan) :
    fixedLines ++ bodyLines ps = [[]].intercalate (methodBlocks ps) ++ [['\x7d']] := by
  have hfixed : fixedAccessors.map FixedAccessor.lines ≠ [] := List.cons_ne_nil _ _
  rw [methodBlocks, intercalate_append hfixed, List.flatMap_map, bodyLines, ← List.append_assoc]
  rfl

/-- Behind its opening, an interface has its blocks with an empty line between them. -/
theorem lines_interface_eq_intercalate (hc : '\n' ∉ c.interface.toList)
    (h : interface c ps = .ok s) :
    lines s.toList = contractLines c ++ typeLine c ::
      ([[]].intercalate (methodBlocks ps) ++ [['\x7d']]) := by
  have hheader := lines_interfaceHeader_append c []
  rw [List.append_nil, lines_interfaceOpening hc, lines, List.append_nil] at hheader
  rw [lines_interface h, hheader, List.append_assoc, fixedLines_append_bodyLines,
    List.append_assoc, List.singleton_append]

theorem nil_not_mem_of_mem_methodBlocks {block : List (List Char)} (h : block ∈ methodBlocks ps) :
    [] ∉ block := by
  rcases List.mem_append.1 h with h | h
  · have hfixed : ∀ a ∈ fixedAccessors, [] ∉ a.lines := by decide
    obtain ⟨a, ha, rfl⟩ := List.mem_map.1 h
    exact hfixed a ha
  · obtain ⟨p, -, rfl⟩ := List.mem_map.1 h
    exact nil_not_mem_declaredLines p

/-! ### Reading the names off -/

/-- The lines of a text that declare the methods of its interface: of the lines between the first
one that is no comment and the last one, those that end a block. -/
def methodLines (src : String) : List (List Char) :=
  let declared := (((lines src.toList).dropWhile ("//".toList.isPrefixOf ·)).drop 1).dropLast
  (declared.splitOn []).filterMap List.getLast?

/-- The name that a line declares: what it has between its tab and a parenthesis. -/
def nameInLine (line : List Char) : String := String.ofList ((line.drop 1).takeWhile (· != '('))

theorem methodLines_interface (hc : '\n' ∉ c.interface.toList) (h : interface c ps = .ok s) :
    methodLines s = (methodBlocks ps).filterMap List.getLast? := by
  have hopening : "//".toList.isPrefixOf (typeLine c) = false := by
    simp [typeLine, List.isPrefixOf]
  have hblocks : methodBlocks ps ≠ [] := by simp [methodBlocks, fixedAccessors]
  rw [methodLines, lines_interface_eq_intercalate hc h,
    List.dropWhile_append_of_pos fun _ => isPrefixOf_of_mem_contractLines,
    List.dropWhile_cons_of_neg (Bool.eq_false_iff.1 hopening), List.drop_succ_cons, List.drop_zero,
    List.dropLast_concat,
    List.splitOn_intercalate [] (fun _ => nil_not_mem_of_mem_methodBlocks) hblocks]

/-- The names that stand in the text are the declared ones. -/
theorem map_nameInLine_methodLines {ds : List Descriptor} (hc : '\n' ∉ c.interface.toList)
    (h : interface c (planAll ds) = .ok s) :
    (methodLines s).map nameInLine = declaredNames ds := by
  have hfixed : (fixedAccessors.map FixedAccessor.lines).filterMap List.getLast? =
      fixedAccessors.map fun a => ("\t" ++ a.name ++ "() string").toList := by
    simp only [List.filterMap_map, Function.comp_def, FixedAccessor.lines,
      List.getLast?_cons_cons, List.getLast?_singleton, List.filterMap_eq_map']
  have hplans : ((planAll ds).map declaredLines).filterMap List.getLast? =
      ds.map fun d => '\t' :: (trimmed d.plan.signature).toList := by
    simp [planAll, declaredLines, List.filterMap_map, Function.comp_def]
  have hnames : (fixedAccessors.map fun a => ("\t" ++ a.name ++ "() string").toList).map
      nameInLine = fixedMethods := by decide
  rw [methodLines_interface hc h, methodBlocks, List.filterMap_append, hfixed, hplans,
    List.map_append, hnames, declaredNames, List.map_map]
  rfl

end CloudAccessors.Source
