import CloudAccessors.Proofs.Comments
import Mathlib.Data.List.Basic

/-!
# Comments that are commented again

The lines of a comment can be read off its text, whatever the indentation is made of
(`lines_commentText`). White space in front of them is trimmed away, and then each is a comment line
that stays as it is (`commentLine_commentLine`); none is empty, so that none is dropped at the ends.
A comment that is taken for documentation is therefore only moved to another indentation
(`documentationLines_commentText`, `comment_comment`).
-/

namespace CloudAccessors.Go

open Text Unicode

variable {line i j text : List Char}

/-! ### One line -/

theorem commentLine_commentLine (line : List Char) :
    commentLine (commentLine line) = commentLine line := by
  obtain ⟨rest, hrest⟩ := exists_commentLine_eq line
  rw [hrest]
  rfl

theorem commentLine_ne_nil (line : List Char) : commentLine line ≠ [] := by
  obtain ⟨rest, hrest⟩ := exists_commentLine_eq line
  rw [hrest]
  exact List.cons_ne_nil _ _

theorem isWhiteSpace_of_getLast?_commentLine
    (h : ∀ a, line.getLast? = some a → isWhiteSpace a = false) :
    ∀ a, (commentLine line).getLast? = some a → isWhiteSpace a = false := by
  unfold commentLine
  split
  · intro a ha
    cases ha
    rfl
  · exact h
  · rename_i hne _
    rw [List.getLast?_append_of_ne_nil _ hne]
    exact h

/-- The indentation is trimmed away, and nothing else. -/
theorem trim_append_commentLine (hi : isBlank i) (h : line ∈ documentationLines text) :
    trim (i ++ commentLine line) = commentLine line := by
  obtain ⟨l, -, rfl⟩ := exists_mem_lines_of_mem_documentationLines h
  rw [trim_append_of_isBlank hi]
  refine trim_eq_self (fun a ha => ?_)
    (isWhiteSpace_of_getLast?_commentLine fun a => isWhiteSpace_of_getLast?_trim)
  obtain ⟨rest, hrest⟩ := exists_commentLine_eq (trim l)
  rw [hrest] at ha
  cases ha
  decide

/-! ### Whole comments -/

theorem lines_commentText (hi : '\n' ∉ i) (text : List Char) :
    lines (commentText i text) =
      (documentationLines text).map fun line => i ++ commentLine line := by
  have hline : ∀ l ∈ (documentationLines text).map fun line => i ++ commentLine line, IsLine l := by
    intro l hl
    obtain ⟨line, hline, rfl⟩ := List.mem_map.1 hl
    exact (isLine_commentLine (isLine_of_mem_documentationLines hline)).append_left
      (commentLine_ne_nil line) hi
  rw [commentText_eq_joinLines, ← List.append_nil (joinLines _), lines_joinLines_append hline]
  exact List.append_nil _

theorem documentationLines_commentText (hi : isBlank i) (hfeed : '\n' ∉ i) (text : List Char) :
    documentationLines (commentText i text) = (documentationLines text).map commentLine := by
  have htrim : (lines (commentText i text)).map trim =
      (documentationLines text).map commentLine := by
    rw [lines_commentText hfeed, List.map_map]
    exact List.map_congr_left fun line hline => trim_append_commentLine hi hline
  have hkept {ls : List (List Char)} (h : ∀ l ∈ ls, l ≠ []) : ls.dropWhile List.isEmpty = ls := by
    cases ls with
    | nil => rfl
    | cons l ls => exact List.dropWhile_cons_of_neg (by simpa using h l (by simp))
  have hne : ∀ l ∈ (documentationLines text).map commentLine, l ≠ [] := fun l hl => by
    obtain ⟨line, -, rfl⟩ := List.mem_map.1 hl
    exact commentLine_ne_nil line
  rw [documentationLines, htrim, hkept hne, hkept, List.reverse_reverse]
  exact fun l hl => hne l (List.mem_reverse.1 hl)

theorem commentText_commentText (hi : isBlank i) (hfeed : '\n' ∉ i) (j text : List Char) :
    commentText j (commentText i text) = commentText j text := by
  rw [commentText, documentationLines_commentText hi hfeed, List.flatMap_map]
  simp only [commentLine_commentLine]
  rfl

/-- A comment is indented anew if it is taken for documentation, and every line of a comment is
indented and then marked. -/
theorem comment_comment (text j : String) :
    (∀ i : String, blank i → '\n' ∉ i.toList → comment j (comment i text) = comment j text) ∧
      ('\n' ∉ j.toList → ∀ l ∈ lines (comment j text).toList, j.toList ++ "//".toList <+: l) := by
  refine ⟨fun i hi hfeed => ?_, fun hj l hl => ?_⟩
  · rw [comment, comment, comment, String.toList_ofList, commentText_commentText hi hfeed]
  · rw [comment, String.toList_ofList, lines_commentText hj] at hl
    obtain ⟨line, -, rfl⟩ := List.mem_map.1 hl
    exact (List.prefix_append_right_inj _).2
      (List.isPrefixOf_iff_prefix.1 (isPrefixOf_commentLine line))

theorem comment_comment_tabbed :
    comment "\t\t" (comment "\t" "\r\nFirst.\r\n\n// Second.") =
        "\t\t// First.\n\t\t//\n\t\t// Second.\n" ∧
      ∀ l ∈ lines (comment "\t" "\r\nFirst.\r\n\n// Second.").toList, "\t//".toList <+: l := by
  constructor
  · rw [(comment_comment _ "\t\t").1 "\t" (by decide) (by decide)]
    decide +kernel
  · exact (comment_comment _ "\t").2 (by decide)

end CloudAccessors.Go
