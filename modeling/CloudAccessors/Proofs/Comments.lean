import CloudAccessors.Go.Comment
import CloudAccessors.Proofs.Lines
import CloudAccessors.Proofs.Trim

/-!
# What a comment is made of

A comment is a row of lines. None has a line feed inside (`not_mem_commentLine`), and all begin with
the comment marker (`exists_commentLine_eq`), whatever the documentation is. None ends in white
space, so that all of them are read back as lines (`isLine_commentLine`).
-/

namespace CloudAccessors.Go

open Text

variable {line text : List Char}

theorem exists_mem_lines_of_mem_documentationLines (h : line ∈ documentationLines text) :
    ∃ l ∈ lines text, line = trim l := by
  rw [documentationLines, List.mem_reverse] at h
  have h := (List.dropWhile_sublist _).mem h
  rw [List.mem_reverse] at h
  obtain ⟨l, hl, rfl⟩ := List.mem_map.1 ((List.dropWhile_sublist _).mem h)
  exact ⟨l, hl, rfl⟩

theorem not_mem_of_mem_documentationLines (h : line ∈ documentationLines text) : '\n' ∉ line := by
  obtain ⟨l, hl, rfl⟩ := exists_mem_lines_of_mem_documentationLines h
  exact not_mem_trim (not_mem_of_mem_lines hl)

theorem exists_commentLine_eq (line : List Char) :
    ∃ rest, commentLine line = '/' :: '/' :: rest := by
  unfold commentLine
  split <;> exact ⟨_, rfl⟩

theorem not_mem_commentLine (h : '\n' ∉ line) : '\n' ∉ commentLine line := by
  unfold commentLine
  split
  · decide
  · exact h
  · simpa using h

theorem isLine_trim {cs : List Char} (h : '\n' ∉ trim cs) : IsLine (trim cs) :=
  ⟨h, fun hlast => absurd (isWhiteSpace_of_getLast?_trim hlast) (by decide)⟩

theorem isLine_of_mem_documentationLines (h : line ∈ documentationLines text) : IsLine line := by
  have hfeed := not_mem_of_mem_documentationLines h
  obtain ⟨l, -, rfl⟩ := exists_mem_lines_of_mem_documentationLines h
  exact isLine_trim hfeed

theorem isLine_commentLine (h : IsLine line) : IsLine (commentLine line) := by
  unfold commentLine
  split
  · exact ⟨by decide, by decide⟩
  · exact h
  · exact ((h.cons (c := ' ') (by decide) (by decide)).cons (c := '/') (by decide)
      (by decide)).cons (by decide) (by decide)

theorem commentText_eq_joinLines (indent text : List Char) :
    commentText indent text =
      joinLines ((documentationLines text).map fun line => indent ++ commentLine line) := by
  rw [commentText, joinLines, List.flatMap_map]

end CloudAccessors.Go
