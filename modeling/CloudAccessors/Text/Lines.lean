/-!
# Lines of a text

A line ends at a line feed, which may have one carriage return before it; a last line without an
ending counts unless it is empty. A carriage return anywhere else belongs to its line.
-/

namespace CloudAccessors.Text

def lines : List Char → List (List Char)
  | [] => []
  | '\n' :: rest => [] :: lines rest
  | '\r' :: '\n' :: rest => [] :: lines rest
  | c :: rest =>
    match lines rest with
    | [] => [[c]]
    | line :: more => (c :: line) :: more

theorem not_mem_of_mem_lines {cs line : List Char} (h : line ∈ lines cs) : '\n' ∉ line := by
  induction cs using lines.induct generalizing line with
  | case1 => simp [lines] at h
  | case2 rest ih =>
    simp only [lines, List.mem_cons] at h
    rcases h with rfl | h
    · simp
    · exact ih h
  | case3 rest ih =>
    simp only [lines, List.mem_cons] at h
    rcases h with rfl | h
    · simp
    · exact ih h
  | case4 c rest hc hcr heq ih =>
    rw [lines, heq] at h
    · simp at h; subst h; simpa [eq_comm] using hc
    · simpa using hc
    · simpa using hcr
  | case5 c rest hc hcr line' more heq ih =>
    rw [lines, heq] at h
    · rcases List.mem_cons.1 h with rfl | h
      · have : '\n' ∉ line' := ih (by simp [heq])
        simp only [List.mem_cons, not_or]
        exact ⟨by simpa [eq_comm] using hc, this⟩
      · exact ih (by simp [heq, h])
    · simpa using hc
    · simpa using hcr

end CloudAccessors.Text
