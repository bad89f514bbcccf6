import CloudAccessors.Text.Lines

/-!
# Lines of joined texts

A text that ends in a line feed keeps its lines whatever is put behind it (`lines_append_newline`),
and a line without a line break of its own is read back (`lines_line_append`); so whole rows of such
lines are (`lines_joinLines_append`). A search for lines by a prefix (`linesWith`) is a search for
the prefix behind line feeds (`linesWith_eq_nil_iff`). For texts that are put together from many
pieces, `margin?` follows where each piece leaves off: pieces in which no line begins with the first
character of the prefix add nothing to the search (`linesWith_append`).
-/

namespace CloudAccessors.Text

variable {c m : Char} {a b l rest p : List Char}

/-! ### The first line and the others -/

theorem lines_cons_of (hc : c ≠ '\n') (hcr : ¬ (c = '\r' ∧ rest.head? = some '\n')) :
    lines (c :: rest) = (c :: (lines rest).headD []) :: (lines rest).tail := by
  rw [lines]
  · cases lines rest <;> rfl
  · exact hc
  · intro tail h hrest
    exact hcr ⟨h, by rw [hrest]; rfl⟩

/-- A carriage return in front of a line feed is not seen. -/
theorem lines_cr (h : rest.head? = some '\n') : lines ('\r' :: rest) = lines rest := by
  cases rest with
  | nil => cases h
  | cons d rest => cases h; rfl

theorem lines_tail (hc : c ≠ '\n') : (lines (c :: rest)).tail = (lines rest).tail := by
  by_cases hcr : c = '\r' ∧ rest.head? = some '\n'
  · obtain ⟨rfl, h⟩ := hcr
    rw [lines_cr h]
  · rw [lines_cons_of hc hcr, List.tail_cons]

theorem lines_ne_nil (h : l ≠ []) : lines l ≠ [] := by
  cases l with
  | nil => exact absurd rfl h
  | cons d l =>
    by_cases hd : d = '\n'
    · subst hd; exact List.cons_ne_nil _ _
    by_cases hcr : d = '\r' ∧ l.head? = some '\n'
    · obtain ⟨rfl, hl⟩ := hcr
      cases l with
      | nil => cases hl
      | cons e l => cases hl; exact List.cons_ne_nil _ _
    · rw [lines_cons_of hd hcr]; exact List.cons_ne_nil _ _

/-! ### Joined texts -/

theorem lines_append_newline (a b : List Char) :
    lines (a ++ '\n' :: b) = lines (a ++ ['\n']) ++ lines b := by
  induction a with
  | nil => rfl
  | cons d a ih =>
    have hhead : (a ++ '\n' :: b).head? = (a ++ ['\n']).head? := by cases a <;> rfl
    rw [List.cons_append, List.cons_append]
    by_cases hd : d = '\n'
    · subst hd
      show [] :: lines (a ++ '\n' :: b) = [] :: (lines (a ++ ['\n']) ++ lines b)
      rw [ih]
    by_cases hcr : d = '\r' ∧ (a ++ ['\n']).head? = some '\n'
    · obtain ⟨rfl, h⟩ := hcr
      rw [lines_cr (hhead.trans h), lines_cr h, ih]
    · have hcr' : ¬ (d = '\r' ∧ (a ++ '\n' :: b).head? = some '\n') := by rwa [hhead]
      rw [lines_cons_of hd hcr, lines_cons_of hd hcr', ih]
      obtain ⟨line, more, hlines⟩ :=
        List.exists_cons_of_ne_nil (lines_ne_nil (l := a ++ ['\n']) (by simp))
      rw [hlines]
      rfl

/-- A line that has no line break, and no carriage return at its end, is read back. -/
theorem lines_line_append (hl : '\n' ∉ l) (hcr : l.getLast? ≠ some '\r') :
    lines (l ++ '\n' :: rest) = l :: lines rest := by
  induction l with
  | nil => rfl
  | cons d l ih =>
    simp only [List.mem_cons, not_or] at hl
    have hnext : ¬ (d = '\r' ∧ (l ++ '\n' :: rest).head? = some '\n') := by
      rintro ⟨rfl, h⟩
      cases l with
      | nil => exact hcr rfl
      | cons e l => exact hl.2 (by simp [Option.some.inj h])
    have hcr' : l.getLast? ≠ some '\r' := by
      cases l with
      | nil => simp
      | cons e l => simpa using hcr
    rw [List.cons_append, lines_cons_of (Ne.symm hl.1) hnext, ih hl.2 hcr']
    rfl

/-! ### Rows of lines -/

/-- A line that is read back if a line feed is put behind it. -/
structure IsLine (l : List Char) : Prop where
  feed : '\n' ∉ l
  ending : l.getLast? ≠ some '\r'

theorem IsLine.nil : IsLine [] := ⟨by simp, by simp⟩

theorem IsLine.cons (hc : c ≠ '\n') (hcr : c ≠ '\r') (h : IsLine l) : IsLine (c :: l) := by
  refine ⟨?_, ?_⟩
  · simp only [List.mem_cons, not_or]
    exact ⟨Ne.symm hc, h.feed⟩
  · rw [List.getLast?_cons]
    cases hlast : l.getLast? with
    | none => simpa using hcr
    | some d => rw [Option.getD_some, ← hlast]; exact h.ending

theorem IsLine.append_left (h : IsLine l) (hl : l ≠ []) (ha : '\n' ∉ a) : IsLine (a ++ l) := by
  refine ⟨fun hmem => ?_, ?_⟩
  · exact (List.mem_append.1 hmem).elim ha h.feed
  · have hlast := h.ending
    rw [List.getLast?_eq_some_getLast hl] at hlast
    rw [List.getLast?_append, List.getLast?_eq_some_getLast hl]
    exact hlast

/-- A row of lines with a line feed behind each. -/
def joinLines (ls : List (List Char)) : List Char := ls.flatMap (· ++ ['\n'])

theorem joinLines_append (ls ms : List (List Char)) :
    joinLines (ls ++ ms) = joinLines ls ++ joinLines ms := List.flatMap_append

theorem lines_joinLines_append {ls : List (List Char)} (h : ∀ l ∈ ls, IsLine l) :
    lines (joinLines ls ++ rest) = ls ++ lines rest := by
  induction ls with
  | nil => rfl
  | cons l ls ih =>
    have hl := h l (by simp)
    rw [joinLines, List.flatMap_cons, ← joinLines, List.append_assoc, List.append_assoc,
      List.singleton_append, lines_line_append hl.feed hl.ending, ih fun m hm => h m (by simp [hm])]
    rfl

/-! ### Lines with a prefix -/

/-- The lines of a text that begin with `p`. -/
def linesWith (p cs : List Char) : List (List Char) := (lines cs).filter p.isPrefixOf

theorem linesWith_append_newline (a b : List Char) :
    linesWith p (a ++ '\n' :: b) = linesWith p (a ++ ['\n']) ++ linesWith p b := by
  rw [linesWith, lines_append_newline, List.filter_append]
  rfl

theorem isPrefix_head_lines (hn : '\n' ∉ p) (hr : '\r' ∉ p) :
    p <+: (lines l).headD [] ↔ p <+: l := by
  induction p generalizing l with
  | nil => simp
  | cons d p ih =>
    simp only [List.mem_cons, not_or] at hn hr
    cases l with
    | nil => rfl
    | cons e l =>
      by_cases he : e = '\n'
      · subst he
        simp [lines, Ne.symm hn.1]
      by_cases hcr : e = '\r' ∧ l.head? = some '\n'
      · obtain ⟨rfl, h⟩ := hcr
        cases l with
        | nil => cases h
        | cons e l =>
          cases h
          simp [lines, Ne.symm hr.1]
      · rw [lines_cons_of he hcr, List.headD_cons, List.cons_prefix_cons, List.cons_prefix_cons,
          ih hn.2 hr.2]

/-- The lines behind the first one are searched by looking for the prefix behind a line feed. -/
theorem filter_tail_lines_eq_nil_iff (hp : p ≠ []) (hn : '\n' ∉ p) (hr : '\r' ∉ p) :
    (lines l).tail.filter p.isPrefixOf = [] ↔ ¬ '\n' :: p <:+: l := by
  induction l with
  | nil => simp [lines]
  | cons d l ih =>
    rw [List.infix_cons_iff, List.cons_prefix_cons]
    by_cases hd : d = '\n'
    · subst hd
      show (lines l).filter p.isPrefixOf = [] ↔ _
      rw [not_or, ← ih, ← isPrefix_head_lines hn hr]
      cases lines l with
      | nil => simp [hp]
      | cons line more => simp
    · rw [lines_tail hd, ih]
      simp [Ne.symm hd]

theorem linesWith_eq_nil_iff (hp : p ≠ []) (hn : '\n' ∉ p) (hr : '\r' ∉ p) :
    linesWith p l = [] ↔ ¬ p <+: l ∧ ¬ '\n' :: p <:+: l := by
  rw [← filter_tail_lines_eq_nil_iff hp hn hr, ← isPrefix_head_lines hn hr, linesWith]
  cases lines l with
  | nil => simp [hp]
  | cons line more => simp

/-! ### Prefixes behind a line feed in joined texts -/

/-- Nothing begins in a text that lacks its first character. -/
theorem infix_append_left_iff {x : List Char} (h : c ∉ a) :
    c :: p <:+: a ++ x ↔ c :: p <:+: x := by
  refine ⟨fun ⟨u, v, huv⟩ => ?_, fun hx => hx.trans (List.suffix_append a x).isInfix⟩
  rw [List.append_assoc, List.cons_append] at huv
  rcases List.append_eq_append_iff.1 huv with ⟨w, rfl, hw⟩ | ⟨w, rfl, hw⟩
  · cases w with
    | nil => exact ⟨[], v, hw⟩
    | cons d w =>
      obtain rfl := (List.cons.inj hw).1
      exact absurd (by simp) h
  · exact ⟨w, v, by rw [List.append_assoc, List.cons_append]; exact hw.symm⟩

/-- Nothing ends in a text that lacks its last character. -/
theorem infix_append_right_iff {x : List Char} (h : c ∉ b) :
    p ++ [c] <:+: x ++ b ↔ p ++ [c] <:+: x := by
  refine ⟨fun ⟨u, v, huv⟩ => ?_, fun hx => hx.trans (List.prefix_append x b).isInfix⟩
  rcases List.append_eq_append_iff.1 huv with ⟨w, rfl, -⟩ | ⟨w, hw, rfl⟩
  · exact ⟨u, w, rfl⟩
  · rcases List.eq_nil_or_concat w with rfl | ⟨w, d, rfl⟩
    · exact ⟨u, [], by simpa using hw⟩
    · have hlast := congrArg List.getLast? hw
      simp at hlast
      exact absurd (by simp [hlast]) h

/-! ### Texts put together from pieces -/

/-- Reads a text that begins at the left margin, or inside a line, and says whether it ends at the
left margin; `none` if one of its lines begins with `m`. -/
def margin? (m : Char) : Bool → List Char → Option Bool
  | atMargin, [] => some atMargin
  | atMargin, c :: rest =>
    if c = '\n' then margin? m true rest
    else if atMargin && c = m then none
    else margin? m false rest

theorem margin?_append (atMargin : Bool) (a b : List Char) :
    margin? m atMargin (a ++ b) = (margin? m atMargin a).bind (margin? m · b) := by
  induction a generalizing atMargin with
  | nil => rfl
  | cons d a ih =>
    simp only [List.cons_append, margin?, ih]
    split
    · rfl
    · split <;> rfl

theorem margin?_of_not_mem (h : '\n' ∉ l) : margin? m false l = some false := by
  induction l with
  | nil => rfl
  | cons d l ih =>
    simp only [List.mem_cons, not_or] at h
    simp [margin?, Ne.symm h.1, ih h.2]

theorem margin?_flatMap {α : Type} {xs : List α} {f : α → List Char}
    (h : ∀ x ∈ xs, margin? m true (f x) = some true) :
    margin? m true (xs.flatMap f) = some true := by
  induction xs with
  | nil => rfl
  | cons x xs ih =>
    rw [List.flatMap_cons, margin?_append, h x (by simp), Option.bind_some]
    exact ih fun y hy => h y (by simp [hy])

/-- Behind a piece without a line that begins with `m` only the lines of the rest are found. Inside
a line, the first line of the rest has begun in the piece and is left out. -/
theorem filter_lines_of_margin? (atMargin : Bool) (h : margin? m atMargin a = some true) :
    (if atMargin then lines (a ++ b) else (lines (a ++ b)).tail).filter (m :: p).isPrefixOf =
      linesWith (m :: p) b := by
  induction a generalizing atMargin with
  | nil => cases h; rfl
  | cons d a ih =>
    rw [margin?] at h
    split at h
    · rename_i hd
      subst hd
      have := ih true h
      cases atMargin <;> exact this
    rename_i hd
    split at h
    · cases h
    rename_i hm
    have htail := ih false h
    rw [List.cons_append]
    cases atMargin with
    | false => rw [← htail]; simp only [Bool.false_eq_true, if_false, lines_tail hd]
    | true =>
      have hm' : m ≠ d := by simpa [eq_comm] using hm
      simp only [if_true]
      by_cases hcr : d = '\r' ∧ (a ++ b).head? = some '\n'
      · obtain ⟨rfl, hnext⟩ := hcr
        rw [lines_cr hnext]
        cases hab : a ++ b with
        | nil => rw [hab] at hnext; cases hnext
        | cons e rest =>
          rw [hab] at hnext htail
          cases hnext
          exact htail
      · rw [lines_cons_of hd hcr, List.filter_cons_of_neg (by simp [hm'])]
        exact htail

/-- A piece that begins and ends at the left margin is passed over. -/
theorem linesWith_append (h : margin? m true a = some true) :
    linesWith (m :: p) (a ++ b) = linesWith (m :: p) b := filter_lines_of_margin? true h

end CloudAccessors.Text
