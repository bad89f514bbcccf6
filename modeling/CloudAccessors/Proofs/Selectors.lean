import CloudAccessors.Go.Identifier
import CloudAccessors.Proofs.CharacterClasses
import CloudAccessors.Text.Trim

/-!
# The characters of identifiers and selectors

No character that separates two parts of the source is in an identifier, and in a selector only the
dot is (`not_mem_of_isIdentifierText`, `not_mem_of_isSelectorText`). A selector is taken apart at
any of its dots (`isSelectorText_append_dot`), and what is put together from a service and a call
is one (`isSelectorText_inputType`). White space is in no identifier, since it is neither alphabetic
nor numeric (`isWhiteSpace_of_isIdentifierPart`), and so no identifier and no selector is blank.
-/

namespace CloudAccessors.Go

open Unicode

variable {a b cs : List Char} {c : Char}

/-! ### Identifiers -/

theorem isIdentifierPart_of_mem (h : isIdentifierText cs) (hc : c ∈ cs) : isIdentifierPart c := by
  cases cs with
  | nil => simp [isIdentifierText] at h
  | cons d rest =>
    simp only [isIdentifierText, Bool.and_eq_true, List.all_eq_true] at h
    obtain ⟨⟨hd, hrest⟩, -⟩ := h
    rcases List.mem_cons.1 hc with rfl | hc
    · simp only [isIdentifierStart, Bool.or_eq_true] at hd
      rcases hd with hd | hd <;> simp [isIdentifierPart, hd]
    · exact hrest c hc

theorem not_mem_of_isIdentifierText (hc : isIdentifierPart c = false) (h : isIdentifierText cs) :
    c ∉ cs := fun hmem => by
  have := isIdentifierPart_of_mem h hmem
  simp [hc] at this

theorem isIdentifierText_append (h : isIdentifierText a) (hb : b.all isIdentifierPart)
    (hk : isKeyword (a ++ b) = false) : isIdentifierText (a ++ b) := by
  cases a with
  | nil => simp [isIdentifierText] at h
  | cons d rest =>
    simp only [isIdentifierText, Bool.and_eq_true] at h
    obtain ⟨⟨hd, hrest⟩, -⟩ := h
    show isIdentifierText (d :: (rest ++ b))
    rw [List.cons_append] at hk
    simp [isIdentifierText, hd, hk, List.all_append, hrest, hb]

/-- What ends in a suffix that no keyword ends in is no keyword. -/
theorem isKeyword_append (hb : ∀ k ∈ keywords, ¬ b <:+ k.toList) :
    isKeyword (a ++ b) = false := by
  rw [isKeyword, List.any_eq_false]
  intro k hk heq
  exact hb k hk ⟨a, (of_decide_eq_true heq).symm⟩

/-! ### Texts cut at a separator -/

theorem mem_of_mem_splitOn {sep : Char} (hc : c ∈ cs) (hne : c ≠ sep) :
    ∃ part ∈ cs.splitOn sep, c ∈ part := by
  rw [← @List.intercalate_splitOn _ cs _ _ sep] at hc
  generalize cs.splitOn sep = parts at hc
  induction parts with
  | nil => simp at hc
  | cons part rest ih =>
    cases rest with
    | nil => exact ⟨part, by simp, by simpa using hc⟩
    | cons next rest =>
      rw [List.intercalate_cons_cons, List.append_assoc, List.mem_append, List.mem_append] at hc
      rcases hc with hc | hc | hc
      · exact ⟨part, by simp, hc⟩
      · exact absurd (List.mem_singleton.1 hc) hne
      · obtain ⟨p, hp, hcp⟩ := ih hc
        exact ⟨p, List.mem_cons_of_mem _ hp, hcp⟩

theorem two_le_length_splitOn {sep : Char} (h : sep ∈ cs) : 2 ≤ (cs.splitOn sep).length := by
  obtain ⟨u, v, rfl⟩ := List.append_of_mem h
  have hu := List.length_pos_iff.2 (List.splitOn_ne_nil sep u)
  have hv := List.length_pos_iff.2 (List.splitOn_ne_nil sep v)
  rw [List.splitOn_append_cons_self, List.length_append]
  omega

/-- The parts between the separators, joined by them again, are the text. -/
theorem intercalate_splitOn {sep : Char} {glue : String} (hglue : glue.toList = [sep])
    (s : String) : glue.intercalate ((s.toList.splitOn sep).map String.ofList) = s := by
  have hparts : ((s.toList.splitOn sep).map String.ofList).map String.toList =
      s.toList.splitOn sep := by
    rw [List.map_map]
    exact List.map_id'' (fun _ => String.toList_ofList) _
  rw [← String.toList_inj, String.toList_intercalate, hparts, hglue]
  exact List.intercalate_splitOn sep

/-! ### Selectors -/

theorem isSelectorText_append_dot :
    isSelectorText (a ++ '.' :: b) = (isSelectorText a && isSelectorText b) := by
  rw [isSelectorText, List.splitOn_append_cons_self, List.all_append]
  rfl

theorem isSelectorText_of_isIdentifierText (h : isIdentifierText cs) : isSelectorText cs := by
  have hdot : '.' ∉ cs := not_mem_of_isIdentifierText (by decide) h
  rw [isSelectorText, List.splitOn_eq_singleton hdot]
  simp [h]

theorem isIdentifierPart_or_eq_dot_of_mem (h : isSelectorText cs) (hc : c ∈ cs) :
    isIdentifierPart c ∨ c = '.' := by
  by_cases hdot : c = '.'
  · exact .inr hdot
  · obtain ⟨part, hpart, hcp⟩ := mem_of_mem_splitOn hc hdot
    exact .inl (isIdentifierPart_of_mem (List.all_eq_true.1 h part hpart) hcp)

theorem not_mem_of_isSelectorText (hc : isIdentifierPart c = false) (hne : c ≠ '.')
    (h : isSelectorText cs) : c ∉ cs := fun hmem => by
  rcases isIdentifierPart_or_eq_dot_of_mem h hmem with hpart | hdot
  · simp [hc] at hpart
  · exact hne hdot

/-- The input type of a call is a selector if the service and the call are identifiers. -/
theorem isSelectorText_inputType {service call : List Char} (hs : isIdentifierText service)
    (hc : isIdentifierText call) :
    isSelectorText (service ++ '.' :: (call ++ "Input".toList)) := by
  have hkey : isKeyword (call ++ "Input".toList) = false := isKeyword_append (by decide)
  have hin : isIdentifierText (call ++ "Input".toList) :=
    isIdentifierText_append hc (by decide) hkey
  rw [isSelectorText_append_dot, Bool.and_eq_true]
  exact ⟨isSelectorText_of_isIdentifierText hs, isSelectorText_of_isIdentifierText hin⟩

/-! ### Names on one line -/

theorem newline_not_mem_of_isIdentifier {s : String} (h : isIdentifier s) : '\n' ∉ s.toList :=
  not_mem_of_isIdentifierText (by decide) h

theorem newline_not_mem_of_isSelector {s : String} (h : isSelector s) : '\n' ∉ s.toList :=
  not_mem_of_isSelectorText (by decide) (by decide) h

/-! ### Names are not blank -/

theorem isWhiteSpace_of_isIdentifierPart (h : isIdentifierPart c) : isWhiteSpace c = false := by
  refine Bool.eq_false_iff.2 fun hspace => ?_
  rw [isIdentifierPart, isAlphabetic_of_isWhiteSpace hspace, isNumeric_of_isWhiteSpace hspace] at h
  obtain rfl : c = '_' := by simpa using h
  exact absurd hspace (by decide)

theorem blank_of_isIdentifier {s : String} (h : isIdentifier s) : Text.blank s = false := by
  rw [isIdentifier] at h
  rw [Text.blank]
  cases hs : s.toList with
  | nil => rw [hs] at h; cases h
  | cons c rest =>
    rw [hs] at h
    have hpart : isIdentifierPart c := isIdentifierPart_of_mem h List.mem_cons_self
    simp [Text.isBlank, isWhiteSpace_of_isIdentifierPart hpart]

theorem blank_of_isSelector {s : String} (h : isSelector s) : Text.blank s = false := by
  by_cases hdot : '.' ∈ s.toList
  · exact List.all_eq_false.2 ⟨_, hdot, by decide⟩
  · rw [isSelector, isSelectorText, List.splitOn_eq_singleton hdot, List.all_cons,
      Bool.and_eq_true] at h
    exact blank_of_isIdentifier h.1

end CloudAccessors.Go
