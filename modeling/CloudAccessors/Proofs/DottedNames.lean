import CloudAccessors.Proofs.Selectors

/-!
# Selectors as chains of names

A selector is a row of identifiers joined by dots. No identifier has a dot in it, so that the row
can be read off the text again: it is what stands between the dots (`isChain_iff`). Other than the
dots, a selector has only characters of identifiers, and none of them is white space.
-/

namespace CloudAccessors.Go

open Unicode

variable {names : List String} {path : String}

/-- `path` is written with the given names, which are identifiers and at least one. -/
structure IsChain (names : List String) (path : String) : Prop where
  ne_nil : names ≠ []
  identifiers : ∀ name ∈ names, isIdentifier name
  joined : path = ".".intercalate names

/-- What stands between the dots of a path. -/
def betweenDots (path : String) : List String := (path.toList.splitOn '.').map String.ofList

theorem intercalate_betweenDots (path : String) : ".".intercalate (betweenDots path) = path :=
  intercalate_splitOn rfl path

theorem isSelector_iff_betweenDots :
    isSelector path ↔ ∀ name ∈ betweenDots path, isIdentifier name := by
  simp [isSelector, isSelectorText, betweenDots, isIdentifier]

theorem IsChain.betweenDots_eq (h : IsChain names path) : betweenDots path = names := by
  have hdot : ∀ name ∈ names.map String.toList, '.' ∉ name := by
    intro name hname
    obtain ⟨s, hs, rfl⟩ := List.mem_map.1 hname
    exact not_mem_of_isIdentifierText (by decide) (h.identifiers s hs)
  have hne : names.map String.toList ≠ [] := mt List.map_eq_nil_iff.1 h.ne_nil
  have hsplit : path.toList.splitOn '.' = names.map String.toList := by
    rw [h.joined, String.toList_intercalate]
    exact List.splitOn_intercalate '.' hdot hne
  rw [betweenDots, hsplit, List.map_map]
  exact List.map_id'' (fun _ => String.ofList_toList) _

theorem isChain_iff : IsChain names path ↔ isSelector path ∧ names = betweenDots path := by
  constructor
  · intro h
    refine ⟨isSelector_iff_betweenDots.2 ?_, h.betweenDots_eq.symm⟩
    rw [h.betweenDots_eq]
    exact h.identifiers
  · rintro ⟨h, rfl⟩
    have hne : betweenDots path ≠ [] := mt List.map_eq_nil_iff.1 (List.splitOn_ne_nil '.' _)
    exact ⟨hne, isSelector_iff_betweenDots.1 h, (intercalate_betweenDots path).symm⟩

/-- The selectors are the rows of identifiers joined by dots, and no two rows give the same text.
Two texts joined by a dot are a selector exactly if both are, and a selector has no white space, no
line break and no path separator. -/
theorem isSelector_iff_isChain :
    (∀ path, isSelector path ↔ ∃ names, IsChain names path) ∧
    (∀ path xs ys, IsChain xs path → IsChain ys path → xs = ys) ∧
    (∀ a b, isSelector (a ++ "." ++ b) = (isSelector a && isSelector b)) ∧
    ∀ path, isSelector path → ∀ c ∈ path.toList, isWhiteSpace c = false ∧ c ≠ '\n' ∧ c ≠ '#' := by
  refine ⟨fun path => ?_, fun path xs ys hx hy => ?_, fun a b => ?_, fun path h c hc => ?_⟩
  · constructor
    · intro h
      exact ⟨betweenDots path, isChain_iff.2 ⟨h, rfl⟩⟩
    · rintro ⟨names, h⟩
      exact (isChain_iff.1 h).1
  · exact hx.betweenDots_eq.symm.trans hy.betweenDots_eq
  · have htext : (a ++ "." ++ b).toList = a.toList ++ '.' :: b.toList := by simp
    rw [isSelector, htext, isSelectorText_append_dot]
    rfl
  · rcases isIdentifierPart_or_eq_dot_of_mem h hc with hpart | rfl
    · refine ⟨isWhiteSpace_of_isIdentifierPart hpart, ?_, ?_⟩ <;>
        rintro rfl <;> exact absurd hpart (by decide)
    · decide

theorem isSelector_iff_isChain_items :
    isSelector "DistributionList.Items" ∧
      (∃ names, IsChain names "DistributionList.Items") ∧
      (∀ names, IsChain names "DistributionList.Items" → names = ["DistributionList", "Items"]) ∧
      '#' ∉ "DistributionList.Items".toList := by
  have hsel : isSelector "DistributionList.Items" := by decide +kernel
  have hchain : IsChain ["DistributionList", "Items"] "DistributionList.Items" :=
    ⟨by decide, by decide +kernel, by decide +kernel⟩
  refine ⟨hsel, (isSelector_iff_isChain.1 _).1 hsel, fun names h => ?_, fun hmem => ?_⟩
  · exact isSelector_iff_isChain.2.1 _ _ _ h hchain
  · exact (isSelector_iff_isChain.2.2.2 _ hsel '#' hmem).2.2 rfl

end CloudAccessors.Go
