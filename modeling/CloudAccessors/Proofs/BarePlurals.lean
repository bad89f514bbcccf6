import CloudAccessors.Proofs.SingularTwice

/-!
# Plurals without an `s`

A word that does not end in an `s` is changed only if it is one of a few plurals (`IsBarePlural`).
They are what a final `s` can hide. The names that end in one of them and an `s`, and those with a
last word `S` behind a plural, are all whose singular is not its own singular (`HidesPlural`).
-/

namespace CloudAccessors.Noun

open Unicode Rewrite

variable {p v w : List Char} {c x : Char}

/-- Plurals without an `s` that are looked up as a whole. -/
def bareWords : List String :=
  ["people", "men", "women", "children", "data", "media", "criteria", "feet", "teeth", "geese",
   "oxen", "mice", "lice"]

/-- Endings of plurals without an `s`. -/
def bareEndings : List String := ["octopi", "viri"]

/-- A plural that does not end in an `s`, but has another form in the singular. -/
inductive IsBarePlural (w : List Char) : Prop
  | word (s : String) (hs : s ∈ bareWords) (h : lower w = s.toList)
  | ending (s : String) (hs : s ∈ bareEndings) (h : s.toList <:+ lower w)

/-! ### The entries of these plurals -/

/-- An entry for words without a final `s` is for these plurals, or keeps the word. -/
theorem bare_of_mem_rewrites :
    ∀ e ∈ rewrites, e.keeps ∨ ['s'] <:+ e.pattern ∨
      (e.guard = .wholeWord ∧ ∃ s ∈ bareWords, e.pattern = s.toList) ∨
      ∃ s ∈ bareEndings, e.pattern = s.toList := by
  decide +kernel

/-- Each of the words is changed; with an `s` behind it, it loses that `s`, and so does its last
letter when it stands alone. -/
theorem find?_bareWords :
    ∀ s ∈ bareWords,
      (rewrites.find? (·.fits s.toList)).any (fun e => e.root ++ e.replacement ≠ e.pattern) ∧
      rewrites.find? (·.fits (s.toList ++ ['s'])) = some bareS ∧ 2 ≤ s.toList.length ∧
      s.toList.getLast?.all fun x => rewrites.find? (·.fits [x, 's']) = some bareS := by
  decide +kernel

/-- The same for the endings, for which no other entry comes into question. -/
theorem rivals_bareEndings :
    ∀ s ∈ bareEndings,
      (∃ r ∈ ["octopus", "virus"], r.toList ≠ s.toList ∧
        rewrites.filter (·.mayFit s.toList) =
          [{ ending := s.toList, replacement := r.toList }]) ∧
      rewrites.filter (·.mayFit (s.toList ++ ['s'])) = [bareS] ∧ 2 ≤ s.toList.length ∧
      s.toList.getLast?.all fun x => rewrites.find? (·.fits [x, 's']) = some bareS := by
  decide +kernel

theorem find?_s : rewrites.find? (·.fits ['s']) = some bareS := by decide +kernel

/-! ### These plurals in names -/

theorem singularWord_ne_self {e : Rewrite} (hfind : rewrites.find? (·.fits (lower w)) = some e)
    (hne : e.root ++ e.replacement ≠ e.pattern) : singularWord w ≠ w := fun h => by
  have hfits : e.fits (lower w) := fits_of_find?_eq_some hfind
  obtain ⟨stem, hstem, -⟩ := fits_iff.1 hfits
  have hlow := lower_applied (List.mem_of_find?_eq_some hfind) hstem
  rw [← singularWord_eq_applied hfind, h, hstem, List.append_assoc] at hlow
  exact hne (List.append_cancel_left hlow).symm

namespace IsBarePlural

variable (h : IsBarePlural w)
include h

theorem singularWord_ne : singularWord w ≠ w := by
  rcases h with ⟨s, hs, hlow⟩ | ⟨s, hs, hsuf⟩
  · obtain ⟨hany, -⟩ := find?_bareWords s hs
    obtain ⟨e, hfind, hne⟩ := (Option.any_eq_true _ _).1 hany
    exact singularWord_ne_self (hlow ▸ hfind) (of_decide_eq_true hne)
  · obtain ⟨⟨r, -, hne, hrivals⟩, -⟩ := rivals_bareEndings s hs
    exact singularWord_ne_self (find?_fits_eq_some hsuf hrivals rfl List.suffix_rfl) hne

theorem find?_append_s : rewrites.find? (·.fits (lower w ++ ['s'])) = some bareS := by
  rcases h with ⟨s, hs, hlow⟩ | ⟨s, hs, hsuf⟩
  · exact hlow ▸ (find?_bareWords s hs).2.1
  · obtain ⟨stem, hstem⟩ := hsuf
    have hsuf : s.toList ++ ['s'] <:+ lower w ++ ['s'] :=
      ⟨stem, by rw [← hstem, List.append_assoc]⟩
    exact find?_fits_eq_some hsuf (rivals_bareEndings s hs).2.1 rfl (List.suffix_append _ ['s'])

theorem two_le_length : 2 ≤ w.length := by
  rw [← length_lower]
  rcases h with ⟨s, hs, hlow⟩ | ⟨s, hs, hsuf⟩
  · exact hlow ▸ (find?_bareWords s hs).2.2.1
  · exact Nat.le_trans (rivals_bareEndings s hs).2.2.1 hsuf.length_le

theorem find?_getLast_s (hx : w.getLast? = some x) :
    rewrites.find? (·.fits [x.toLower, 's']) = some bareS := by
  have hlast : (lower w).getLast? = some x.toLower := by
    rw [lower, List.getLast?_map, hx]
    rfl
  rcases h with ⟨s, hs, hlow⟩ | ⟨s, hs, hsuf⟩
  · obtain ⟨-, -, -, hsingle⟩ := find?_bareWords s hs
    rw [← hlow, hlast] at hsingle
    exact of_decide_eq_true hsingle
  · obtain ⟨-, -, hlen, hsingle⟩ := rivals_bareEndings s hs
    obtain ⟨stem, hstem⟩ := hsuf
    have hne : s.toList ≠ [] := fun h => by simp [h] at hlen
    rw [← hstem, List.getLast?_append_of_ne_nil stem hne] at hlast
    rw [hlast] at hsingle
    exact of_decide_eq_true hsingle

end IsBarePlural

/-- A word that does not end in an `s` is changed only if it is one of these plurals. -/
theorem isBarePlural_of_singularWord_ne (hw : IsWord w)
    (hs : ∀ x ∈ w.getLast?, x.toLower ≠ 's') (hne : singularWord w ≠ w) : IsBarePlural w := by
  rcases singularWord_eq_self_or_applied w with heq | ⟨e, he, -, hfits, happ⟩
  · exact absurd heq hne
  obtain ⟨stem, hstem, -⟩ := fits_iff.1 hfits
  rcases bare_of_mem_rewrites e he with hk | hpat | ⟨hguard, s, hs, heq⟩ | ⟨s, hs, heq⟩
  · rw [happ, hw.applied_eq_self he hk hfits] at hne
    exact absurd rfl hne
  · obtain ⟨u, hu⟩ := hpat
    have hlast : (lower w).getLast? = some 's' := by
      rw [hstem, ← hu, ← List.append_assoc, List.getLast?_concat]
    rw [lower, List.getLast?_map, Option.map_eq_some_iff] at hlast
    obtain ⟨x, hx, hxs⟩ := hlast
    exact absurd hxs (hs x hx)
  · exact .word s hs (((fits_iff_of_wholeWord hguard).1 hfits).trans heq)
  · exact .ending s hs ⟨stem, by rw [hstem, heq]⟩

theorem singularName_append_s (hlast : lastWord (p ++ [c]) = v ++ [c]) (hc : c.toLower = 's')
    (hfind : rewrites.find? (·.fits (lower v ++ ['s'])) = some bareS) :
    singularName (p ++ [c]) = p := by
  obtain ⟨q, hq⟩ := lastWord_suffix (p ++ [c])
  rw [hlast, ← List.append_assoc] at hq
  obtain rfl := (List.append_inj' hq rfl).1
  rw [List.append_assoc] at hlast ⊢
  have hword : singularWord (v ++ [c]) = v := by
    rw [singularWord_eq_applied (e := bareS), applied_bareS]
    rw [← hfind]
    simp [lower, hc]
  rw [singularName_append (by simp) hlast, hword]

/-- Behind such a plural a final `s` is dropped, whether or not it belongs to the last word. -/
theorem IsBarePlural.singularName_append_s (h : IsBarePlural (lastWord p)) (hc : c.toLower = 's') :
    singularName (p ++ [c]) = p := by
  have hne : p ≠ [] := fun hp => by
    have := h.two_le_length
    rw [hp] at this
    exact absurd this (by decide)
  obtain ⟨q, w, rfl, hlast, hw, -⟩ := exists_eq_append_lastWord hne
  rw [hlast] at h
  rcases lastWord_concat_cases hlast hw h.two_le_length c with hcase | ⟨x, hx, hcase⟩ | hcase
  · exact Noun.singularName_append_s (v := []) hcase hc find?_s
  · exact Noun.singularName_append_s (v := [x]) hcase hc (h.find?_getLast_s hx)
  · exact Noun.singularName_append_s hcase hc h.find?_append_s

theorem singularName_ne_self (h : singularWord (lastWord p) ≠ lastWord p) : singularName p ≠ p := by
  have hne : p ≠ [] := fun hp => h (by rw [hp]; decide)
  obtain ⟨q, w, rfl, hlast, -, heq⟩ := exists_eq_append_lastWord hne
  rw [hlast] at h
  rw [heq]
  exact fun hw => h (List.append_cancel_left hw)

/-- A name hides a plural behind a final `s`: without the `s` it ends in a plural that has none, or
the `s` is a last word of its own and the rest is a plural. -/
inductive HidesPlural : List Char → Prop
  | behind (rest : List Char) (final : Char) (hfinal : final = 's' ∨ final = 'S')
      (h : IsBarePlural (lastWord rest)) : HidesPlural (rest ++ [final])
  | beside (rest : List Char) (hlast : lastWord (rest ++ ['S']) = ['S'])
      (h : singularName rest ≠ rest) : HidesPlural (rest ++ ['S'])

theorem HidesPlural.singularName_ne {s : List Char} (h : HidesPlural s) :
    singularName (singularName s) ≠ singularName s := by
  cases h with
  | behind rest final hfinal h =>
    have hlower : final.toLower = 's' := by rcases hfinal with rfl | rfl <;> rfl
    rw [h.singularName_append_s hlower]
    exact singularName_ne_self h.singularWord_ne
  | beside rest hlast h =>
    rw [Noun.singularName_append_s (v := []) hlast (by decide) find?_s]
    exact h

/-- What is left when a final `s` is lost is a singular, unless the name hides a plural. -/
theorem hidesPlural_of_losesS (h : LosesS p v c) (hne : singularName (p ++ v) ≠ p ++ v) :
    HidesPlural (p ++ v ++ [c]) := by
  by_cases hv : v = []
  · subst hv
    rw [List.append_nil] at hne ⊢
    rcases h.eq_nil_or_startsWord with rfl | ⟨rfl, -⟩
    · exact absurd singularName_nil hne
    · have hlast := h.lastWord_eq
      rw [List.append_nil] at hlast
      exact .beside p hlast hne
  · refine .behind (p ++ v) c (eq_s_or_eq_S h.letter) ?_
    have hpv : p ++ v ≠ [] := List.append_ne_nil_of_right_ne_nil p hv
    refine isBarePlural_of_singularWord_ne (isWord_lastWord hpv) (fun x hx => ?_)
      fun h => hne (singularName_eq_self h)
    -- the last word ends as the whole name does
    obtain ⟨q, hq⟩ := lastWord_suffix (p ++ v)
    have hlast : (p ++ v).getLast? = some x := by
      rw [← hq, List.getLast?_append, hx]
      rfl
    rw [List.getLast?_append_of_ne_nil p hv] at hlast
    exact h.single x hlast

/-- Exactly the names that hide a plural have a singular that is not its own singular. -/
theorem singularize_singularize_eq_iff (s : String) :
    singularize (singularize s) = singularize s ↔ ¬ HidesPlural s.toList := by
  have hlist : singularize (singularize s) = singularize s ↔
      singularName (singularName s.toList) = singularName s.toList := by
    rw [← String.toList_inj, toList_singularize, toList_singularize]
  rw [hlist]
  constructor
  · exact fun h hhides => hhides.singularName_ne h
  · intro h
    rcases singularName_singularName_or_losesS s.toList with heq | ⟨p, v, c, heq, hloses⟩
    · exact heq
    · rw [heq] at h ⊢
      rw [hloses.singularName_eq]
      exact Decidable.byContradiction fun hne => h (hidesPlural_of_losesS hloses hne)

/-- The singular of `Peoples` is `People`, whose singular is `Person`. -/
theorem singularize_peoples_ne : singularize (singularize "Peoples") ≠ singularize "Peoples" := by
  decide +kernel

end CloudAccessors.Noun
