import CloudAccessors.Noun.Singular

/-!
# The last word of a name

Only the last word of a name is put in the singular, so what becomes of a name depends on where its
last word begins. `lastWord_cons_cons` finds it. A text in which no second word begins is a word
wherever it stands (`IsWord`): it is in the last word of every name that ends in it
(`suffix_lastWord_append`), and is all of it if a word begins there
(`lastWord_append_of_startsWord`). So the last word is rewritten as if it stood alone
(`singularize_append`).
-/

namespace CloudAccessors.Noun

open Unicode

variable {p s t w : List Char} {c d x : Char}

/-- The last word of a name; nothing if the name is empty. -/
def lastWord (s : List Char) : List Char := (words s).getLast?.getD []

/-- A text in which no second word begins. -/
def IsWord (w : List Char) : Prop := words w = [w]

instance : DecidablePred IsWord := fun w => inferInstanceAs (Decidable (words w = [w]))

/-! ### Where words begin -/

theorem isUppercase_of_startsWord (h : startsWord x c next?) : isUppercase c := by
  rw [startsWord, Bool.and_eq_true] at h
  exact h.1

theorem words_ne_nil (h : s ≠ []) : words s ≠ [] := fun hw => by
  have := flatten_words s
  rw [hw] at this
  exact h this.symm

theorem isWord_singleton (c : Char) : IsWord [c] := rfl

theorem IsWord.ne_nil (h : IsWord w) : w ≠ [] := by
  rintro rfl
  cases h

theorem isWord_of_words_eq_singleton (h : words s = [w]) : IsWord s := by
  have := flatten_words s
  rw [h, List.flatten_singleton] at this
  rw [IsWord, h, this]

theorem isWord_cons_cons :
    IsWord (c :: d :: t) ↔ startsWord c d t.head? = false ∧ IsWord (d :: t) := by
  have hne : words (d :: t) ≠ [] := words_ne_nil (List.cons_ne_nil d t)
  constructor
  · intro h
    rw [IsWord, words] at h
    cases hs : startsWord c d t.head? with
    | true => simp [hs, hne] at h
    | false =>
      rw [hs, if_neg Bool.false_ne_true] at h
      cases hw : words (d :: t) with
      | nil => exact absurd hw hne
      | cons first more =>
        simp only [hw, joinFirst, List.cons.injEq] at h
        exact ⟨rfl, isWord_of_words_eq_singleton (h.2 ▸ hw)⟩
  · rintro ⟨hs, hw⟩
    rw [IsWord, words, hs, if_neg Bool.false_ne_true, hw, joinFirst]

theorem IsWord.of_suffix (h : IsWord w) (ht : t ≠ []) (hsuf : t <:+ w) : IsWord t := by
  obtain ⟨p, rfl⟩ := hsuf
  induction p with
  | nil => exact h
  | cons c p ih =>
    refine ih ?_
    cases hp : p ++ t with
    | nil => exact absurd (List.append_eq_nil_iff.1 hp).2 ht
    | cons d rest =>
      rw [List.cons_append, hp] at h
      exact (isWord_cons_cons.1 h).2

/-- The end of a word may be replaced, if the character in front of it and the next one stay. -/
theorem IsWord.replace_end (h : IsWord (p ++ x :: t)) (hw : IsWord (x :: w))
    (hhead : w.head? = t.head?) : IsWord (p ++ x :: w) := by
  induction p with
  | nil => exact hw
  | cons c p ih =>
    cases p with
    | nil =>
      have := (isWord_cons_cons.1 h).1
      exact isWord_cons_cons.2 ⟨hhead ▸ this, hw⟩
    | cons d p =>
      obtain ⟨hs, htail⟩ := isWord_cons_cons.1 h
      refine isWord_cons_cons.2 ⟨?_, ih htail⟩
      cases p <;> exact hs

/-! ### The last word -/

theorem IsWord.lastWord_eq (h : IsWord w) : lastWord w = w := by rw [lastWord, h]; rfl

theorem lastWord_cons_cons :
    lastWord (c :: d :: t) = if IsWord (c :: d :: t) then c :: d :: t else lastWord (d :: t) := by
  split
  · rename_i h
    exact h.lastWord_eq
  rename_i h
  have hne : words (d :: t) ≠ [] := words_ne_nil (List.cons_ne_nil d t)
  cases hw : words (d :: t) with
  | nil => exact absurd hw hne
  | cons first more =>
    cases hs : startsWord c d t.head? with
    | true => simp [lastWord, words, hs, hw]
    | false =>
      -- the character joins the first word, which is not the last one
      have hmore : more ≠ [] := fun hmore =>
        h (isWord_cons_cons.2 ⟨hs, isWord_of_words_eq_singleton (hmore ▸ hw)⟩)
      obtain ⟨second, rest, rfl⟩ := List.exists_cons_of_ne_nil hmore
      simp [lastWord, words, hs, hw, joinFirst]

theorem flatten_dropLast_append_lastWord (s : List Char) :
    (words s).dropLast.flatten ++ lastWord s = s := by
  cases hw : words s with
  | nil => simpa [lastWord, hw] using flatten_words s
  | cons first more =>
    have hsplit := List.dropLast_concat_getLast (List.cons_ne_nil first more)
    calc (first :: more).dropLast.flatten ++ lastWord s
        = (first :: more).dropLast.flatten ++ [(first :: more).getLast (by simp)].flatten := by
          simp [lastWord, hw, List.getLast?_eq_some_getLast]
      _ = (words s).flatten := by rw [← List.flatten_append, hsplit, hw]
      _ = s := flatten_words s

theorem lastWord_suffix (s : List Char) : lastWord s <:+ s :=
  ⟨_, flatten_dropLast_append_lastWord s⟩

theorem isWord_lastWord (h : s ≠ []) : IsWord (lastWord s) := by
  induction s using words.induct with
  | case1 => exact absurd rfl h
  | case2 c => exact isWord_singleton c
  | case3 c d t hs ih | case4 c d t hs ih =>
    rw [lastWord_cons_cons]
    split
    · assumption
    · exact ih (List.cons_ne_nil d t)

/-- In front of a name there may stand anything: its last word is in that of the whole. -/
theorem suffix_lastWord_append (h : IsWord w) (p : List Char) : w <:+ lastWord (p ++ w) := by
  induction p with
  | nil => exact h.lastWord_eq.symm ▸ List.suffix_rfl
  | cons c p ih =>
    cases hp : p ++ w with
    | nil => exact absurd (List.append_eq_nil_iff.1 hp).2 h.ne_nil
    | cons d rest =>
      rw [hp] at ih
      rw [List.cons_append, hp, lastWord_cons_cons]
      split
      · exact (ih.trans (lastWord_suffix _)).trans (List.suffix_cons c _)
      · exact ih

theorem lastWord_append_of_startsWord (hs : startsWord x c t.head?) (hw : IsWord (c :: t))
    (p : List Char) : lastWord (p ++ x :: c :: t) = c :: t := by
  have hnot : ∀ q, ¬ IsWord (q ++ x :: c :: t) := fun q h => by
    have hsuf : IsWord (x :: c :: t) := h.of_suffix (List.cons_ne_nil x _) (List.suffix_append q _)
    rw [isWord_cons_cons, hs] at hsuf
    exact Bool.noConfusion hsuf.1
  -- with a boundary in it the name is not a single word, so that its first character is passed over
  induction p with
  | nil =>
    have := hnot []
    rw [List.nil_append] at this
    rw [List.nil_append, lastWord_cons_cons, if_neg this, hw.lastWord_eq]
  | cons d p ih =>
    cases hp : p ++ x :: c :: t with
    | nil => simp at hp
    | cons e rest =>
      have := hnot (d :: p)
      rw [List.cons_append, hp] at this
      rw [List.cons_append, hp, lastWord_cons_cons, if_neg this, ← hp, ih]

theorem startsWord_of_lastWord_eq (h : lastWord (p ++ x :: c :: t) = c :: t) :
    startsWord x c t.head? := by
  cases hs : startsWord x c t.head? with
  | true => rfl
  | false =>
    -- otherwise the last word would have `x` in it, too
    have hw : IsWord (c :: t) := h ▸ isWord_lastWord (by simp)
    have hx : IsWord (x :: c :: t) := isWord_cons_cons.2 ⟨hs, hw⟩
    have := (suffix_lastWord_append hx p).length_le
    rw [h] at this
    simp only [List.length_cons] at this
    omega

/-- A word that begins in the same way may stand for the last one. -/
theorem lastWord_append_congr {w' : List Char} (h : lastWord (p ++ w) = w) (hne : w ≠ [])
    (hw' : IsWord w') (htake : w'.take 2 = w.take 2) : lastWord (p ++ w') = w' := by
  rcases List.eq_nil_or_concat p with rfl | ⟨q, x, rfl⟩
  · exact hw'.lastWord_eq
  obtain ⟨c, t, rfl⟩ := List.exists_cons_of_ne_nil hne
  obtain ⟨c', t', rfl⟩ := List.exists_cons_of_ne_nil hw'.ne_nil
  have hhead : c' = c ∧ t'.head? = t.head? := by
    cases t <;> cases t' <;> simp_all
  obtain ⟨rfl, hhead⟩ := hhead
  rw [List.concat_eq_append, List.append_assoc] at h ⊢
  have hs := startsWord_of_lastWord_eq h
  exact lastWord_append_of_startsWord (hhead ▸ hs) hw' q

/-- One more character is a last word, begins one together with the character in front of it, or
belongs to the last word. -/
theorem lastWord_concat_cases (h : lastWord (p ++ w) = w) (hw : IsWord w) (hlen : 2 ≤ w.length)
    (c : Char) :
    lastWord (p ++ w ++ [c]) = [c] ∨
      (∃ x, w.getLast? = some x ∧ lastWord (p ++ w ++ [c]) = [x, c]) ∨
      lastWord (p ++ w ++ [c]) = w ++ [c] := by
  obtain ⟨v, x, rfl⟩ : ∃ v x, w = v ++ [x] := by
    rcases List.eq_nil_or_concat w with rfl | ⟨v, x, rfl⟩
    · simp at hlen
    · exact ⟨v, x, List.concat_eq_append⟩
  have hv : v ≠ [] := by
    rintro rfl
    simp at hlen
  obtain ⟨u, y, rfl⟩ : ∃ u y, v = u ++ [y] := by
    rcases List.eq_nil_or_concat v with rfl | ⟨u, y, rfl⟩
    · exact absurd rfl hv
    · exact ⟨u, y, List.concat_eq_append⟩
  cases hx : startsWord x c none with
  | true =>
    -- a word begins at the new character
    left
    have := lastWord_append_of_startsWord (t := []) hx (isWord_singleton c) (p ++ (u ++ [y]))
    simpa using this
  | false =>
    have hxc : IsWord [x, c] := isWord_cons_cons.2 ⟨hx, isWord_singleton c⟩
    cases hy : startsWord y x (some c) with
    | true =>
      -- a word begins in front of it, now that a lowercase character follows
      refine .inr (.inl ⟨x, by simp, ?_⟩)
      have := lastWord_append_of_startsWord (t := [c]) hy hxc (p ++ u)
      simpa using this
    | false =>
      -- no other word begins than before
      refine .inr (.inr ?_)
      have hyxc : IsWord (y :: [x, c]) := isWord_cons_cons.2 ⟨hy, hxc⟩
      have hword : IsWord (u ++ y :: [x, c]) := by
        have := hw
        rw [List.append_assoc] at this
        exact this.replace_end hyxc rfl
      have htake : (u ++ y :: [x, c]).take 2 = (u ++ [y] ++ [x]).take 2 := by
        rcases u with _ | ⟨a, _ | ⟨b, u⟩⟩ <;> rfl
      have := lastWord_append_congr h (by simp) hword htake
      simpa using this

/-! ### Names in the singular -/

theorem singularName_nil : singularName [] = [] := rfl

theorem singularName_append (hne : w ≠ []) (h : lastWord (p ++ w) = w) :
    singularName (p ++ w) = p ++ singularWord w := by
  have hp : (words (p ++ w)).dropLast.flatten = p := by
    have := flatten_dropLast_append_lastWord (p ++ w)
    rw [h] at this
    exact List.append_cancel_right this
  cases hlast : (words (p ++ w)).getLast? with
  | none =>
    rw [lastWord, hlast, Option.getD_none] at h
    exact absurd h.symm hne
  | some last =>
    rw [lastWord, hlast, Option.getD_some] at h
    rw [singularName, hlast, hp, h]

theorem IsWord.singularName_eq (h : IsWord w) : singularName w = singularWord w :=
  singularName_append (p := []) h.ne_nil h.lastWord_eq

/-- Every name is taken apart at its last word. -/
theorem exists_eq_append_lastWord (h : s ≠ []) :
    ∃ p w, s = p ++ w ∧ lastWord s = w ∧ IsWord w ∧ singularName s = p ++ singularWord w := by
  obtain ⟨p, hp⟩ := lastWord_suffix s
  have hw := isWord_lastWord h
  refine ⟨p, lastWord s, hp.symm, rfl, hw, ?_⟩
  calc singularName s = singularName (p ++ lastWord s) := by rw [hp]
    _ = p ++ singularWord (lastWord s) := singularName_append hw.ne_nil (by rw [hp])

theorem singularName_eq_self (h : singularWord (lastWord s) = lastWord s) : singularName s = s := by
  by_cases hs : s = []
  · rw [hs, singularName_nil]
  · obtain ⟨p, w, rfl, hw, -, heq⟩ := exists_eq_append_lastWord hs
    rw [hw] at h
    rw [heq, h]

theorem toList_singularize (s : String) : (singularize s).toList = singularName s.toList :=
  String.toList_ofList

theorem singularize_append {p w : String} (h : (words (p ++ w).toList).getLast? = some w.toList) :
    singularize (p ++ w) = p ++ singularize w := by
  have hlast : lastWord (p.toList ++ w.toList) = w.toList := by
    rw [String.toList_append] at h
    rw [lastWord, h, Option.getD_some]
  have hword : IsWord w.toList := by
    rw [← hlast]
    refine isWord_lastWord fun hnil => ?_
    rw [String.toList_append, hnil] at h
    cases h
  rw [← String.toList_inj, toList_singularize, String.toList_append, String.toList_append,
    toList_singularize, hword.singularName_eq, singularName_append hword.ne_nil hlast]

/-- What stands in front of the last word stays, and what becomes of the last word does not depend
on it. -/
theorem singularize_eq_append_singularize {e p w : String}
    (hlast : (words e.toList).getLast? = some w.toList) (he : e = p ++ w) :
    singularize e = p ++ singularize w ∧ p.toList <+: (singularize e).toList ∧
      ∀ f q : String, (words f.toList).getLast? = some w.toList → f = q ++ w →
        ∃ r, singularize e = p ++ r ∧ singularize f = q ++ r := by
  subst he
  have heq := singularize_append hlast
  refine ⟨heq, ?_, ?_⟩
  · rw [heq, String.toList_append]
    exact List.prefix_append _ _
  · rintro f q hf rfl
    exact ⟨singularize w, heq, singularize_append hf⟩

theorem singularize_dbAddresses_vpcAddresses :
    (words "DBAddresses".toList).getLast? = some "Addresses".toList ∧
      (words "éVpc2Addresses".toList).getLast? = some "Addresses".toList ∧
      "DBAddresses" = "DB" ++ "Addresses" ∧ "éVpc2Addresses" = "éVpc2" ++ "Addresses" ∧
      singularize "DBAddresses" = "DBAddress" ∧
      ∃ r, singularize "DBAddresses" = "DB" ++ r ∧ singularize "éVpc2Addresses" = "éVpc2" ++ r := by
  have hdb : (words "DBAddresses".toList).getLast? = some "Addresses".toList := by decide
  have hvpc : (words "éVpc2Addresses".toList).getLast? = some "Addresses".toList := by decide
  have hword : singularize "Addresses" = "Address" := by decide +kernel
  obtain ⟨hsingular, -, hsame⟩ := singularize_eq_append_singularize (p := "DB") hdb (by decide)
  rw [hword] at hsingular
  exact ⟨hdb, hvpc, by decide, by decide, hsingular, hsame _ "éVpc2" hvpc (by decide)⟩

end CloudAccessors.Noun
