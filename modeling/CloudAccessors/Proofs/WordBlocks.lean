import CloudAccessors.Proofs.CharacterClasses
import CloudAccessors.Proofs.LastWords

/-!
# Names as rows of words

Where a word begins depends on the characters on both sides, so that a part of a name could split in
another way than it does inside of the name. Words that follow one another do not: what stands
behind them is uppercase, and an uppercase character tells no more than the end of the text
(`startsWord_some`). So a name may be cut wherever a word begins (`words_append_of_startsWord`), and
a row of its words is what the text of the row splits into (`words_flatten_row`).
-/

namespace CloudAccessors.Noun

open Unicode

variable {s t u v w : List Char} {c d e x : Char} {ws vs : List (List Char)}

theorem startsWord_some (hd : isUppercase d) : startsWord x c (some d) = startsWord x c none := by
  simp [startsWord, isLowercase_of_isUppercase hd]

/-! ### Cutting a name -/

theorem joinFirst_append (c : Char) (hne : ws ≠ []) (vs : List (List Char)) :
    joinFirst c (ws ++ vs) = joinFirst c ws ++ vs := by
  obtain ⟨w, ws, rfl⟩ := List.exists_cons_of_ne_nil hne
  rfl

/-- One more character in front of a name that is cut already. -/
theorem words_cons_append (hs : startsWord d e u.head? = startsWord d e v.head?)
    (h : words (e :: u) = words (e :: v) ++ ws) :
    words (d :: e :: u) = words (d :: e :: v) ++ ws := by
  rw [words, words, hs, h]
  split
  · rfl
  · exact joinFirst_append d (words_ne_nil (List.cons_ne_nil e v)) ws

/-- A name is cut in two where a word begins. -/
theorem words_append_of_startsWord (hs : startsWord x c t.head?) (p : List Char) :
    words (p ++ x :: c :: t) = words (p ++ [x]) ++ words (c :: t) := by
  induction p with
  | nil => simp [words, hs]
  | cons d p ih =>
    cases p with
    | nil => exact words_cons_append (startsWord_some (isUppercase_of_startsWord hs)) ih
    | cons e p =>
      refine words_cons_append ?_ ih
      cases p <;> rfl

/-! ### Words that follow one another -/

/-- Behind the first word another one begins, and the rest is split on its own. -/
theorem exists_startsWord_of_words_eq_cons (h : words s = w :: v :: vs) :
    ∃ p x c t, w = p ++ [x] ∧ words (c :: t) = v :: vs ∧ startsWord x c t.head? := by
  induction s using words.induct generalizing w with
  | case1 => cases h
  | case2 c => cases h
  | case3 c d rest hs ih =>
    rw [words, if_pos hs] at h
    obtain ⟨rfl, hrest⟩ := List.cons.inj h
    exact ⟨[], c, d, rest, rfl, hrest, hs⟩
  | case4 c d rest hs ih =>
    rw [words, if_neg hs] at h
    cases hw : words (d :: rest) with
    | nil => exact absurd hw (words_ne_nil (List.cons_ne_nil d rest))
    | cons first more =>
      rw [hw, joinFirst] at h
      obtain ⟨rfl, rfl⟩ := List.cons.inj h
      obtain ⟨p, x, c', t, rfl, hrest⟩ := ih hw
      exact ⟨c :: p, x, c', t, rfl, hrest⟩

/-- The same behind a row of words. -/
theorem exists_startsWord_of_words_eq_append (h : words s = w :: ws ++ v :: vs) :
    ∃ p x c t, (w :: ws).flatten = p ++ [x] ∧ words (c :: t) = v :: vs ∧
      startsWord x c t.head? := by
  induction ws generalizing s w with
  | nil =>
    rw [List.flatten_singleton]
    exact exists_startsWord_of_words_eq_cons h
  | cons w' ws ih =>
    obtain ⟨_, _, _, _, -, hrest, -⟩ := exists_startsWord_of_words_eq_cons h
    obtain ⟨p, x, c, t, hflat, hwords⟩ := ih hrest
    refine ⟨w ++ p, x, c, t, ?_, hwords⟩
    rw [List.flatten_cons, hflat, List.append_assoc]

/-- Both parts of a row of words are what their texts split into. -/
theorem words_flatten_of_eq_append (h : words s = ws ++ vs) :
    words ws.flatten = ws ∧ words vs.flatten = vs := by
  have hs : ws.flatten ++ vs.flatten = s := by rw [← List.flatten_append, ← h, flatten_words]
  rcases ws with _ | ⟨w, ws⟩
  · rw [List.flatten_nil, List.nil_append] at hs
    exact ⟨rfl, hs ▸ h⟩
  rcases vs with _ | ⟨v, vs⟩
  · rw [List.flatten_nil, List.append_nil] at hs
    rw [List.append_nil] at h
    exact ⟨hs ▸ h, rfl⟩
  obtain ⟨p, x, c, t, hflat, hwords, hstart⟩ := exists_startsWord_of_words_eq_append h
  have hvs : (v :: vs).flatten = c :: t := by rw [← hwords, flatten_words]
  have hcut := words_append_of_startsWord hstart p
  rw [hvs, hflat, List.append_assoc] at hs
  rw [hvs, hflat]
  have hfront : words (p ++ [x]) ++ words (c :: t) = w :: ws ++ words (c :: t) := by
    calc words (p ++ [x]) ++ words (c :: t) = words s := by rw [← hcut, ← hs]; rfl
      _ = w :: ws ++ words (c :: t) := by rw [h, hwords]
  exact ⟨List.append_cancel_right hfront, hwords⟩

/-- The words of a name make it up, none is empty, and any words that follow one another are the
words of the text that they make up. -/
theorem words_flatten_row (s : List Char) :
    (∀ w ∈ words s, w ≠ []) ∧ (words s).flatten = s ∧
      ∀ row : List (List Char), row <:+: words s → words row.flatten = row := by
  refine ⟨fun w => ne_nil_of_mem_words, flatten_words s, ?_⟩
  rintro row ⟨before, after, hrow⟩
  rw [List.append_assoc] at hrow
  have hrest := (words_flatten_of_eq_append hrow.symm).2
  exact (words_flatten_of_eq_append hrest).1

/-- The word `I` ends in front of an uppercase character, and just as well at the end of the
text. -/
theorem words_flatten_dbInstancesI :
    ["DB".toList, "Instances".toList, "I".toList] <:+: words "DBInstancesIPv4".toList ∧
      words "DBInstancesI".toList = ["DB".toList, "Instances".toList, "I".toList] := by
  have hrow : ["DB".toList, "Instances".toList, "I".toList] <:+: words "DBInstancesIPv4".toList :=
    ⟨[], ["Pv4".toList], by decide⟩
  exact ⟨hrow, (words_flatten_row "DBInstancesIPv4".toList).2.2 _ hrow⟩

end CloudAccessors.Noun
