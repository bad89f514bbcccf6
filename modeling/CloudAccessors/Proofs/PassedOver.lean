import CloudAccessors.Proofs.JsonGrammar

/-!
# Values that are passed over

The grammar of values (`IsText`), nested to any depth, and what passing over them comes to.
`skipIn` keeps a stack of open containers instead of following the grammar, and so what it does with
a text is stated for each kind of phrase and with any stack below (`Phrase.PassedOver`): a value
leaves the stack as it was, elements and members close their container (`IsText.passedOver`).
-/

namespace CloudAccessors.Json

variable {c : Char} {cs t v g r rest : List Char} {outer : List Container}

/-! ### The grammar -/

/-- The kinds of phrases. An element is a value with white space around it. -/
inductive Phrase where
  | value
  | element
  | elements
  | member
  | members

/-- `IsText k t`: the text `t` is a phrase of the kind `k`. -/
inductive IsText : Phrase → List Char → Prop
  | null : IsText .value "null".toList
  | true : IsText .value "true".toList
  | false : IsText .value "false".toList
  | number {t : List Char} (h : IsNumber t) : IsText .value t
  | string {t : List Char} (h : IsStringText t) : IsText .value ('"' :: (t ++ ['"']))
  | emptyArray {g : List Char} (h : IsGap g) : IsText .value ('[' :: (g ++ [']']))
  | array {t : List Char} (h : IsText .elements t) : IsText .value ('[' :: (t ++ [']']))
  | emptyObject {g : List Char} (h : IsGap g) : IsText .value ('\x7b' :: (g ++ ['\x7d']))
  | object {t : List Char} (h : IsText .members t) : IsText .value ('\x7b' :: (t ++ ['\x7d']))
  | element {a v b : List Char} (ha : IsGap a) (h : IsText .value v) (hb : IsGap b) :
      IsText .element (a ++ (v ++ b))
  | lastElement {t : List Char} (h : IsText .element t) : IsText .elements t
  | moreElements {t u : List Char} (ht : IsText .element t) (hu : IsText .elements u) :
      IsText .elements (t ++ ',' :: u)
  | member {a k b t : List Char} (ha : IsGap a) (hk : IsStringText k) (hb : IsGap b)
      (h : IsText .element t) : IsText .member (a ++ '"' :: (k ++ '"' :: (b ++ ':' :: t)))
  | lastMember {t : List Char} (h : IsText .member t) : IsText .members t
  | moreMembers {t u : List Char} (ht : IsText .member t) (hu : IsText .members u) :
      IsText .members (t ++ ',' :: u)

/-- A text that ends the value in front of it. -/
def Ends (rest : List Char) : Prop :=
  ∃ c tail, rest = c :: tail ∧ (isSpace c ∨ c = ',' ∨ c = ']' ∨ c = '\x7d')

theorem Ends.endsNumber (h : Ends rest) : EndsNumber rest := by
  obtain ⟨c, tail, rfl, hc⟩ := h
  have hmem : c ∈ [' ', '\n', '\t', '\r', ',', ']', '\x7d'] := by
    rcases hc with hc | rfl | rfl | rfl
    · have := isSpace_iff.1 hc
      simp only [List.mem_cons, List.not_mem_nil, or_false] at this ⊢
      rcases this with h | h | h | h <;> simp [h]
    all_goals decide
  have hall : ∀ c ∈ [' ', '\n', '\t', '\r', ',', ']', '\x7d'],
      c.isDigit = false ∧ c ≠ '.' ∧ c ≠ 'e' ∧ c ≠ 'E' := by
    simp only [List.forall_mem_cons]
    exact ⟨by decide, by decide, by decide, by decide, by decide, by decide, by decide,
      List.forall_mem_nil _⟩
  obtain ⟨hdigit, hpoint, hlower, hupper⟩ := hall c hmem
  refine ⟨fun d hd => ?_, by simpa using hpoint, by simpa using hlower, by simpa using hupper⟩
  obtain rfl : c = d := by simpa using hd
  exact hdigit

theorem Ends.gap_append (hg : IsGap g) (h : Ends rest) : Ends (g ++ rest) := by
  cases g with
  | nil => exact h
  | cons d g => exact ⟨d, g ++ rest, rfl, .inl (isSpace_iff.2 (hg d (by simp)))⟩

/-! ### Scalars -/

theorem readWord_append (w rest : List Char) : readWord w (w ++ rest) = .ok rest := by
  induction w with
  | nil => rfl
  | cons c w ih => rw [List.cons_append, readWord, if_pos rfl, ih]

/-- A digit or a minus begins no other scalar. -/
theorem skipScalar_of_isNumber (h : IsNumber t) (hrest : Ends rest) :
    skipScalar (t ++ rest) = .ok rest := by
  have hskip := skipNumber_of_isNumber h hrest.endsNumber
  obtain ⟨c, cs, rfl, hc⟩ := h.exists_eq_cons
  rw [List.cons_append] at hskip ⊢
  rw [skipScalar, if_pos (by simpa using hc), hskip]
  all_goals rintro rfl; revert hc; decide

theorem isSpace_of_isDigit (h : c = '-' ∨ c.isDigit) : isSpace c = false := by
  refine Bool.eq_false_iff.2 fun hspace => ?_
  have hc := isSpace_iff.1 hspace
  simp only [List.mem_cons, List.not_mem_nil, or_false] at hc
  rcases hc with rfl | rfl | rfl | rfl <;> revert h <;> decide

/-- No value begins with white space or a closing bracket. -/
theorem exists_eq_cons_of_isText (h : IsText .value v) :
    ∃ c cs, v = c :: cs ∧ isSpace c = false ∧ c ≠ ']' := by
  cases h with
  | number h =>
    obtain ⟨c, cs, rfl, hc⟩ := h.exists_eq_cons
    refine ⟨c, cs, rfl, isSpace_of_isDigit hc, ?_⟩
    rintro rfl
    revert hc
    decide
  | _ => exact ⟨_, _, rfl, by decide⟩

/-! ### One step through a text -/

theorem skipIn_scalar (hs : skipSpace cs = c :: t) (hc : c ≠ '[' ∧ c ≠ '\x7b')
    (hskip : skipScalar (c :: t) = .ok r) : skipIn outer cs = skipOut outer r := by
  rw [skipIn]
  split
  case h_1 h => rw [hs] at h; cases h
  case h_2 h => rw [hs] at h; cases h; exact absurd rfl hc.1
  case h_3 h => rw [hs] at h; cases h; exact absurd rfl hc.2
  case h_4 h =>
    rw [hs] at h
    cases h
    split <;> simp_all

theorem skipIn_emptyArray (hs : skipSpace cs = '[' :: t) (ht : skipSpace t = ']' :: r) :
    skipIn outer cs = skipOut outer r := by
  rw [skipIn]
  split
  case h_2 h =>
    rw [hs] at h
    cases h
    split <;> simp_all
  all_goals simp_all

theorem skipIn_array (hs : skipSpace cs = '[' :: t) (ht : ∀ u, skipSpace t ≠ ']' :: u) :
    skipIn outer cs = skipIn (.array :: outer) t := by
  rw [skipIn]
  split
  case h_2 h =>
    rw [hs] at h
    cases h
    split <;> simp_all
  all_goals simp_all

theorem skipIn_emptyObject (hs : skipSpace cs = '\x7b' :: t) (ht : skipSpace t = '\x7d' :: r) :
    skipIn outer cs = skipOut outer r := by
  rw [skipIn]
  split
  case h_3 h =>
    rw [hs] at h
    cases h
    split <;> simp_all
  all_goals simp_all

/-- A brace is no key, so that an object with a key is not empty. -/
theorem skipIn_object (hs : skipSpace cs = '\x7b' :: t) (hk : skipKey (skipSpace t) = .ok r) :
    skipIn outer cs = skipIn (.object :: outer) r := by
  rw [skipIn]
  split
  case h_3 h =>
    rw [hs] at h
    cases h
    split
    · rename_i hbrace
      rw [hbrace] at hk
      cases hk
    · split <;> simp_all
  all_goals simp_all

theorem skipIn_congr (h : skipSpace cs = skipSpace t) : skipIn outer cs = skipIn outer t := by
  rw [skipIn.eq_def outer cs, skipIn.eq_def outer t]
  dsimp only
  generalize skipSpace cs = x at h ⊢
  subst h
  rfl

theorem skipOut_array_comma (hs : skipSpace cs = ',' :: t) :
    skipOut (.array :: outer) cs = skipIn (.array :: outer) t := by
  rw [skipOut]
  split <;> simp_all

theorem skipOut_object_comma (hs : skipSpace cs = ',' :: t) (hk : skipKey (skipSpace t) = .ok r) :
    skipOut (.object :: outer) cs = skipIn (.object :: outer) r := by
  rw [skipOut]
  split
  case h_1 h =>
    rw [hs] at h
    cases h
    dsimp only
    split <;> simp_all
  all_goals simp_all

theorem skipOut_array_close (hs : skipSpace cs = ']' :: t) :
    skipOut (.array :: outer) cs = skipOut outer t := by
  rw [skipOut]
  split <;> simp_all

theorem skipOut_object_close (hs : skipSpace cs = '\x7d' :: t) :
    skipOut (.object :: outer) cs = skipOut outer t := by
  rw [skipOut]
  split <;> simp_all

theorem skipColon_gap (hg : IsGap g) (rest : List Char) :
    skipColon (g ++ ':' :: rest) = .ok rest := by
  have hspace : skipSpace (g ++ ':' :: rest) = ':' :: rest := skipSpace_gap_cons hg rfl rest
  simp only [skipColon, hspace]

/-- A key is passed over together with its colon. -/
theorem skipKey_of_isStringText (h : IsStringText t) (hg : IsGap g) (rest : List Char) :
    skipKey ('"' :: (t ++ '"' :: (g ++ ':' :: rest))) = .ok rest := by
  rw [skipKey, skipChars_of_isStringText h]
  exact skipColon_gap hg rest

/-! ### Phrases -/

/-- An array with elements is not taken for an empty one. -/
theorem exists_skipSpace_eq {k : Phrase} (h : IsText k t) (hk : k = .element ∨ k = .elements)
    (rest : List Char) : ∃ c tail, skipSpace (t ++ rest) = c :: tail ∧ c ≠ ']' := by
  induction h generalizing rest with
  | element ha h _ _ =>
    obtain ⟨c, cs, rfl, hspace, hc⟩ := exists_eq_cons_of_isText h
    rw [List.append_assoc, List.append_assoc]
    exact ⟨c, _, skipSpace_gap_cons ha hspace _, hc⟩
  | lastElement _ ih => exact ih (.inl rfl) rest
  | moreElements _ _ ih _ =>
    rw [List.append_assoc]
    exact ih (.inl rfl) _
  | _ => simp at hk

/-- What passing over a phrase comes to, inside of any containers and in front of what ends it. The
closing bracket of the innermost container is taken off with its elements or members. -/
def Phrase.PassedOver : Phrase → List Char → Prop
  | .value, t => ∀ outer rest, Ends rest → skipIn outer (t ++ rest) = skipOut outer rest
  | .element, t => ∀ outer rest, Ends rest →
      ∃ g, IsGap g ∧ skipIn outer (t ++ rest) = skipOut outer (g ++ rest)
  | .elements, t => ∀ outer rest,
      skipIn (.array :: outer) (t ++ ']' :: rest) = skipOut outer rest
  | .member, t => ∀ outer rest, Ends rest →
      ∃ r g, skipKey (skipSpace (t ++ rest)) = .ok r ∧ IsGap g ∧
        skipIn (.object :: outer) r = skipOut (.object :: outer) (g ++ rest)
  | .members, t => ∀ outer rest,
      ∃ r, skipKey (skipSpace (t ++ '\x7d' :: rest)) = .ok r ∧
        skipIn (.object :: outer) r = skipOut outer rest

theorem IsText.passedOver {k : Phrase} (h : IsText k t) : k.PassedOver t := by
  -- each phrase is passed over inside of its container, so the stack is another one in the
  -- hypothesis
  induction h with
  | null | true | false =>
    intro outer rest _
    refine skipIn_scalar rfl ?_ (readWord_append _ rest)
    decide
  | number h =>
    intro outer rest hrest
    have hskip := skipScalar_of_isNumber h hrest
    obtain ⟨c, cs, rfl, hc⟩ := h.exists_eq_cons
    refine skipIn_scalar (t := cs ++ rest) ?_ ?_ hskip
    · exact List.dropWhile_cons_of_neg (by simp [isSpace_of_isDigit hc])
    · constructor <;> (rintro rfl; revert hc; decide)
  | @string t h =>
    intro outer rest _
    refine skipIn_scalar (c := '"') (t := t ++ '"' :: rest) ?_ (by decide) ?_
    · rw [List.cons_append, List.append_assoc]
      rfl
    · exact skipChars_of_isStringText h rest
  | @emptyArray g h =>
    intro outer rest _
    rw [List.cons_append, List.append_assoc]
    exact skipIn_emptyArray rfl (skipSpace_gap_cons h rfl rest)
  | @array t h ih =>
    intro outer rest _
    rw [List.cons_append, List.append_assoc, List.singleton_append, ← ih]
    obtain ⟨c, tail, hspace, hc⟩ := exists_skipSpace_eq h (.inr rfl) (']' :: rest)
    refine skipIn_array rfl fun u hu => ?_
    rw [hspace] at hu
    exact hc (List.cons.inj hu).1
  | @emptyObject g h =>
    intro outer rest _
    rw [List.cons_append, List.append_assoc]
    exact skipIn_emptyObject rfl (skipSpace_gap_cons h rfl rest)
  | @object t h ih =>
    intro outer rest _
    obtain ⟨r, hkey, hskip⟩ := ih outer rest
    rw [List.cons_append, List.append_assoc, ← hskip]
    exact skipIn_object rfl hkey
  | @element a v b ha _ hb ih =>
    intro outer rest hrest
    refine ⟨b, hb, ?_⟩
    rw [List.append_assoc, List.append_assoc, skipIn_congr (skipSpace_append ha _)]
    exact ih outer (b ++ rest) (hrest.gap_append hb)
  | @lastElement t _ ih =>
    intro outer rest
    obtain ⟨g, hg, hskip⟩ := ih (.array :: outer) (']' :: rest) ⟨']', rest, rfl, by decide⟩
    rw [hskip]
    exact skipOut_array_close (skipSpace_gap_cons hg rfl rest)
  | @moreElements t u _ _ iht ihu =>
    intro outer rest
    obtain ⟨g, hg, hskip⟩ :=
      iht (.array :: outer) (',' :: (u ++ ']' :: rest)) ⟨',', _, rfl, by decide⟩
    rw [List.append_assoc, List.cons_append, hskip,
      skipOut_array_comma (skipSpace_gap_cons hg rfl _)]
    exact ihu outer rest
  | @member a k b t ha hk hb _ ih =>
    intro outer rest hrest
    obtain ⟨g, hg, hskip⟩ := ih (.object :: outer) rest hrest
    refine ⟨t ++ rest, g, ?_, hg, hskip⟩
    have htext : a ++ '"' :: (k ++ '"' :: (b ++ ':' :: t)) ++ rest =
        a ++ '"' :: (k ++ '"' :: (b ++ ':' :: (t ++ rest))) := by
      simp only [List.append_assoc, List.cons_append]
    rw [htext, skipSpace_gap_cons ha rfl]
    exact skipKey_of_isStringText hk hb _
  | @lastMember t _ ih =>
    intro outer rest
    obtain ⟨r, g, hkey, hg, hskip⟩ := ih outer ('\x7d' :: rest) ⟨'\x7d', rest, rfl, by decide⟩
    refine ⟨r, hkey, ?_⟩
    rw [hskip]
    exact skipOut_object_close (skipSpace_gap_cons hg rfl rest)
  | @moreMembers t u _ _ iht ihu =>
    intro outer rest
    obtain ⟨next, hnext, hmore⟩ := ihu outer rest
    obtain ⟨r, g, hkey, hg, hskip⟩ :=
      iht outer (',' :: (u ++ '\x7d' :: rest)) ⟨',', _, rfl, by decide⟩
    rw [List.append_assoc, List.cons_append]
    refine ⟨r, hkey, ?_⟩
    rw [hskip, skipOut_object_comma (skipSpace_gap_cons hg rfl _) hnext, hmore]

end CloudAccessors.Json
