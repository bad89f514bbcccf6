import CloudAccessors.Text.Trim

/-!
# What trimming leaves

`trim` only takes characters away (`trim_sublist`), and nothing from between two characters that are
not white space (`mem_trim_of_framed`). What it leaves does not end in white space
(`isWhiteSpace_of_getLast?_trim`).
-/

namespace CloudAccessors.Text

open Unicode

variable {a b c : Char} {cs u v w : List Char}

theorem trimEnd_sublist (cs : List Char) : (trimEnd cs).Sublist cs := by
  have := (List.dropWhile_sublist (l := cs.reverse) isWhiteSpace).reverse
  rwa [List.reverse_reverse] at this

theorem trim_sublist (cs : List Char) : (trim cs).Sublist cs :=
  (trimEnd_sublist _).trans (List.dropWhile_sublist _)

theorem not_mem_trim (h : c ∉ cs) : c ∉ trim cs := fun hc => h ((trim_sublist cs).mem hc)

/-- A character that is not white space ends the trimming at the start. -/
theorem trimStart_append_cons (ha : isWhiteSpace a = false) (u v : List Char) :
    trimStart (u ++ a :: v) = trimStart u ++ a :: v := by
  induction u with
  | nil => simp [trimStart, ha]
  | cons d u ih =>
    simp only [trimStart] at ih
    cases hd : isWhiteSpace d <;> simp [trimStart, hd, ih]

theorem trimEnd_append_cons (ha : isWhiteSpace a = false) (u v : List Char) :
    trimEnd (u ++ a :: v) = u ++ a :: trimEnd v := by
  have := trimStart_append_cons ha v.reverse u.reverse
  simp only [trimStart] at this
  simp [trimEnd, this]

theorem trimStart_eq_self_iff :
    trimStart cs = cs ↔ ∀ a, cs.head? = some a → isWhiteSpace a = false := by
  cases cs with
  | nil => simp [trimStart]
  | cons b cs =>
    simp only [List.head?_cons, Option.some.injEq, forall_eq']
    cases hb : isWhiteSpace b with
    | false => simp [trimStart, hb]
    | true =>
      refine iff_of_false (fun h => ?_) (by simp)
      have hle := (List.dropWhile_sublist (l := cs) isWhiteSpace).length_le
      have hlength := congrArg List.length h
      simp only [trimStart, List.dropWhile_cons_of_pos hb, List.length_cons] at hlength
      omega

theorem trimEnd_eq_self_iff :
    trimEnd cs = cs ↔ ∀ a, cs.getLast? = some a → isWhiteSpace a = false := by
  rw [trimEnd, List.reverse_eq_iff, ← List.head?_reverse]
  exact trimStart_eq_self_iff

theorem trim_eq_self (hstart : ∀ a, cs.head? = some a → isWhiteSpace a = false)
    (hend : ∀ a, cs.getLast? = some a → isWhiteSpace a = false) : trim cs = cs := by
  rw [trim, trimStart_eq_self_iff.2 hstart, trimEnd_eq_self_iff.2 hend]

theorem trim_append_of_isBlank (h : isBlank u) (v : List Char) : trim (u ++ v) = trim v := by
  rw [trim, trimStart, List.dropWhile_append_of_pos (List.all_eq_true.1 h)]
  rfl

theorem mem_trim_of_framed (ha : isWhiteSpace a = false) (hb : isWhiteSpace b = false)
    (hc : c ∈ v) : c ∈ trim (u ++ a :: (v ++ b :: w)) := by
  have hend := trimEnd_append_cons hb (trimStart u ++ a :: v) w
  rw [List.append_assoc, List.cons_append] at hend
  rw [trim, trimStart_append_cons ha, hend]
  simp [hc]

theorem isWhiteSpace_of_getLast?_trim (h : (trim cs).getLast? = some a) :
    isWhiteSpace a = false := by
  have ha := List.head?_dropWhile_not isWhiteSpace (trimStart cs).reverse
  rw [trim, trimEnd, List.getLast?_reverse] at h
  rw [h] at ha
  simpa using ha

end CloudAccessors.Text
