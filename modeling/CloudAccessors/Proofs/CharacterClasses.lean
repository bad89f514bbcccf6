import CloudAccessors.Unicode.Alphabetic
import CloudAccessors.Unicode.Case
import CloudAccessors.Unicode.Letter
import CloudAccessors.Unicode.Numeric
import CloudAccessors.Unicode.WhiteSpace

/-!
# How the character classes lie to each other

Two tables of ranges are compared in one walk through both: each range of the first one is held
against the first range of the second one that does not lie in front of it (`eachWithNext`). So no
character is uppercase and lowercase, every uppercase character is alphabetic, and no white space
is alphabetic or numeric. Every letter is alphabetic, and every decimal digit is numeric and not
alphabetic.
-/

namespace CloudAccessors.Unicode

namespace Ranges

variable {rs ss : Ranges} {ok : Nat × Nat → Option (Nat × Nat) → Bool} {lo n : Nat}

/-- The ranges without those in front of `lo`. -/
def startingAt (ss : Ranges) (lo : Nat) : Ranges := ss.dropWhile fun s => s.1 < lo && s.2 < lo

/-- Does `ok` hold of each range of the first table and the next one of the second table, if any? -/
def eachWithNext (ok : Nat × Nat → Option (Nat × Nat) → Bool) : Ranges → Ranges → Bool
  | [], _ => true
  | r :: rs, ss =>
    match ss.startingAt r.1 with
    | [] => ok r none && eachWithNext ok rs []
    | s :: rest => ok r (some s) && eachWithNext ok rs (s :: rest)

/-- Have two tables no code point in common? -/
def apart : Ranges → Ranges → Bool := eachWithNext fun r s? => s?.all (r.2 < ·.1)

/-- Does the second table have all code points of the first one? -/
def within : Ranges → Ranges → Bool :=
  eachWithNext fun r s? => s?.any fun s => s.1 ≤ r.1 && r.2 ≤ s.2

theorem contains_startingAt (h : lo ≤ n) : (ss.startingAt lo).contains n = ss.contains n := by
  induction ss with
  | nil => rfl
  | cons s ss ih =>
    rw [startingAt, List.dropWhile_cons]
    split
    · rename_i hs
      simp only [Bool.and_eq_true, decide_eq_true_eq] at hs
      rw [contains, if_neg (by omega), if_neg (by omega)]
      exact ih
    · rfl

theorem eachWithNext_cons {r : Nat × Nat} (h : eachWithNext ok (r :: rs) ss) :
    ok r (ss.startingAt r.1).head? ∧ eachWithNext ok rs (ss.startingAt r.1) := by
  rw [eachWithNext] at h
  split at h
  · rename_i hnil
    rw [hnil]
    exact Bool.and_eq_true_iff.1 h
  · rename_i s rest hcons
    rw [hcons]
    exact Bool.and_eq_true_iff.1 h

/-- A code point of the first table is looked for in what `ok` has been asked about. -/
theorem exists_of_eachWithNext (h : eachWithNext ok rs ss) (hn : rs.contains n) :
    ∃ r : Nat × Nat, ∃ tail : Ranges, r.1 ≤ n ∧ n ≤ r.2 ∧ ok r tail.head? ∧
      ss.contains n = tail.contains n := by
  induction rs generalizing ss with
  | nil => cases hn
  | cons r rs ih =>
    obtain ⟨hok, hrest⟩ := eachWithNext_cons h
    rw [contains] at hn
    split at hn
    · cases hn
    rename_i hlo
    have htail : (ss.startingAt r.1).contains n = ss.contains n :=
      contains_startingAt (Nat.le_of_not_lt hlo)
    split at hn
    · rename_i hhi
      exact ⟨r, ss.startingAt r.1, Nat.le_of_not_lt hlo, hhi, hok, htail.symm⟩
    · rw [← htail]
      exact ih hrest hn

theorem contains_eq_false_of_apart (h : rs.apart ss) (hn : rs.contains n) :
    ss.contains n = false := by
  obtain ⟨r, tail, -, hhi, hok, heq⟩ := exists_of_eachWithNext h hn
  rw [heq]
  cases tail with
  | nil => rfl
  | cons s tail =>
    have hs : r.2 < s.1 := of_decide_eq_true hok
    exact if_pos (by omega)

theorem contains_of_within (h : rs.within ss) (hn : rs.contains n) : ss.contains n := by
  obtain ⟨r, tail, hlo, hhi, hok, heq⟩ := exists_of_eachWithNext h hn
  rw [heq]
  cases tail with
  | nil => cases hok
  | cons s tail =>
    have hs : s.1 ≤ r.1 ∧ r.2 ≤ s.2 := by
      simpa only [List.head?_cons, Option.any_some, Bool.and_eq_true, decide_eq_true_eq] using hok
    rw [contains, if_neg (by omega), if_pos (by omega)]

end Ranges

variable {c : Char}

theorem isLowercase_of_isUppercase (h : isUppercase c) : isLowercase c = false := by
  have hapart : uppercaseRanges.apart lowercaseRanges := by decide +kernel
  exact Ranges.contains_eq_false_of_apart hapart h

theorem isAlphabetic_of_isUppercase (h : isUppercase c) : isAlphabetic c := by
  have hwithin : uppercaseRanges.within alphabeticRanges := by decide +kernel
  exact Ranges.contains_of_within hwithin h

theorem isAlphabetic_of_isWhiteSpace (h : isWhiteSpace c) : isAlphabetic c = false := by
  have hapart : whiteSpaceRanges.apart alphabeticRanges := by decide +kernel
  exact Ranges.contains_eq_false_of_apart hapart h

theorem isNumeric_of_isWhiteSpace (h : isWhiteSpace c) : isNumeric c = false := by
  have hapart : whiteSpaceRanges.apart numericRanges := by decide +kernel
  exact Ranges.contains_eq_false_of_apart hapart h

theorem isAlphabetic_of_isLetter (h : isLetter c) : isAlphabetic c := by
  have hwithin : letterRanges.within alphabeticRanges := by decide +kernel
  exact Ranges.contains_of_within hwithin h

theorem isNumeric_of_isDecimalDigit (h : isDecimalDigit c) : isNumeric c := by
  have hwithin : decimalDigitRanges.within numericRanges := by decide +kernel
  exact Ranges.contains_of_within hwithin h

theorem isAlphabetic_of_isDecimalDigit (h : isDecimalDigit c) : isAlphabetic c = false := by
  have hapart : decimalDigitRanges.apart alphabeticRanges := by decide +kernel
  exact Ranges.contains_eq_false_of_apart hapart h

end CloudAccessors.Unicode
