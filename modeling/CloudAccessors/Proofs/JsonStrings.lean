import CloudAccessors.Json.Printer
import CloudAccessors.Json.Scanner

/-!
# Strings are read back

`escape` writes a character, and reading takes exactly that text off again (`readChars_escape`),
whatever follows; so a string is read back up to its closing quote (`readChars_flatMap_escape`). If
two quoted strings begin the same text, they are the same and end at the same place
(`quote_append_inj`): nothing inside of a string can be taken for what stands behind it.
-/

namespace CloudAccessors.Json

variable {c : Char} {cs r rest : List Char} {s t : String}

/-! ### One character -/

theorem readChars_end (rest : List Char) : readChars ('"' :: rest) = .ok ([], rest) := by
  rw [readChars]

theorem readChars_of_escape (h : readEscape cs = .ok (c, r)) :
    readChars ('\\' :: cs) = (readChars r).map fun (s, rest) => (c :: s, rest) := by
  rw [readChars]
  split
  · rename_i hcs
    rw [h] at hcs
    cases hcs
  · rename_i hcs
    rw [h] at hcs
    cases hcs
    rfl

theorem readChars_plain (hquote : c ≠ '"') (hslash : c ≠ '\\') (hcontrol : ¬ c.toNat < 0x20) :
    readChars (c :: rest) = (readChars rest).map fun (s, rest) => (c :: s, rest) := by
  rw [readChars]
  · rw [if_neg hcontrol]
  · exact hquote
  · exact hslash

theorem hexValue?_hexDigit : ∀ n < 16, hexValue? (hexDigit n) = some n := by decide

/-- A control is read back from its two last digits. -/
theorem readEscape_control (h : c.toNat < 0x20) (rest : List Char) :
    readEscape ('u' :: '0' :: '0' :: hexDigit (c.toNat / 16) :: hexDigit (c.toNat % 16) :: rest) =
      .ok (c, rest) := by
  have hzero : hexValue? '0' = some 0 := rfl
  have hhigh := hexValue?_hexDigit (c.toNat / 16) (by omega)
  have hlow := hexValue?_hexDigit (c.toNat % 16) (by omega)
  have hvalue : ((0 * 16 + 0) * 16 + c.toNat / 16) * 16 + c.toNat % 16 = c.toNat := by omega
  have hnotHigh : isHighSurrogate c.toNat = false := by
    simp only [isHighSurrogate, Bool.and_eq_false_iff, decide_eq_false_iff_not]
    omega
  have hnotLow : isLowSurrogate c.toNat = false := by
    simp only [isLowSurrogate, Bool.and_eq_false_iff, decide_eq_false_iff_not]
    omega
  simp only [readEscape, readUnit, hzero, hhigh, hlow, hvalue, hnotHigh, hnotLow,
    Bool.false_eq_true, if_false, Char.ofNat_toNat]

theorem readChars_escape (c : Char) (rest : List Char) :
    readChars (escape c ++ rest) = (readChars rest).map fun (s, rest) => (c :: s, rest) := by
  -- an escape of one letter
  have hletter (e a : Char) (ha : a ≠ 'u') (h : escaped? a = some e) :
      readChars ('\\' :: a :: rest) = (readChars rest).map fun (s, rest) => (e :: s, rest) := by
    refine readChars_of_escape ?_
    rw [readEscape, h]
    exact ha
  unfold escape
  split
  case isTrue h => subst h; exact hletter '"' '"' (by decide) rfl
  split
  case isTrue h => subst h; exact hletter '\\' '\\' (by decide) rfl
  split
  case isTrue h => subst h; exact hletter '\x08' 'b' (by decide) rfl
  split
  case isTrue h => subst h; exact hletter '\x0c' 'f' (by decide) rfl
  split
  case isTrue h => subst h; exact hletter '\n' 'n' (by decide) rfl
  split
  case isTrue h => subst h; exact hletter '\r' 'r' (by decide) rfl
  split
  case isTrue h => subst h; exact hletter '\t' 't' (by decide) rfl
  split
  case isTrue h => exact readChars_of_escape (readEscape_control h rest)
  case isFalse hquote hslash _ _ _ _ _ hcontrol => exact readChars_plain hquote hslash hcontrol

/-! ### Whole strings -/

/-- A string is read back, and what stands behind its closing quote is left. -/
theorem readChars_flatMap_escape (s rest : List Char) :
    readChars (s.flatMap escape ++ '"' :: rest) = .ok (s, rest) := by
  induction s with
  | nil => exact readChars_end rest
  | cons c s ih =>
    rw [List.flatMap_cons, List.append_assoc, readChars_escape, ih]
    rfl

theorem quote_append (s : String) (rest : List Char) :
    quote s ++ rest = '"' :: (s.toList.flatMap escape ++ '"' :: rest) := by
  simp [quote]

theorem quote_append_inj (h : quote s ++ r = quote t ++ rest) : s = t ∧ r = rest := by
  rw [quote_append, quote_append] at h
  have hread := readChars_flatMap_escape s.toList r
  rw [(List.cons.inj h).2, readChars_flatMap_escape] at hread
  obtain ⟨hst, hrest⟩ := Prod.mk.inj (Except.ok.inj hread)
  exact ⟨String.toList_inj.1 hst.symm, hrest.symm⟩

end CloudAccessors.Json
