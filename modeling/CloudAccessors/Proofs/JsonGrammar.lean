import CloudAccessors.Json.Skip
import CloudAccessors.Proofs.JsonStrings

/-!
# JSON texts

The grammar of JSON, stated on texts and apart from the readers (`IsText`). Strings may be spelled
with escapes, so that what a text between quotes stands for is a relation of its own (`Spells`); a
text that is only passed over may also hold surrogates without a partner (`IsStringText`). Numbers
have no bound. The readers of scalars take exactly such texts off the front of what follows:
`readChars_of_spells` and `skipChars_of_isStringText` for strings, `readNumeral_of_isNumber` for
numbers. Where a string can be read, reading it and passing over it leave the same rest
(`skipChars_of_readChars`).
-/

namespace CloudAccessors.Json

variable {a c : Char} {cs ds u s t r rest : List Char} {n m : Nat}

/-! ### White space -/

/-- White space between tokens. -/
def IsGap (cs : List Char) : Prop := ∀ c ∈ cs, c ∈ [' ', '\n', '\t', '\r']

theorem isSpace_iff : isSpace c ↔ c ∈ [' ', '\n', '\t', '\r'] := by
  simp only [isSpace, Bool.or_eq_true, decide_eq_true_eq, List.mem_cons, List.not_mem_nil, or_false,
    or_assoc]

theorem skipSpace_append (h : IsGap cs) (rest : List Char) :
    skipSpace (cs ++ rest) = skipSpace rest :=
  List.dropWhile_append_of_pos fun c hc => isSpace_iff.2 (h c hc)

theorem skipSpace_gap_cons (h : IsGap cs) (hc : isSpace c = false) (rest : List Char) :
    skipSpace (cs ++ c :: rest) = c :: rest := by
  rw [skipSpace_append h, skipSpace, List.dropWhile_cons_of_neg (by simp [hc])]

/-! ### Strings -/

/-- The escapes of one letter, and what they stand for. -/
def letterEscapes : List (Char × Char) :=
  [('"', '"'), ('\\', '\\'), ('/', '/'), ('b', '\x08'), ('f', '\x0c'), ('n', '\n'), ('r', '\r'),
   ('t', '\t')]

/-- `c` is the hexadecimal digit `n`, in either case. -/
def IsHexDigit (c : Char) (n : Nat) : Prop :=
  "0123456789abcdef".toList[n]? = some c ∨ "0123456789ABCDEF".toList[n]? = some c

/-- Four hexadecimal digits and their value. -/
inductive IsUnit : List Char → Nat → Prop
  | mk {a b c d : Char} {i j k l : Nat} (ha : IsHexDigit a i) (hb : IsHexDigit b j)
      (hc : IsHexDigit c k) (hd : IsHexDigit d l) :
      IsUnit [a, b, c, d] (((i * 16 + j) * 16 + k) * 16 + l)

/-- A character that may stand in a string as itself. -/
structure IsUnescaped (c : Char) : Prop where
  quote : c ≠ '"'
  backslash : c ≠ '\\'
  control : 0x20 ≤ c.toNat

/-- A text between the quotes of a string. -/
inductive IsStringText : List Char → Prop
  | nil : IsStringText []
  | plain {c : Char} {t : List Char} (hc : IsUnescaped c) (ht : IsStringText t) :
      IsStringText (c :: t)
  | letter {a c : Char} {t : List Char} (ha : (a, c) ∈ letterEscapes) (ht : IsStringText t) :
      IsStringText ('\\' :: a :: t)
  | unit {u t : List Char} {n : Nat} (hu : IsUnit u n) (ht : IsStringText t) :
      IsStringText ('\\' :: 'u' :: (u ++ t))

/-- The text `t` between quotes stands for the characters `s`. -/
inductive Spells : List Char → List Char → Prop
  | nil : Spells [] []
  | plain {c : Char} {t s : List Char} (hc : IsUnescaped c) (h : Spells t s) :
      Spells (c :: t) (c :: s)
  | letter {a c : Char} {t s : List Char} (ha : (a, c) ∈ letterEscapes) (h : Spells t s) :
      Spells ('\\' :: a :: t) (c :: s)
  | unit {u t s : List Char} {n : Nat} (hu : IsUnit u n) (hn : n < 0xD800 ∨ 0xDFFF < n)
      (h : Spells t s) : Spells ('\\' :: 'u' :: (u ++ t)) (Char.ofNat n :: s)
  | pair {u v t s : List Char} {high low : Nat} (hu : IsUnit u high) (hv : IsUnit v low)
      (hhigh : 0xD800 ≤ high ∧ high ≤ 0xDBFF) (hlow : 0xDC00 ≤ low ∧ low ≤ 0xDFFF)
      (h : Spells t s) :
      Spells ('\\' :: 'u' :: (u ++ '\\' :: 'u' :: (v ++ t)))
        (Char.ofNat (0x10000 + (high - 0xD800) * 0x400 + (low - 0xDC00)) :: s)

theorem hexValue?_of_isHexDigit (h : IsHexDigit c n) : hexValue? c = some n := by
  have hlower : ∀ n < 16, ("0123456789abcdef".toList[n]?).bind hexValue? = some n := by decide
  have hupper : ∀ n < 16, ("0123456789ABCDEF".toList[n]?).bind hexValue? = some n := by decide
  rcases h with h | h
  · have hn : n < 16 := (List.getElem?_eq_some_iff.1 h).1
    have hvalue := hlower n hn
    rwa [h] at hvalue
  · have hn : n < 16 := (List.getElem?_eq_some_iff.1 h).1
    have hvalue := hupper n hn
    rwa [h] at hvalue

theorem readUnit_of_isUnit (h : IsUnit u n) (rest : List Char) :
    readUnit (u ++ rest) = .ok (n, rest) := by
  cases h with
  | mk ha hb hc hd =>
    simp only [List.cons_append, List.nil_append, readUnit, hexValue?_of_isHexDigit ha,
      hexValue?_of_isHexDigit hb, hexValue?_of_isHexDigit hc, hexValue?_of_isHexDigit hd]

theorem escaped?_of_mem (h : (a, c) ∈ letterEscapes) : a ≠ 'u' ∧ escaped? a = some c := by
  simp only [letterEscapes, List.mem_cons, Prod.mk.injEq, List.not_mem_nil, or_false] at h
  rcases h with ⟨rfl, rfl⟩ | ⟨rfl, rfl⟩ | ⟨rfl, rfl⟩ | ⟨rfl, rfl⟩ | ⟨rfl, rfl⟩ | ⟨rfl, rfl⟩ |
    ⟨rfl, rfl⟩ | ⟨rfl, rfl⟩ <;> decide

/-! #### Reading strings -/

theorem readChars_unescaped (hc : IsUnescaped c) (rest : List Char) :
    readChars (c :: rest) = (readChars rest).map fun (s, rest) => (c :: s, rest) :=
  readChars_plain hc.quote hc.backslash (Nat.not_lt.2 hc.control)

theorem readEscape_letter (h : (a, c) ∈ letterEscapes) (rest : List Char) :
    readEscape (a :: rest) = .ok (c, rest) := by
  obtain ⟨ha, hc⟩ := escaped?_of_mem h
  rw [readEscape, hc]
  exact ha

theorem isHighSurrogate_iff : isHighSurrogate n ↔ 0xD800 ≤ n ∧ n ≤ 0xDBFF := by
  simp only [isHighSurrogate, Bool.and_eq_true, decide_eq_true_eq]

theorem isLowSurrogate_iff : isLowSurrogate n ↔ 0xDC00 ≤ n ∧ n ≤ 0xDFFF := by
  simp only [isLowSurrogate, Bool.and_eq_true, decide_eq_true_eq]

theorem readEscape_unit (hu : IsUnit u n) (hn : n < 0xD800 ∨ 0xDFFF < n) (rest : List Char) :
    readEscape ('u' :: (u ++ rest)) = .ok (Char.ofNat n, rest) := by
  have hhigh : ¬ isHighSurrogate n := by rw [isHighSurrogate_iff]; omega
  have hlow : ¬ isLowSurrogate n := by rw [isLowSurrogate_iff]; omega
  simp only [readEscape, readUnit_of_isUnit hu, if_neg hhigh, if_neg hlow]

theorem readEscape_pair {v : List Char} (hu : IsUnit u n) (hv : IsUnit v m)
    (hn : 0xD800 ≤ n ∧ n ≤ 0xDBFF) (hm : 0xDC00 ≤ m ∧ m ≤ 0xDFFF) (rest : List Char) :
    readEscape ('u' :: (u ++ '\\' :: 'u' :: (v ++ rest))) =
      .ok (Char.ofNat (0x10000 + (n - 0xD800) * 0x400 + (m - 0xDC00)), rest) := by
  simp only [readEscape, readUnit_of_isUnit hu, isHighSurrogate_iff.2 hn, if_true, readLowSurrogate,
    readUnit_of_isUnit hv, isLowSurrogate_iff.2 hm, pairedChar]

/-- A string is read as what it stands for, whatever follows its closing quote. -/
theorem readChars_of_spells (h : Spells t s) (rest : List Char) :
    readChars (t ++ '"' :: rest) = .ok (s, rest) := by
  induction h with
  | nil => exact readChars_end rest
  | plain hc _ ih =>
    rw [List.cons_append, readChars_unescaped hc, ih]
    rfl
  | letter ha _ ih =>
    rw [List.cons_append, List.cons_append, readChars_of_escape (readEscape_letter ha _), ih]
    rfl
  | unit hu hn _ ih =>
    rw [List.cons_append, List.cons_append, List.append_assoc,
      readChars_of_escape (readEscape_unit hu hn _), ih]
    rfl
  | pair hu hv hhigh hlow _ ih =>
    rw [List.cons_append, List.cons_append, List.append_assoc, List.cons_append, List.cons_append,
      List.append_assoc, readChars_of_escape (readEscape_pair hu hv hhigh hlow _), ih]
    rfl

/-! #### Passing over strings -/

theorem skipChars_end (rest : List Char) : skipChars ('"' :: rest) = .ok rest := by
  rw [skipChars]

theorem skipChars_unescaped (hc : IsUnescaped c) (rest : List Char) :
    skipChars (c :: rest) = skipChars rest := by
  rw [skipChars]
  · rw [if_neg (Nat.not_lt.2 hc.control)]
  · exact hc.quote
  · exact hc.backslash

theorem skipChars_of_escape (h : skipEscape cs = .ok r) : skipChars ('\\' :: cs) = skipChars r := by
  rw [skipChars]
  split
  · rename_i hcs
    rw [h] at hcs
    cases hcs
  · rename_i hcs
    rw [h] at hcs
    cases hcs
    rfl

theorem skipEscape_letter (h : (a, c) ∈ letterEscapes) (rest : List Char) :
    skipEscape (a :: rest) = .ok rest := by
  obtain ⟨ha, hc⟩ := escaped?_of_mem h
  rw [skipEscape, hc]
  · rfl
  · exact ha

theorem skipEscape_unit (hu : IsUnit u n) (rest : List Char) :
    skipEscape ('u' :: (u ++ rest)) = .ok rest := by
  rw [skipEscape, readUnit_of_isUnit hu]
  rfl

theorem skipChars_of_isStringText (h : IsStringText t) (rest : List Char) :
    skipChars (t ++ '"' :: rest) = .ok rest := by
  induction h with
  | nil => exact skipChars_end rest
  | plain hc _ ih => rw [List.cons_append, skipChars_unescaped hc, ih]
  | letter ha _ ih =>
    rw [List.cons_append, List.cons_append, skipChars_of_escape (skipEscape_letter ha _), ih]
  | unit hu _ ih =>
    rw [List.cons_append, List.cons_append, List.append_assoc,
      skipChars_of_escape (skipEscape_unit hu _), ih]

theorem skipEscape_of_readUnit (h : readUnit cs = .ok (n, r)) : skipEscape ('u' :: cs) = .ok r := by
  rw [skipEscape, h]
  rfl

theorem skipChars_of_readLowSurrogate (h : readLowSurrogate n cs = .ok (c, r)) :
    skipChars cs = skipChars r := by
  unfold readLowSurrogate at h
  split at h
  · cases h
  · cases h
  · split at h
    · cases h
    rename_i hunit
    split at h
    · simp only [Except.ok.injEq, Prod.mk.injEq] at h
      obtain ⟨-, rfl⟩ := h
      exact skipChars_of_escape (skipEscape_of_readUnit hunit)
    · cases h
  · cases h

/-- The two units of a surrogate pair are passed over one after the other. -/
theorem skipChars_of_readEscape (h : readEscape cs = .ok (c, r)) :
    skipChars ('\\' :: cs) = skipChars r := by
  unfold readEscape at h
  split at h
  · cases h
  · split at h
    · cases h
    rename_i hunit
    rw [skipChars_of_escape (skipEscape_of_readUnit hunit)]
    split at h
    · exact skipChars_of_readLowSurrogate h
    split at h
    · cases h
    · cases h
      rfl
  · rename_i a rest hu
    cases ha : escaped? a with
    | none => rw [ha] at h; cases h
    | some e =>
      rw [ha] at h
      cases h
      have hskip : skipEscape (a :: r) = .ok r := by
        rw [skipEscape, ha]
        · rfl
        · exact hu
      exact skipChars_of_escape hskip

/-- Where a string can be read, passing over it leaves the same rest. -/
theorem skipChars_of_readChars (h : readChars cs = .ok (s, r)) : skipChars cs = .ok r := by
  -- a surrogate pair is one step of reading and two of passing over, hence the induction on the
  -- former
  induction cs using readChars.induct generalizing s with
  | case1 => simp [readChars] at h
  | case2 rest =>
    rw [readChars_end] at h
    cases h
    exact skipChars_end r
  | case3 rest fault he =>
    rw [readChars] at h
    split at h <;> simp_all
  | case4 rest c rest' he _ ih =>
    rw [readChars_of_escape he] at h
    rw [skipChars_of_readEscape he]
    cases hr : readChars rest' with
    | error fault => rw [hr] at h; cases h
    | ok p => rw [hr] at h; cases h; exact ih hr
  | case5 c rest hquote hslash hcontrol =>
    rw [readChars] at h <;> simp_all
  | case6 c rest hquote hslash hcontrol ih =>
    have hc : IsUnescaped c := ⟨hquote, hslash, Nat.le_of_not_lt hcontrol⟩
    rw [readChars_unescaped hc] at h
    rw [skipChars_unescaped hc]
    cases hr : readChars rest with
    | error fault => rw [hr] at h; cases h
    | ok p => rw [hr] at h; cases h; exact ih hr

/-! ### Numbers -/

/-- A row of digits. -/
structure IsDigits (ds : List Char) : Prop where
  ne_nil : ds ≠ []
  digit : ∀ c ∈ ds, c.isDigit

/-- The integer part of a number, which has no leading zeros. -/
inductive IsWhole : List Char → Prop
  | zero : IsWhole ['0']
  | digits {c : Char} {ds : List Char} (h : IsDigits (c :: ds)) (hc : c ≠ '0') : IsWhole (c :: ds)

inductive IsFraction : List Char → Prop
  | absent : IsFraction []
  | present {ds : List Char} (h : IsDigits ds) : IsFraction ('.' :: ds)

inductive IsExponent : List Char → Prop
  | absent : IsExponent []
  | present {e : Char} {sign ds : List Char} (he : e = 'e' ∨ e = 'E')
      (hsign : sign = [] ∨ sign = ['+'] ∨ sign = ['-']) (h : IsDigits ds) :
      IsExponent (e :: (sign ++ ds))

inductive IsNumber : List Char → Prop
  | mk {sign whole fraction exponent : List Char} (hsign : sign = [] ∨ sign = ['-'])
      (hwhole : IsWhole whole) (hfraction : IsFraction fraction) (hexponent : IsExponent exponent) :
      IsNumber (sign ++ (whole ++ (fraction ++ exponent)))

/-! #### Reading numbers -/

/-- A text that does not begin with a digit. -/
def NoDigit (rest : List Char) : Prop := ∀ c, rest.head? = some c → c.isDigit = false

/-- A text that cannot be taken for more of the number in front of it. -/
structure EndsNumber (rest : List Char) : Prop where
  digit : NoDigit rest
  point : rest.head? ≠ some '.'
  exponent : rest.head? ≠ some 'e' ∧ rest.head? ≠ some 'E'

variable (atEnd : Fault)

theorem readDigits_of_isDigits (h : IsDigits ds) (hrest : NoDigit rest) :
    readDigits atEnd (ds ++ rest) = .ok (ds, rest) := by
  have htake : (ds ++ rest).takeWhile Char.isDigit = ds := by
    rw [List.takeWhile_append_of_pos h.digit]
    cases rest with
    | nil => simp
    | cons c rest => simp [hrest c rfl]
  have hdrop : (ds ++ rest).dropWhile Char.isDigit = rest := by
    rw [List.dropWhile_append_of_pos h.digit]
    cases rest with
    | nil => rfl
    | cons c rest => exact List.dropWhile_cons_of_neg (by simp [hrest c rfl])
  obtain ⟨d, more, rfl⟩ := List.exists_cons_of_ne_nil h.ne_nil
  rw [readDigits, htake, hdrop]

theorem IsWhole.isDigits (h : IsWhole ds) : IsDigits ds := by
  cases h with
  | zero => exact ⟨List.cons_ne_nil _ _, List.forall_mem_singleton.2 rfl⟩
  | digits h _ => exact h

theorem readWhole_of_isWhole (h : IsWhole ds) (hrest : NoDigit rest) :
    readWhole atEnd (ds ++ rest) = .ok (ds, rest) := by
  rw [readWhole, readDigits_of_isDigits atEnd h.isDigits hrest]
  split
  · rename_i heq
    cases h with
    | zero => simp at heq
    | digits _ hc => simp at heq; exact absurd heq.1.1 hc
  · rfl

theorem readFraction_of_isFraction (h : IsFraction ds) (hrest : NoDigit rest)
    (hpoint : rest.head? ≠ some '.') :
    ∃ fraction, readFraction atEnd (ds ++ rest) = .ok (fraction, rest) := by
  cases h with
  | absent =>
    refine ⟨none, ?_⟩
    unfold readFraction
    split
    · rename_i heq
      rw [List.nil_append] at heq
      exact absurd (by rw [heq]; rfl) hpoint
    · rfl
  | present h =>
    rw [List.cons_append, readFraction, readDigits_of_isDigits atEnd h hrest]
    exact ⟨_, rfl⟩

theorem readExponentSign_append {sign : List Char} (h : IsDigits ds)
    (hsign : sign = [] ∨ sign = ['+'] ∨ sign = ['-']) :
    (readExponentSign (sign ++ ds ++ rest)).2 = ds ++ rest := by
  obtain ⟨d, more, rfl⟩ := List.exists_cons_of_ne_nil h.ne_nil
  have hd := h.digit d (by simp)
  rcases hsign with rfl | rfl | rfl
  · rw [List.nil_append, List.cons_append, readExponentSign]
    · intro _ heq; cases heq; cases hd
    · intro _ heq; cases heq; cases hd
  · rfl
  · rfl

theorem readExponent_of_isExponent (h : IsExponent ds) (hrest : NoDigit rest)
    (hexponent : rest.head? ≠ some 'e' ∧ rest.head? ≠ some 'E') :
    ∃ exponent, readExponent atEnd (ds ++ rest) = .ok (exponent, rest) := by
  cases h with
  | absent =>
    refine ⟨none, ?_⟩
    cases rest with
    | nil => rfl
    | cons c rest =>
      have hc : ¬ (c = 'e' ∨ c = 'E') := by simpa using hexponent
      rw [List.nil_append, readExponent, if_neg hc]
  | present he hsign h =>
    rw [List.cons_append, readExponent, if_pos he, readExponentSign_append h hsign,
      readDigits_of_isDigits atEnd h hrest]
    exact ⟨_, rfl⟩

theorem IsExponent.noDigit_append (h : IsExponent ds) (hrest : NoDigit rest) :
    NoDigit (ds ++ rest) := by
  cases h with
  | absent => exact hrest
  | present he _ _ =>
    intro c hc
    obtain rfl : _ = c := by simpa using hc
    rcases he with rfl | rfl <;> rfl

theorem IsFraction.noDigit_append (h : IsFraction ds) (hrest : NoDigit rest) :
    NoDigit (ds ++ rest) := by
  cases h with
  | absent => exact hrest
  | present _ =>
    intro c hc
    obtain rfl : '.' = c := by simpa using hc
    rfl

theorem IsExponent.head?_append_ne (h : IsExponent ds) (hrest : rest.head? ≠ some '.') :
    (ds ++ rest).head? ≠ some '.' := by
  cases h with
  | absent => exact hrest
  | present he _ _ => rcases he with rfl | rfl <;> simp

theorem readSign_append {sign : List Char} (hsign : sign = [] ∨ sign = ['-']) (h : IsWhole ds) :
    (readSign (sign ++ (ds ++ rest))).2 = ds ++ rest := by
  obtain ⟨d, more, rfl⟩ := List.exists_cons_of_ne_nil h.isDigits.ne_nil
  have hd := h.isDigits.digit d (by simp)
  rcases hsign with rfl | rfl
  · rw [List.nil_append, List.cons_append, readSign]
    intro _ heq
    cases heq
    cases hd
  · rfl

theorem readNumeral_of_isNumber (h : IsNumber t) (hrest : EndsNumber rest) :
    ∃ numeral, readNumeral atEnd (t ++ rest) = .ok (numeral, rest) := by
  cases h with
  | @mk sign whole fraction exponent hsign hwhole hfraction hexponent =>
    have hexp := hexponent.noDigit_append hrest.digit
    obtain ⟨f, hf⟩ := readFraction_of_isFraction atEnd hfraction hexp
      (hexponent.head?_append_ne hrest.point)
    obtain ⟨e, he⟩ := readExponent_of_isExponent atEnd hexponent hrest.digit hrest.exponent
    have htext : sign ++ (whole ++ (fraction ++ exponent)) ++ rest =
        sign ++ (whole ++ (fraction ++ (exponent ++ rest))) := by simp only [List.append_assoc]
    rw [htext, readNumeral, readSign_append hsign hwhole,
      readWhole_of_isWhole atEnd hwhole (hfraction.noDigit_append hexp)]
    simp only [bind, Except.bind, hf, he]
    exact ⟨_, rfl⟩

theorem skipNumber_of_isNumber (h : IsNumber t) (hrest : EndsNumber rest) :
    skipNumber (t ++ rest) = .ok rest := by
  obtain ⟨numeral, hread⟩ := readNumeral_of_isNumber .malformed h hrest
  rw [skipNumber, hread]
  rfl

/-- A number begins with a digit or a minus. -/
theorem IsNumber.exists_eq_cons (h : IsNumber t) : ∃ c cs, t = c :: cs ∧ (c = '-' ∨ c.isDigit) := by
  cases h with
  | @mk sign whole fraction exponent hsign hwhole _ _ =>
    obtain ⟨d, more, rfl⟩ := List.exists_cons_of_ne_nil hwhole.isDigits.ne_nil
    rcases hsign with rfl | rfl
    · exact ⟨d, _, rfl, .inr (hwhole.isDigits.digit d (by simp))⟩
    · exact ⟨'-', _, rfl, .inl rfl⟩

end CloudAccessors.Json
