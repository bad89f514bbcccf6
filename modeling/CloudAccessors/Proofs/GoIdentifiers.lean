import CloudAccessors.Go.Identifier
import CloudAccessors.Proofs.CharacterClasses

/-!
# Identifiers of the language and those that are accepted

The language builds its identifiers from letters and decimal digits (`IsGoIdentifier`), which are
among the characters that are accepted: every letter is alphabetic, and every decimal digit numeric.
Its keywords are those that are refused (`perm_keywords`). So every identifier is accepted
(`isIdentifierText_of_isGoIdentifier`). There are more alphabetic and numeric characters, such as
vowel signs, Roman numerals and superscripts (`isForeign`), and an accepted name is an identifier
unless it has one of these (`isGoIdentifier_of_isIdentifierText`). As no keyword has any, the names
that are accepted by mistake are those that are built like an identifier with at least one of them
(`BuiltWithForeign`).
-/

namespace CloudAccessors.Go

open Unicode

variable {c : Char} {cs : List Char}

/-! ### Identifiers of the language -/

/-- A letter of the language: a letter of Unicode or the underscore. -/
def IsGoLetter (c : Char) : Prop := isLetter c ∨ c = '_'

/-- The keywords of the language, row by row as its specification lists them. -/
def goKeywords : List String :=
  ["break", "default", "func", "interface", "select",
   "case", "defer", "go", "map", "struct",
   "chan", "else", "goto", "package", "switch",
   "const", "fallthrough", "if", "range", "type",
   "continue", "for", "import", "return", "var"]

/-- A letter, and then letters and decimal digits, but no keyword. -/
def IsGoIdentifier : List Char → Prop
  | [] => False
  | c :: rest =>
    IsGoLetter c ∧ (∀ d ∈ rest, IsGoLetter d ∨ isDecimalDigit d) ∧
      String.ofList (c :: rest) ∉ goKeywords

theorem perm_keywords : keywords.Perm goKeywords := by decide

theorem isKeyword_iff : isKeyword cs ↔ String.ofList cs ∈ goKeywords := by
  rw [← perm_keywords.mem_iff]
  rw [isKeyword, List.any_eq_true]
  constructor
  · rintro ⟨keyword, hmem, heq⟩
    rwa [← of_decide_eq_true heq, String.ofList_toList]
  · exact fun hmem => ⟨_, hmem, by simp⟩

theorem IsGoLetter.isIdentifierStart (h : IsGoLetter c) : isIdentifierStart c := by
  rcases h with h | rfl
  · simp [Go.isIdentifierStart, isAlphabetic_of_isLetter h]
  · rfl

theorem isIdentifierPart_of_isGoLetter_or_digit (h : IsGoLetter c ∨ isDecimalDigit c) :
    isIdentifierPart c := by
  rcases h with (h | rfl) | h
  · simp [isIdentifierPart, isAlphabetic_of_isLetter h]
  · rfl
  · simp [isIdentifierPart, isNumeric_of_isDecimalDigit h]

theorem isIdentifierText_of_isGoIdentifier (h : IsGoIdentifier cs) : isIdentifierText cs := by
  cases cs with
  | nil => exact absurd h id
  | cons c rest =>
    obtain ⟨hc, hrest, hkeyword⟩ := h
    rw [isIdentifierText, Bool.and_eq_true, Bool.and_eq_true, List.all_eq_true, Bool.not_eq_true',
      Bool.eq_false_iff]
    exact ⟨⟨hc.isIdentifierStart, fun d hd => isIdentifierPart_of_isGoLetter_or_digit (hrest d hd)⟩,
      fun h => hkeyword (isKeyword_iff.1 h)⟩

/-! ### Other characters that are accepted -/

/-- Is `c` alphabetic or numeric, but neither a letter nor a decimal digit? -/
def isForeign (c : Char) : Bool :=
  (isAlphabetic c || isNumeric c) && !isLetter c && !isDecimalDigit c

/-- Built like an identifier, but with a character among its letters and digits that is neither. -/
def BuiltWithForeign : List Char → Prop
  | [] => False
  | c :: rest =>
    isIdentifierStart c ∧ (∀ d ∈ rest, isIdentifierPart d) ∧ ∃ d ∈ c :: rest, isForeign d

theorem isGoLetter_or_digit_of_not_foreign (h : isIdentifierPart c) (hc : isForeign c = false) :
    IsGoLetter c ∨ isDecimalDigit c := by
  by_cases hletter : isLetter c
  · exact .inl (.inl hletter)
  by_cases hdigit : isDecimalDigit c
  · exact .inr hdigit
  by_cases hunderscore : c = '_'
  · exact .inl (.inr hunderscore)
  · simp only [isForeign, hletter, hdigit, Bool.not_false, Bool.and_true] at hc
    simp [isIdentifierPart, hc, hunderscore] at h

/-- A decimal digit is not alphabetic, and so what may come first is a letter. -/
theorem isGoLetter_of_not_foreign (h : isIdentifierStart c) (hc : isForeign c = false) :
    IsGoLetter c := by
  have hpart : isIdentifierPart c := by
    rw [isIdentifierStart, Bool.or_eq_true] at h
    rcases h with h | h <;> simp [isIdentifierPart, h]
  rcases isGoLetter_or_digit_of_not_foreign hpart hc with hletter | hdigit
  · exact hletter
  · rw [isIdentifierStart, isAlphabetic_of_isDecimalDigit hdigit, Bool.false_or] at h
    exact .inr (of_decide_eq_true h)

theorem isGoIdentifier_of_isIdentifierText (h : isIdentifierText cs)
    (hforeign : ∀ c ∈ cs, isForeign c = false) : IsGoIdentifier cs := by
  cases cs with
  | nil => cases h
  | cons c rest =>
    rw [isIdentifierText, Bool.and_eq_true, Bool.and_eq_true, List.all_eq_true] at h
    obtain ⟨⟨hstart, hparts⟩, hkeyword⟩ := h
    refine ⟨isGoLetter_of_not_foreign hstart (hforeign c (by simp)), fun d hd => ?_, fun hmem => ?_⟩
    · exact isGoLetter_or_digit_of_not_foreign (hparts d hd) (hforeign d (by simp [hd]))
    · rw [isKeyword_iff.2 hmem] at hkeyword
      cases hkeyword

theorem isForeign_of_isGoLetter_or_digit (h : IsGoLetter c ∨ isDecimalDigit c) :
    isForeign c = false := by
  rcases h with (h | rfl) | h
  · simp [isForeign, h]
  · rfl
  · simp [isForeign, h]

theorem IsGoIdentifier.not_foreign (h : IsGoIdentifier cs) (hc : c ∈ cs) : isForeign c = false := by
  cases cs with
  | nil => exact absurd h id
  | cons d rest =>
    obtain ⟨hd, hrest, -⟩ := h
    rcases List.mem_cons.1 hc with rfl | hc
    · exact isForeign_of_isGoLetter_or_digit (.inl hd)
    · exact isForeign_of_isGoLetter_or_digit (hrest c hc)

theorem isForeign_of_mem_keyword {keyword : String} (h : keyword ∈ goKeywords)
    (hc : c ∈ keyword.toList) : isForeign c = false := by
  have hnone : goKeywords.all fun k => k.toList.all fun c => !isForeign c := by decide +kernel
  simpa using List.all_eq_true.1 (List.all_eq_true.1 hnone keyword h) c hc

theorem BuiltWithForeign.exists_foreign (h : BuiltWithForeign cs) : ∃ c ∈ cs, isForeign c := by
  cases cs with
  | nil => exact absurd h id
  | cons c rest => exact h.2.2

theorem BuiltWithForeign.isIdentifierText (h : BuiltWithForeign cs) : isIdentifierText cs := by
  have hkeyword : isKeyword cs = false := by
    rw [Bool.eq_false_iff, Ne, isKeyword_iff]
    intro hmem
    obtain ⟨c, hc, hforeign⟩ := h.exists_foreign
    rw [isForeign_of_mem_keyword hmem (by rwa [String.toList_ofList])] at hforeign
    cases hforeign
  cases cs with
  | nil => exact absurd h id
  | cons c rest =>
    obtain ⟨hstart, hparts, -⟩ := h
    rw [Go.isIdentifierText, hstart, hkeyword, List.all_eq_true.2 hparts]
    rfl

/-- Every identifier of the language is accepted, and what is accepted is an identifier exactly if
it is not built with a foreign character. -/
theorem isIdentifier_iff_isGoIdentifier_iff (name : String) :
    (IsGoIdentifier name.toList → isIdentifier name = true) ∧
      ((isIdentifier name = true ↔ IsGoIdentifier name.toList) ↔
        ¬ BuiltWithForeign name.toList) := by
  refine ⟨isIdentifierText_of_isGoIdentifier, fun h hbuilt => ?_, fun h => ⟨fun haccepted => ?_,
    isIdentifierText_of_isGoIdentifier⟩⟩
  · obtain ⟨c, hc, hforeign⟩ := hbuilt.exists_foreign
    rw [(h.1 hbuilt.isIdentifierText).not_foreign hc] at hforeign
    cases hforeign
  · refine isGoIdentifier_of_isIdentifierText haccepted fun c hc => ?_
    refine Bool.eq_false_iff.2 fun hforeign => h ?_
    rw [isIdentifier] at haccepted
    cases hcs : name.toList with
    | nil => rw [hcs] at hc; cases hc
    | cons d rest =>
      rw [hcs] at haccepted hc
      rw [isIdentifierText, Bool.and_eq_true, Bool.and_eq_true, List.all_eq_true] at haccepted
      exact ⟨haccepted.1.1, haccepted.1.2, c, hc, hforeign⟩

/-- A superscript is numeric and so accepted, but it is no decimal digit. -/
theorem not_isIdentifier_iff_superscript :
    ¬ (isIdentifier "x²" = true ↔ IsGoIdentifier "x²".toList) := by
  have haccepted : isIdentifier "x²" = true := by decide +kernel
  have hforeign : isForeign '²' = true := by decide +kernel
  intro h
  rw [(h.1 haccepted).not_foreign (by decide)] at hforeign
  cases hforeign

end CloudAccessors.Go
