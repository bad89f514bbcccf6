import CloudAccessors.Noun.Casing

/-!
# Rewriting the ending of a word

An ending is looked for in the lowercase form of a word and cut off the word itself. This is sound
because the lowercase form has the same characters at the same places but for the case of ASCII
letters.
-/

namespace CloudAccessors.Noun

/-- What an ending rule asks of the stem, the part of the lowercase word in front of the ending. -/
inductive Guard where
  /-- Any stem will do. -/
  | always
  /-- There is no stem: the ending is the whole word. -/
  | wholeWord
  /-- The stem ends in a consonant, or in `qu`. -/
  | afterConsonant
  /-- The stem ends in a character other than this one. -/
  | notAfter (c : Char)
deriving DecidableEq, Repr

def Guard.admits : Guard → List Char → Bool
  | .always, _ => true
  | .wholeWord, stem => stem.isEmpty
  | .afterConsonant, stem =>
    stem.getLast?.any fun c => !"aeiouy".toList.contains c || "qu".toList.isSuffixOf stem
  | .notAfter forbidden, stem => stem.getLast?.any (· != forbidden)

/-- A word that ends in `plural` ends in `singular` instead, if the guard admits its stem. -/
structure EndingRule where
  plural : String
  singular : String
  guard : Guard := .always
deriving DecidableEq, Repr

/-- The lowercase stem of `word` in front of `ending`. -/
def stem? (ending : String) (word : List Char) : Option (List Char) :=
  ending.toList.isSuffixOf? (lower word)

/-- `word` with the characters after its first `n` replaced, in their casing. -/
def replaceAfter (n : Nat) (replacement : String) (word : List Char) : List Char :=
  word.take n ++ carryCase (word.drop n) replacement.toList

namespace EndingRule

/-- The rewritten word, or `none` if the rule does not apply. A rule whose two forms agree keeps the
word as it is. -/
def rewritten? (rule : EndingRule) (word : List Char) : Option (List Char) :=
  match stem? rule.plural word with
  | none => none
  | some stem =>
    if !rule.guard.admits stem then none
    else if rule.plural = rule.singular then some word
    else some (replaceAfter stem.length rule.singular word)

end EndingRule

end CloudAccessors.Noun
