import CloudAccessors.Noun.Lexicon
import CloudAccessors.Noun.Words

/-!
# Singular forms

`singularWord` gives a single word in the singular: the lexicon is asked first, then the ending
rules in their order, and the first answer counts. In a camel-case name only the last word is a
plural; `singularize` keeps the words in front of it.
-/

namespace CloudAccessors.Noun

/-- The answer of a word that takes `es` in the plural, for the word or that plural. -/
def fromSingularInS? (word : List Char) : Option (List Char) :=
  singularsInS.findSome? fun singular =>
    if lower word = singular.toList then some word
    else if lower word = singular.toList ++ "es".toList then some (word.take singular.length)
    else none

/-- The answer of an irregular noun, for its plural or its singular. -/
def fromIrregular? (word : List Char) : Option (List Char) :=
  irregularNouns.findSome? fun (singular, plural) =>
    if lower word = plural.toList then some (carryCase word singular.toList)
    else if lower word = singular.toList then some word
    else none

/-- The answer of a noun in `-sis`, for either form. -/
def fromSis? (word : List Char) : Option (List Char) :=
  sisStems.findSome? fun root =>
    [root ++ "ses", root ++ "sis"].findSome? fun ending =>
      (stem? ending word).map fun stem => replaceAfter stem.length (root ++ "sis") word

def fromRules? (rules : List EndingRule) (word : List Char) : Option (List Char) :=
  rules.findSome? (·.rewritten? word)

/-- The singular of a single word. -/
def singularWord (word : List Char) : List Char :=
  if invariantWords.any (·.toList = lower word) then word
  else
    (fromSingularInS? word <|> fromIrregular? word <|> fromRules? leadingRules word <|>
      fromSis? word <|> fromRules? trailingRules word).getD word

/-- The singular of a camel-case name: its last word is put in the singular. -/
def singularName (name : List Char) : List Char :=
  match (words name).getLast? with
  | none => []
  | some last => (words name).dropLast.flatten ++ singularWord last

/-- The singular of the camel-case name `s`. -/
def singularize (s : String) : String := String.ofList (singularName s.toList)

end CloudAccessors.Noun
