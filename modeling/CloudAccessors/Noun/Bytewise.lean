import CloudAccessors.Noun.Singular
import CloudAccessors.Text.Cut

/-!
# Singular forms by byte offsets

The same forms as in `Noun.singularize`, computed on a name as it is stored: every part of a text is
cut out between two byte offsets, and the computation ends with a fault where that cannot be done.
An ending is looked for in the lowercase form of a word, and the offset at which it is found there
is used to cut the word itself.
-/

namespace CloudAccessors.Noun.Bytewise

open Text

/-- The word with its ASCII letters in lowercase. -/
def lowercase (word : String) : String := String.ofList (lower word.toList)

/-- The replacement in the casing of `model`. -/
def recase (model replacement : String) : String :=
  String.ofList (carryCase model.toList replacement.toList)

/-! ### The words of a name -/

/-- The word between two offsets, if there is anything between them. -/
def wordBetween (name : String) (start stop : Nat) : Except CutFault (List String) :=
  if start < stop then return [← cut name start stop] else return []

/-- The words of `name` from the one on that begins at the offset `start`. The walk is at the offset
`here`, in front of the characters `rest` and behind the character `before`. -/
def wordsFrom (name : String) (start here : Nat) (before : Char) :
    List Char → Except CutFault (List String)
  | [] => wordBetween name start name.utf8ByteSize
  | c :: rest =>
    if startsWord before c rest.head? then
      return (← wordBetween name start here) ++ (← wordsFrom name here (here + c.utf8Size) c rest)
    else wordsFrom name start (here + c.utf8Size) c rest

def words (name : String) : Except CutFault (List String) :=
  match name.toList with
  | [] => return []
  | c :: rest => wordsFrom name 0 c.utf8Size c rest

/-! ### A single word -/

/-- `word` with its last bytes, as many as `ending` has, replaced in their casing. -/
def replaceEnding (word ending replacement : String) : Except CutFault String := do
  let split ← offsetBefore word.utf8ByteSize ending.utf8ByteSize
  let kept ← cut word 0 split
  let old ← cut word split word.utf8ByteSize
  return kept ++ recase old replacement

/-- What an ending rule writes for `word`, of which `lowered` is the lowercase form. -/
def rewritten? (word lowered : String) (rule : EndingRule) : Except CutFault (Option String) := do
  if !rule.plural.toList.isSuffixOf lowered.toList then return none
  let stem ← cut lowered 0 (← offsetBefore lowered.utf8ByteSize rule.plural.utf8ByteSize)
  if !rule.guard.admits stem.toList then return none
  if rule.plural = rule.singular then return some word
  return some (← replaceEnding word rule.plural rule.singular)

def fromRules? (rules : List EndingRule) (word lowered : String) :
    Except CutFault (Option String) :=
  rules.findSomeM? (rewritten? word lowered)

def fromSingularInS? (word lowered : String) : Except CutFault (Option String) :=
  singularsInS.findSomeM? fun singular => do
    if lowered = singular then return some word
    if lowered = singular ++ "es" then return some (← cut word 0 singular.utf8ByteSize)
    return none

def fromSis? (word lowered : String) : Except CutFault (Option String) :=
  sisStems.findSomeM? fun root =>
    [root ++ "ses", root ++ "sis"].findSomeM? fun ending => do
      if !ending.toList.isSuffixOf lowered.toList then return none
      return some (← replaceEnding word ending (root ++ "sis"))

/-- The singular of a single word. -/
def singularWord (word : String) : Except CutFault String := do
  let lowered := lowercase word
  if invariantWords.contains lowered then return word
  if let some s ← fromSingularInS? word lowered then return s
  -- nothing is cut for an irregular noun
  if let some s := fromIrregular? word.toList then return String.ofList s
  if let some s ← fromRules? leadingRules word lowered then return s
  if let some s ← fromSis? word lowered then return s
  if let some s ← fromRules? trailingRules word lowered then return s
  return word

/-- The singular of a camel-case name: its last word is put in the singular. -/
def singularize (name : String) : Except CutFault String := do
  let some last := (← words name).getLast? | return ""
  let kept ← cut name 0 (← offsetBefore name.utf8ByteSize last.utf8ByteSize)
  return kept ++ (← singularWord last)

end CloudAccessors.Noun.Bytewise
