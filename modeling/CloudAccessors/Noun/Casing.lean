import CloudAccessors.Unicode.Alphabetic
import CloudAccessors.Unicode.Case

/-!
# Casing of words

Words are compared and recased by their ASCII letters alone: `lower` and `upper` keep every other
character, and so they keep the length. `carryCase` gives a replacement, which is an ASCII word in
lowercase, the casing of the text that it replaces.
-/

namespace CloudAccessors.Noun

open Unicode

def lower (cs : List Char) : List Char := cs.map Char.toLower

def upper (cs : List Char) : List Char := cs.map Char.toUpper

/-- The word with its first letter in uppercase. -/
def capitalize : List Char → List Char
  | [] => []
  | c :: cs => c.toUpper :: cs

/-- Are there at least two letters, and all of them uppercase? -/
def isAllUppercase (cs : List Char) : Bool :=
  let letters := cs.filter isAlphabetic
  letters.length > 1 && letters.all isUppercase

/-- The replacement in the casing of `model`: all uppercase, capitalized, or as it is. -/
def carryCase (model replacement : List Char) : List Char :=
  if isAllUppercase model then upper replacement
  else if model.head?.any isUppercase then capitalize replacement
  else replacement

theorem length_lower (cs : List Char) : (lower cs).length = cs.length := List.length_map ..

theorem length_upper (cs : List Char) : (upper cs).length = cs.length := List.length_map ..

end CloudAccessors.Noun
