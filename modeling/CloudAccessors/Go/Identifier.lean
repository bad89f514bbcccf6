import CloudAccessors.Unicode.Alphabetic
import CloudAccessors.Unicode.Numeric

/-!
# Go identifiers and selectors

What may stand as a name in the generated source. An identifier begins with an alphabetic character
or an underscore, goes on with alphabetic or numeric characters and underscores, and is no keyword.
A selector is a chain of identifiers joined by dots.
-/

namespace CloudAccessors.Go

open Unicode

/-- The keywords of the language, none of which is an identifier. -/
def keywords : List String :=
  ["break", "case", "chan", "const", "continue", "default", "defer", "else", "fallthrough", "for",
   "func", "go", "goto", "if", "import", "interface", "map", "package", "range", "return",
   "select", "struct", "switch", "type", "var"]

def isKeyword (name : List Char) : Bool := keywords.any (·.toList = name)

def isIdentifierStart (c : Char) : Bool := isAlphabetic c || c = '_'

def isIdentifierPart (c : Char) : Bool := isAlphabetic c || isNumeric c || c = '_'

def isIdentifierText : List Char → Bool
  | [] => false
  | c :: rest => isIdentifierStart c && rest.all isIdentifierPart && !isKeyword (c :: rest)

def isSelectorText (path : List Char) : Bool := (path.splitOn '.').all isIdentifierText

/-- Is `name` an identifier? -/
def isIdentifier (name : String) : Bool := isIdentifierText name.toList

/-- Is `path` a chain of identifiers joined by dots, such as `DistributionList.Items`? -/
def isSelector (path : String) : Bool := isSelectorText path.toList

end CloudAccessors.Go
