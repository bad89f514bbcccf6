import CloudAccessors.Binary64.Shortest
import CloudAccessors.Json.Value

/-!
# Printing JSON

`compact` writes a value without white space, `pretty` with one item or member per line and two
spaces of indentation per level. In a string only the quote, the backslash and the controls below
U+0020 are escaped.
-/

namespace CloudAccessors.Json

/-- The lowercase hexadecimal digit of `n`, which is below 16. -/
def hexDigit (n : Nat) : Char := "0123456789abcdef".toList.getD n '0'

/-- The text of `c` inside a string. -/
def escape (c : Char) : List Char :=
  if c = '"' then ['\\', '"']
  else if c = '\\' then ['\\', '\\']
  else if c = '\x08' then ['\\', 'b']
  else if c = '\x0c' then ['\\', 'f']
  else if c = '\n' then ['\\', 'n']
  else if c = '\r' then ['\\', 'r']
  else if c = '\t' then ['\\', 't']
  else if c.toNat < 0x20 then
    ['\\', 'u', '0', '0', hexDigit (c.toNat / 16), hexDigit (c.toNat % 16)]
  else [c]

def quote (s : String) : List Char := '"' :: s.toList.flatMap escape ++ ['"']

def Number.text : Number → List Char
  | .integer n => (toString n).toList
  | .float x => x.text

/-! ### On one line -/

mutual

def compactText : Json → List Char
  | .null => "null".toList
  | .bool true => "true".toList
  | .bool false => "false".toList
  | .number n => n.text
  | .string s => quote s
  | .array items => '[' :: compactItems items ++ [']']
  | .object members => '\x7b' :: compactMembers members ++ ['\x7d']

def compactItems : List Json → List Char
  | [] => []
  | [item] => compactText item
  | item :: next :: more => compactText item ++ ',' :: compactItems (next :: more)

def compactMembers : List (String × Json) → List Char
  | [] => []
  | [(key, value)] => quote key ++ ':' :: compactText value
  | (key, value) :: next :: more =>
    quote key ++ ':' :: compactText value ++ ',' :: compactMembers (next :: more)

end

def compact (j : Json) : String := String.ofList (compactText j)

/-! ### With one entry per line -/

/-- A line break and the indentation of the given level. -/
def newline (level : Nat) : List Char := '\n' :: List.replicate (2 * level) ' '

mutual

def prettyText (level : Nat) : Json → List Char
  | .null => "null".toList
  | .bool true => "true".toList
  | .bool false => "false".toList
  | .number n => n.text
  | .string s => quote s
  | .array [] => ['[', ']']
  | .array (item :: more) =>
    '[' :: prettyItems (level + 1) (item :: more) ++ newline level ++ [']']
  | .object [] => ['\x7b', '\x7d']
  | .object (member :: more) =>
    '\x7b' :: prettyMembers (level + 1) (member :: more) ++ newline level ++ ['\x7d']

def prettyItems (level : Nat) : List Json → List Char
  | [] => []
  | [item] => newline level ++ prettyText level item
  | item :: next :: more =>
    newline level ++ prettyText level item ++ ',' :: prettyItems level (next :: more)

def prettyMembers (level : Nat) : List (String × Json) → List Char
  | [] => []
  | [(key, value)] => newline level ++ quote key ++ ':' :: ' ' :: prettyText level value
  | (key, value) :: next :: more =>
    newline level ++ quote key ++ ':' :: ' ' :: prettyText level value ++
      ',' :: prettyMembers level (next :: more)

end

def pretty (j : Json) : String := String.ofList (prettyText 0 j)

end CloudAccessors.Json
