import CloudAccessors.Text.Lines
import CloudAccessors.Text.Trim

/-!
# Line comments

Documentation is written as one line comment per line of text. Blank lines at both ends are left
out, blank lines inside become a bare comment marker, and a line that is a comment already stays as
it is.
-/

namespace CloudAccessors.Go

open Text

/-- One trimmed line as a comment. -/
def commentLine : List Char → List Char
  | [] => "//".toList
  | '/' :: '/' :: rest => '/' :: '/' :: rest
  | line => "// ".toList ++ line

/-- The trimmed lines of a text without the empty ones at both ends. -/
def documentationLines (text : List Char) : List (List Char) :=
  let isEmpty : List Char → Bool := List.isEmpty
  ((((lines text).map trim).dropWhile isEmpty).reverse.dropWhile isEmpty).reverse

/-- `text` as comment lines, each one with `indent` in front and a line feed behind. -/
def commentText (indent text : List Char) : List Char :=
  (documentationLines text).flatMap fun line => indent ++ commentLine line ++ ['\n']

/-- `text` as comment lines, each one with `indent` in front and a line feed behind. -/
def comment (indent text : String) : String := String.ofList (commentText indent.toList text.toList)

theorem isPrefixOf_commentLine (line : List Char) : "//".toList.isPrefixOf (commentLine line) := by
  unfold commentLine
  split <;> simp

end CloudAccessors.Go
