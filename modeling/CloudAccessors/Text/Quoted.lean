import CloudAccessors.Unicode.Printable

/-!
# Texts quoted in messages

A message shows a text between quotes, with the quote, the backslash and every character that cannot
be shown as itself escaped. Such a character is written as its code point, but for the line breaks,
the tab and the null character, which have escapes of one letter.
-/

namespace CloudAccessors.Text

/-- `c` as its code point in lowercase hexadecimal digits. -/
def codePointEscape (c : Char) : List Char :=
  ['\\', 'u', '\x7b'] ++ Nat.toDigits 16 c.toNat ++ ['\x7d']

def quotedChar (c : Char) : List Char :=
  match c with
  | '\x00' => ['\\', '0']
  | '\t' => ['\\', 't']
  | '\r' => ['\\', 'r']
  | '\n' => ['\\', 'n']
  | '\\' => ['\\', '\\']
  | '"' => ['\\', '"']
  | c => if Unicode.isPrintable c then [c] else codePointEscape c

/-- `s` between quotes, as a message shows it. -/
def quoted (s : String) : String := String.ofList ('"' :: s.toList.flatMap quotedChar ++ ['"'])

/-- Labelled parts between braces, as a message shows what a value is made of. -/
def labelled (parts : List (String × String)) : String :=
  " \x7b " ++ ", ".intercalate (parts.map fun (label, part) => label ++ ": " ++ part) ++ " \x7d"

end CloudAccessors.Text
