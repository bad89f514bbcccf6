import CloudAccessors.Unicode.WhiteSpace

/-!
# White space at the ends of a text

`trim` drops the white space at both ends. A text is blank if it has nothing else, and then nothing
is left of it (`trim_eq_nil_iff`).
-/

namespace CloudAccessors.Text

open Unicode

def trimStart (cs : List Char) : List Char := cs.dropWhile isWhiteSpace

def trimEnd (cs : List Char) : List Char := (cs.reverse.dropWhile isWhiteSpace).reverse

def trim (cs : List Char) : List Char := trimEnd (trimStart cs)

def isBlank (cs : List Char) : Bool := cs.all isWhiteSpace

theorem trimStart_eq_nil_iff {cs : List Char} : trimStart cs = [] ↔ isBlank cs = true := by
  induction cs with
  | nil => simp [trimStart, isBlank]
  | cons c cs ih =>
    cases h : isWhiteSpace c <;> simp_all [trimStart, isBlank]

theorem trimEnd_eq_nil_iff {cs : List Char} : trimEnd cs = [] ↔ isBlank cs = true := by
  rw [trimEnd, List.reverse_eq_nil_iff]
  exact trimStart_eq_nil_iff.trans (by simp [isBlank])

theorem isBlank_trimStart (cs : List Char) : isBlank (trimStart cs) = isBlank cs := by
  induction cs with
  | nil => rfl
  | cons c cs ih =>
    cases h : isWhiteSpace c <;> simp_all [trimStart, isBlank]

theorem trim_eq_nil_iff {cs : List Char} : trim cs = [] ↔ isBlank cs = true := by
  rw [trim, trimEnd_eq_nil_iff, isBlank_trimStart]

/-- `s` without the white space at both ends. -/
def trimmed (s : String) : String := String.ofList (trim s.toList)

/-- Has `s` nothing but white space? -/
def blank (s : String) : Bool := isBlank s.toList

end CloudAccessors.Text
