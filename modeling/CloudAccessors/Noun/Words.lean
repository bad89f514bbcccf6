import CloudAccessors.Unicode.Case

/-!
# The words of a camel-case name

A name such as `DBInstances` is a row of words, here `DB` and `Instances`. A word begins at an
uppercase character that follows a lowercase character or an ASCII digit, and at the last uppercase
character of a run if a lowercase one comes next. The words make up the whole name
(`flatten_words`) and none is empty (`ne_nil_of_mem_words`).
-/

namespace CloudAccessors.Noun

open Unicode

/-- Does a word begin at `c`, which stands after `before` and in front of `after?`? -/
def startsWord (before c : Char) (after? : Option Char) : Bool :=
  isUppercase c && (isLowercase before || before.isDigit ||
    (after?.any isLowercase && isUppercase before))

/-- Puts `c` in front of the first word. -/
def joinFirst (c : Char) : List (List Char) → List (List Char)
  | [] => [[c]]
  | word :: more => (c :: word) :: more

def words : List Char → List (List Char)
  | [] => []
  | [c] => [[c]]
  | c :: d :: rest =>
    if startsWord c d rest.head? then [c] :: words (d :: rest) else joinFirst c (words (d :: rest))

theorem flatten_joinFirst (c : Char) (ws : List (List Char)) :
    (joinFirst c ws).flatten = c :: ws.flatten := by
  cases ws <;> simp [joinFirst]

theorem flatten_words (cs : List Char) : (words cs).flatten = cs := by
  induction cs using words.induct with
  | case1 => rfl
  | case2 c => rfl
  | case3 c d rest h ih => simp [words, h, ih]
  | case4 c d rest h ih => simp [words, h, flatten_joinFirst, ih]

theorem ne_nil_of_mem_words {cs word : List Char} (h : word ∈ words cs) : word ≠ [] := by
  induction cs using words.induct generalizing word with
  | case1 => simp [words] at h
  | case2 c => simp [words] at h; simp [h]
  | case3 c d rest hs ih =>
    rw [words, if_pos hs] at h
    rcases List.mem_cons.1 h with rfl | h
    · simp
    · exact ih h
  | case4 c d rest hs ih =>
    rw [words, if_neg hs] at h
    cases hw : words (d :: rest) with
    | nil => simp [hw, joinFirst] at h; simp [h]
    | cons first more =>
      rw [hw, joinFirst] at h
      rcases List.mem_cons.1 h with rfl | h
      · simp
      · exact ih (by simp [hw, h])

end CloudAccessors.Noun
