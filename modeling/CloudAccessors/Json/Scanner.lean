import CloudAccessors.Json.Value

/-!
# Reading the scalars of a JSON text

A scanner takes what it reads off the front of the text and returns the rest. The first fault met
from left to right is reported: the text is `truncated` if it ends too early and `malformed` at a
character that cannot stand there. Every scanner that succeeds leaves a shorter rest.
-/

namespace CloudAccessors.Json

/-- Why a text is no JSON. -/
inductive Fault where
  | truncated
  | malformed
deriving DecidableEq, Repr

/-- A reader of the front of a text. -/
abbrev Scan (α : Type) := List Char → Except Fault (α × List Char)

def isSpace (c : Char) : Bool := c = ' ' || c = '\n' || c = '\t' || c = '\r'

def skipSpace (cs : List Char) : List Char := cs.dropWhile isSpace

theorem length_skipSpace_le (cs : List Char) : (skipSpace cs).length ≤ cs.length :=
  (List.dropWhile_sublist isSpace).length_le

/-- Reads the given characters. -/
def readWord : List Char → List Char → Except Fault (List Char)
  | [], cs => .ok cs
  | _ :: _, [] => .error .truncated
  | w :: ws, c :: cs => if w = c then readWord ws cs else .error .malformed

theorem readWord_length {w cs rest : List Char} (h : readWord w cs = .ok rest) :
    rest.length ≤ cs.length := by
  induction w generalizing cs with
  | nil => simp [readWord] at h; simp [h]
  | cons a w ih =>
    cases cs with
    | nil => simp [readWord] at h
    | cons c cs =>
      simp only [readWord] at h
      split at h
      · exact Nat.le_succ_of_le (ih h)
      · simp at h

/-! ### Strings -/

def hexValue? (c : Char) : Option Nat :=
  if c.isDigit then some (c.toNat - '0'.toNat)
  else if 'a' ≤ c ∧ c ≤ 'f' then some (c.toNat - 'a'.toNat + 10)
  else if 'A' ≤ c ∧ c ≤ 'F' then some (c.toNat - 'A'.toNat + 10)
  else none

/-- Reads four hexadecimal digits. A text with fewer than four bytes left is truncated, whatever
they are. -/
def readUnit : Scan Nat
  | a :: b :: c :: d :: rest =>
    match hexValue? a, hexValue? b, hexValue? c, hexValue? d with
    | some a, some b, some c, some d => .ok (((a * 16 + b) * 16 + c) * 16 + d, rest)
    | _, _, _, _ => .error .malformed
  | cs => .error (if (String.ofList cs).utf8ByteSize < 4 then .truncated else .malformed)

def isHighSurrogate (n : Nat) : Bool := 0xD800 ≤ n && n ≤ 0xDBFF

def isLowSurrogate (n : Nat) : Bool := 0xDC00 ≤ n && n ≤ 0xDFFF

/-- The character that a pair of surrogates stands for. -/
def pairedChar (high low : Nat) : Char :=
  Char.ofNat (0x10000 + (high - 0xD800) * 0x400 + (low - 0xDC00))

/-- Reads the low surrogate that has to follow a high one. -/
def readLowSurrogate (high : Nat) : Scan Char
  | [] => .error .truncated
  | ['\\'] => .error .truncated
  | '\\' :: 'u' :: cs =>
    match readUnit cs with
    | .error fault => .error fault
    | .ok (low, rest) =>
      if isLowSurrogate low then .ok (pairedChar high low, rest) else .error .malformed
  | _ => .error .malformed

/-- The character that a one-letter escape stands for. -/
def escaped? (c : Char) : Option Char :=
  match c with
  | '"' => some '"'
  | '\\' => some '\\'
  | '/' => some '/'
  | 'b' => some '\x08'
  | 'f' => some '\x0c'
  | 'n' => some '\n'
  | 'r' => some '\r'
  | 't' => some '\t'
  | _ => none

/-- Reads an escape after its backslash. -/
def readEscape : Scan Char
  | [] => .error .truncated
  | 'u' :: cs =>
    match readUnit cs with
    | .error fault => .error fault
    | .ok (n, rest) =>
      if isHighSurrogate n then readLowSurrogate n rest
      else if isLowSurrogate n then .error .malformed
      else .ok (Char.ofNat n, rest)
  | c :: rest =>
    match escaped? c with
    | none => .error .malformed
    | some e => .ok (e, rest)

/-- Passes over an escape after its backslash; whether its surrogates are paired does not matter. -/
def skipEscape : List Char → Except Fault (List Char)
  | [] => .error .truncated
  | 'u' :: cs => (readUnit cs).map (·.2)
  | c :: rest => if (escaped? c).isSome then .ok rest else .error .malformed

theorem readUnit_length {cs r : List Char} {n : Nat} (h : readUnit cs = .ok (n, r)) :
    r.length < cs.length := by
  unfold readUnit at h
  split at h
  · split at h
    · simp only [Except.ok.injEq, Prod.mk.injEq] at h
      obtain ⟨-, rfl⟩ := h
      simp only [List.length_cons]; omega
    · simp at h
  · simp at h

theorem readLowSurrogate_length {high : Nat} {cs rest : List Char} {c : Char}
    (h : readLowSurrogate high cs = .ok (c, rest)) : rest.length < cs.length := by
  unfold readLowSurrogate at h
  split at h <;> try simp at h
  split at h
  · simp at h
  · rename_i hu
    have := readUnit_length hu
    split at h
    · simp only [Except.ok.injEq, Prod.mk.injEq] at h
      obtain ⟨-, rfl⟩ := h
      simp only [List.length_cons]; omega
    · simp at h

theorem readEscape_length {cs rest : List Char} {c : Char} (h : readEscape cs = .ok (c, rest)) :
    rest.length < cs.length := by
  unfold readEscape at h
  split at h
  · simp at h
  · split at h
    · simp at h
    · rename_i hu
      have := readUnit_length hu
      split at h
      · have := readLowSurrogate_length h
        simp only [List.length_cons]; omega
      · split at h
        · simp at h
        · simp only [Except.ok.injEq, Prod.mk.injEq] at h
          obtain ⟨-, rfl⟩ := h
          simp only [List.length_cons]; omega
  · split at h
    · simp at h
    · simp only [Except.ok.injEq, Prod.mk.injEq] at h
      obtain ⟨-, rfl⟩ := h
      simp

theorem skipEscape_length {cs rest : List Char} (h : skipEscape cs = .ok rest) :
    rest.length < cs.length := by
  unfold skipEscape at h
  split at h
  · simp at h
  · rename_i cs
    cases hu : readUnit cs with
    | error e => simp [hu, Except.map] at h
    | ok p =>
      have := readUnit_length (n := p.1) (r := p.2) hu
      simp only [hu, Except.map, Except.ok.injEq] at h
      subst h
      simp only [List.length_cons]; omega
  · split at h
    · simp only [Except.ok.injEq] at h
      subst h; simp
    · simp at h

/-- Reads a string after its opening quote. -/
def readChars (cs : List Char) : Except Fault (List Char × List Char) :=
  match cs with
  | [] => .error .truncated
  | '"' :: rest => .ok ([], rest)
  | '\\' :: rest =>
    match h : readEscape rest with
    | .error fault => .error fault
    | .ok (c, rest') =>
      have := readEscape_length h
      (readChars rest').map fun (s, rest) => (c :: s, rest)
  | c :: rest =>
    if c.toNat < 0x20 then .error .malformed
    else (readChars rest).map fun (s, rest) => (c :: s, rest)
termination_by cs.length
decreasing_by all_goals simp only [List.length_cons]; omega

/-- Passes over a string after its opening quote. -/
def skipChars (cs : List Char) : Except Fault (List Char) :=
  match cs with
  | [] => .error .truncated
  | '"' :: rest => .ok rest
  | '\\' :: rest =>
    match h : skipEscape rest with
    | .error fault => .error fault
    | .ok rest' =>
      have := skipEscape_length h
      skipChars rest'
  | c :: rest => if c.toNat < 0x20 then .error .malformed else skipChars rest
termination_by cs.length
decreasing_by all_goals simp only [List.length_cons]; omega

theorem readChars_length {cs s r : List Char} (h : readChars cs = .ok (s, r)) :
    r.length < cs.length := by
  induction cs using readChars.induct generalizing s r with
  | case1 => simp [readChars] at h
  | case2 rest' =>
    simp only [readChars, Except.ok.injEq, Prod.mk.injEq] at h
    simp [h.2]
  | case3 rest' fault he =>
    rw [readChars] at h
    split at h <;> simp_all
  | case4 rest' c rest'' he hl ih =>
    rw [readChars] at h
    split at h
    · simp at h
    · rename_i he'
      obtain ⟨rfl, rfl⟩ : c = _ ∧ rest'' = _ := by simpa [he] using he'
      cases hr : readChars rest'' with
      | error e => simp [hr, Except.map] at h
      | ok p =>
        have := ih (s := p.1) (r := p.2) hr
        simp only [hr, Except.map, Except.ok.injEq, Prod.mk.injEq] at h
        obtain ⟨-, rfl⟩ := h
        simp only [List.length_cons]; omega
  | case5 c rest' h1 h2 hlt =>
    rw [readChars] at h <;> simp_all
  | case6 c rest' h1 h2 hlt ih =>
    rw [readChars] at h
    · cases hr : readChars rest' with
      | error e => simp [hr, hlt, Except.map] at h
      | ok p =>
        have := ih (s := p.1) (r := p.2) hr
        simp only [hr, hlt, if_false, Except.map, Except.ok.injEq, Prod.mk.injEq] at h
        obtain ⟨-, rfl⟩ := h
        simp only [List.length_cons]; omega
    · exact h1
    · exact h2

theorem skipChars_length {cs rest : List Char} (h : skipChars cs = .ok rest) :
    rest.length < cs.length := by
  induction cs using skipChars.induct with
  | case1 => simp [skipChars] at h
  | case2 rest' =>
    simp only [skipChars, Except.ok.injEq] at h
    simp [h]
  | case3 rest' fault he =>
    rw [skipChars] at h
    split at h <;> simp_all
  | case4 rest' rest'' he hl ih =>
    rw [skipChars] at h
    split at h
    · simp at h
    · rename_i he'
      obtain rfl : rest'' = _ := by simpa [he] using he'
      have := ih h
      simp only [List.length_cons]; omega
  | case5 c rest' h1 h2 hlt =>
    rw [skipChars] at h <;> simp_all
  | case6 c rest' h1 h2 hlt ih =>
    rw [skipChars] at h
    · have := ih (by simpa [hlt] using h)
      simp only [List.length_cons]; omega
    · exact h1
    · exact h2

end CloudAccessors.Json
