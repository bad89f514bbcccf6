import CloudAccessors.Json.Scanner

/-!
# Numerals

A numeral is taken apart into its digits first and valued afterwards. An integer that fits into 64
bits keeps its value; every other numeral is a binary64 number, computed from a significand of at
most 64 bits and a power of ten.
-/

namespace CloudAccessors.Json

structure Numeral where
  negative : Bool
  whole : List Char
  fraction : Option (List Char)
  exponent : Option Int
deriving DecidableEq, Repr

def digitValue (c : Char) : Nat := c.toNat - '0'.toNat

def digitsValue (ds : List Char) : Nat := ds.foldl (fun n d => n * 10 + digitValue d) 0

/-! ### Taking a numeral apart

`atEnd` is the fault to report if the text ends where a digit has to follow. -/

def readDigits (atEnd : Fault) (cs : List Char) : Except Fault (List Char × List Char) :=
  match cs.takeWhile Char.isDigit with
  | [] => .error (if cs.isEmpty then atEnd else .malformed)
  | d :: ds => .ok (d :: ds, cs.dropWhile Char.isDigit)

/-- The digits of the integer part, which has no leading zeros. -/
def readWhole (atEnd : Fault) (cs : List Char) : Except Fault (List Char × List Char) :=
  match readDigits atEnd cs with
  | .ok ('0' :: _ :: _, _) => .error .malformed
  | result => result

def readFraction (atEnd : Fault) : List Char → Except Fault (Option (List Char) × List Char)
  | '.' :: cs => (readDigits atEnd cs).map fun (ds, rest) => (some ds, rest)
  | cs => .ok (none, cs)

/-- The sign in front of an exponent: is it a minus? -/
def readExponentSign : List Char → Bool × List Char
  | '-' :: cs => (true, cs)
  | '+' :: cs => (false, cs)
  | cs => (false, cs)

def readExponent (atEnd : Fault) : List Char → Except Fault (Option Int × List Char)
  | [] => .ok (none, [])
  | c :: cs =>
    if c = 'e' ∨ c = 'E' then
      (readDigits atEnd (readExponentSign cs).2).map fun (ds, rest) =>
        (some (if (readExponentSign cs).1 then -digitsValue ds else digitsValue ds), rest)
    else .ok (none, c :: cs)

def readSign : List Char → Bool × List Char
  | '-' :: cs => (true, cs)
  | cs => (false, cs)

def readNumeral (atEnd : Fault) (cs : List Char) : Except Fault (Numeral × List Char) := do
  let (whole, cs') ← readWhole atEnd (readSign cs).2
  let (fraction, cs') ← readFraction atEnd cs'
  let (exponent, rest) ← readExponent atEnd cs'
  return (⟨(readSign cs).1, whole, fraction, exponent⟩, rest)

/-! ### The value of a numeral -/

/-- Appends digits to `n` while it stays below `2 ^ 64`, and tells how many of them. -/
def appendDigits (n : Nat) : List Char → Nat × Nat
  | [] => (n, 0)
  | d :: ds =>
    if n * 10 + digitValue d < 1 <<< 64 then
      let (m, count) := appendDigits (n * 10 + digitValue d) ds
      (m, count + 1)
    else (n, 0)

/-- An exponent is too large to be computed with if it exceeds this. -/
def maxExponent : Nat := (1 <<< 31) - 1

namespace Numeral

def float? (negative : Bool) (significand : Nat) (exponent : Int) : Option Number :=
  (Binary64.Magnitude.ofDecimal? significand exponent).map fun x => .float ⟨negative, x⟩

/-- The value of a numeral, or `none` if its magnitude is beyond all finite numbers. -/
def value? (n : Numeral) : Option Number :=
  let (whole, wholeCount) := appendDigits 0 n.whole
  let dropped : Int := n.whole.length - wholeCount
  match n.fraction, n.exponent with
  | none, none =>
    if dropped ≠ 0 then float? n.negative whole dropped
    else if !n.negative then some (.integer whole)
    else if whole = 0 ∨ 1 <<< 63 < whole then float? true whole 0
    else some (.integer (-whole))
  | fraction, exponent =>
    let (significand, count) := appendDigits whole (fraction.getD [])
    let shift := exponent.getD 0
    if shift.natAbs ≤ maxExponent then float? n.negative significand (dropped - count + shift)
    else if significand ≠ 0 ∧ 0 < shift then none
    else some (.float ⟨n.negative, .zero⟩)

end Numeral

/-- Reads a number. A numeral beyond all finite numbers is malformed. -/
def readNumber (cs : List Char) : Except Fault (Number × List Char) :=
  match readNumeral .truncated cs with
  | .error fault => .error fault
  | .ok (n, rest) =>
    match n.value? with
    | none => .error .malformed
    | some v => .ok (v, rest)

/-- Passes over a number of any size. A text that ends inside one is malformed. -/
def skipNumber (cs : List Char) : Except Fault (List Char) :=
  (readNumeral .malformed cs).map (·.2)

/-! ### What is left is shorter -/

theorem readDigits_length {atEnd : Fault} {cs d r : List Char}
    (h : readDigits atEnd cs = .ok (d, r)) : r.length < cs.length := by
  unfold readDigits at h
  split at h
  · simp at h
  · rename_i d' ds heq
    simp only [Except.ok.injEq, Prod.mk.injEq] at h
    have := congrArg List.length (List.takeWhile_append_dropWhile (p := Char.isDigit) (l := cs))
    rw [heq, h.2] at this
    simp only [List.length_append, List.length_cons] at this
    omega

theorem readWhole_length {atEnd : Fault} {cs d r : List Char}
    (h : readWhole atEnd cs = .ok (d, r)) : r.length < cs.length := by
  unfold readWhole at h
  split at h
  · simp at h
  · exact readDigits_length h

theorem readFraction_length {atEnd : Fault} {cs r : List Char} {f : Option (List Char)}
    (h : readFraction atEnd cs = .ok (f, r)) : r.length ≤ cs.length := by
  unfold readFraction at h
  split at h
  · rename_i cs
    cases hd : readDigits atEnd cs with
    | error e => simp [hd, Except.map] at h
    | ok p =>
      have := readDigits_length (d := p.1) (r := p.2) hd
      simp only [hd, Except.map, Except.ok.injEq, Prod.mk.injEq] at h
      obtain ⟨-, rfl⟩ := h
      simp only [List.length_cons]; omega
  · simp only [Except.ok.injEq, Prod.mk.injEq] at h
    simp [h.2]

theorem length_readExponentSign_le (cs : List Char) :
    (readExponentSign cs).2.length ≤ cs.length := by
  unfold readExponentSign
  split <;> simp

theorem readExponent_length {atEnd : Fault} {cs r : List Char} {e : Option Int}
    (h : readExponent atEnd cs = .ok (e, r)) : r.length ≤ cs.length := by
  unfold readExponent at h
  split at h
  · simp only [Except.ok.injEq, Prod.mk.injEq] at h
    simp [← h.2]
  · rename_i c cs
    split at h
    · cases hd : readDigits atEnd (readExponentSign cs).2 with
      | error e => simp [hd, Except.map] at h
      | ok p =>
        have h1 := readDigits_length (d := p.1) (r := p.2) hd
        have h2 := length_readExponentSign_le cs
        simp only [hd, Except.map, Except.ok.injEq, Prod.mk.injEq] at h
        obtain ⟨-, rfl⟩ := h
        simp only [List.length_cons]; omega
    · simp only [Except.ok.injEq, Prod.mk.injEq] at h
      simp [← h.2]

theorem length_readSign_le (cs : List Char) : (readSign cs).2.length ≤ cs.length := by
  unfold readSign
  split <;> simp

theorem readNumeral_length {atEnd : Fault} {cs r : List Char} {n : Numeral}
    (h : readNumeral atEnd cs = .ok (n, r)) : r.length < cs.length := by
  simp only [readNumeral, bind, Except.bind, pure, Except.pure] at h
  have h0 := length_readSign_le cs
  split at h
  · simp at h
  rename_i p1 e1
  have h1 := readWhole_length (d := p1.1) (r := p1.2) e1
  split at h
  · simp at h
  rename_i p2 e2
  have h2 := readFraction_length (f := p2.1) (r := p2.2) e2
  split at h
  · simp at h
  rename_i p3 e3
  have h3 := readExponent_length (e := p3.1) (r := p3.2) e3
  simp only [Except.ok.injEq, Prod.mk.injEq] at h
  obtain ⟨-, rfl⟩ := h
  omega

theorem readNumber_length {cs r : List Char} {n : Number}
    (h : readNumber cs = .ok (n, r)) : r.length < cs.length := by
  unfold readNumber at h
  split at h
  · simp at h
  · rename_i hn
    have := readNumeral_length hn
    split at h
    · simp at h
    · simp only [Except.ok.injEq, Prod.mk.injEq] at h
      obtain ⟨-, rfl⟩ := h
      exact this

theorem skipNumber_length {cs rest : List Char} (h : skipNumber cs = .ok rest) :
    rest.length < cs.length := by
  unfold skipNumber at h
  cases hn : readNumeral .malformed cs with
  | error e => simp [hn, Except.map] at h
  | ok p =>
    have := readNumeral_length (n := p.1) (r := p.2) hn
    simp only [hn, Except.map, Except.ok.injEq] at h
    subst h
    exact this

end CloudAccessors.Json
