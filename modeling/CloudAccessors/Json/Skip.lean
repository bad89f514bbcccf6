import CloudAccessors.Json.Numeral

/-!
# Heads of values and values that are passed over

`readHead` reads a scalar, or recognizes a container without entering it. `skipValue` passes over a
whole value, keeping the containers that are still open, the innermost first; so a value may be
nested to any depth.
-/

namespace CloudAccessors.Json

/-- Reads a scalar, or finds a container and leaves it to be read. -/
def readHead : Scan Head
  | [] => .error .truncated
  | '[' :: cs => .ok (.sequence, '[' :: cs)
  | '\x7b' :: cs => .ok (.map, '\x7b' :: cs)
  | '"' :: cs => (readChars cs).map fun (s, rest) => (.string (String.ofList s), rest)
  | 'n' :: cs => (readWord "ull".toList cs).map fun rest => (.null, rest)
  | 't' :: cs => (readWord "rue".toList cs).map fun rest => (.bool true, rest)
  | 'f' :: cs => (readWord "alse".toList cs).map fun rest => (.bool false, rest)
  | c :: cs =>
    if c = '-' || c.isDigit then (readNumber (c :: cs)).map fun (n, rest) => (.number n, rest)
    else .error .malformed

/-- Passes over a scalar. -/
def skipScalar : List Char → Except Fault (List Char)
  | [] => .error .truncated
  | '"' :: cs => skipChars cs
  | 'n' :: cs => readWord "ull".toList cs
  | 't' :: cs => readWord "rue".toList cs
  | 'f' :: cs => readWord "alse".toList cs
  | c :: cs => if c = '-' || c.isDigit then skipNumber (c :: cs) else .error .malformed

theorem skipScalar_length {cs rest : List Char} (h : skipScalar cs = .ok rest) :
    rest.length < cs.length := by
  unfold skipScalar at h
  split at h
  · simp at h
  · have := skipChars_length h; simp only [List.length_cons]; omega
  · have := readWord_length h; simp only [List.length_cons]; omega
  · have := readWord_length h; simp only [List.length_cons]; omega
  · have := readWord_length h; simp only [List.length_cons]; omega
  · split at h
    · exact skipNumber_length h
    · simp at h

theorem readHead_length {cs rest : List Char} {v : Head} (h : readHead cs = .ok (v, rest)) :
    rest.length ≤ cs.length := by
  have word {w cs rest : List Char} {a v : Head}
      (h : ((readWord w cs).map fun r => (a, r)) = .ok (v, rest)) : rest.length ≤ cs.length := by
    cases hw : readWord w cs with
    | error e => simp [hw, Except.map] at h
    | ok r =>
      simp only [hw, Except.map, Except.ok.injEq, Prod.mk.injEq] at h
      exact h.2 ▸ readWord_length hw
  unfold readHead at h
  split at h
  · simp at h
  · simp only [Except.ok.injEq, Prod.mk.injEq] at h
    simp [← h.2]
  · simp only [Except.ok.injEq, Prod.mk.injEq] at h
    simp [← h.2]
  · rename_i cs
    cases hc : readChars cs with
    | error e => simp [hc, Except.map] at h
    | ok p =>
      have := readChars_length (s := p.1) (r := p.2) hc
      simp only [hc, Except.map, Except.ok.injEq, Prod.mk.injEq] at h
      obtain ⟨-, rfl⟩ := h
      simp only [List.length_cons]; omega
  · have := word h; simp only [List.length_cons]; omega
  · have := word h; simp only [List.length_cons]; omega
  · have := word h; simp only [List.length_cons]; omega
  · rename_i c cs _ _ _ _ _ _
    split at h
    · cases hn : readNumber (c :: cs) with
      | error e => simp [hn, Except.map] at h
      | ok p =>
        have := readNumber_length (n := p.1) (r := p.2) hn
        simp only [hn, Except.map, Except.ok.injEq, Prod.mk.injEq] at h
        obtain ⟨-, rfl⟩ := h
        omega
    · simp at h

/-- A container that has been entered. -/
inductive Container where
  | array
  | object
deriving DecidableEq, Repr

/-- Passes over the colon behind a key. -/
def skipColon (cs : List Char) : Except Fault (List Char) :=
  match skipSpace cs with
  | [] => .error .truncated
  | ':' :: rest => .ok rest
  | _ => .error .malformed

theorem skipColon_length {cs rest : List Char} (h : skipColon cs = .ok rest) :
    rest.length < cs.length := by
  have hs := length_skipSpace_le cs
  unfold skipColon at h
  split at h
  · simp at h
  · rename_i r heq
    simp only [Except.ok.injEq] at h
    subst h
    rw [heq] at hs
    simp only [List.length_cons] at hs; omega
  · simp at h

/-- Passes over a key and its colon. -/
def skipKey : List Char → Except Fault (List Char)
  | [] => .error .truncated
  | '"' :: cs =>
    match skipChars cs with
    | .error fault => .error fault
    | .ok rest => skipColon rest
  | _ => .error .malformed

theorem skipKey_length {cs rest : List Char} (h : skipKey cs = .ok rest) :
    rest.length < cs.length := by
  unfold skipKey at h
  split at h
  · simp at h
  · split at h
    · simp at h
    · rename_i hc
      have h1 := skipChars_length hc
      have h2 := skipColon_length h
      simp only [List.length_cons]; omega
  · simp at h

theorem length_lt_of_skipSpace {cs rest : List Char} {c : Char} (h : skipSpace cs = c :: rest) :
    rest.length < cs.length := by
  have := length_skipSpace_le cs
  rw [h, List.length_cons] at this
  omega

mutual

/-- Passes over a value inside the open containers, and over the rest of these. -/
def skipIn (containers : List Container) (cs : List Char) : Except Fault (List Char) :=
  match h : skipSpace cs with
  | [] => .error .truncated
  | '[' :: t =>
    have := length_lt_of_skipSpace h
    match h' : skipSpace t with
    | ']' :: u =>
      have := length_lt_of_skipSpace h'
      skipOut containers u
    | _ => skipIn (.array :: containers) t
  | '\x7b' :: t =>
    have := length_lt_of_skipSpace h
    match h' : skipSpace t with
    | '\x7d' :: u =>
      have := length_lt_of_skipSpace h'
      skipOut containers u
    | u =>
      match hk : skipKey u with
      | .error fault => .error fault
      | .ok v =>
        have := skipKey_length hk
        have := h' ▸ length_skipSpace_le t
        skipIn (.object :: containers) v
  | c :: t =>
    match hs : skipScalar (c :: t) with
    | .error fault => .error fault
    | .ok u =>
      have := skipScalar_length hs
      have := h ▸ length_skipSpace_le cs
      skipOut containers u
termination_by cs.length
decreasing_by all_goals omega

/-- Passes over what follows a value inside the open containers. -/
def skipOut (containers : List Container) (cs : List Char) : Except Fault (List Char) :=
  match containers with
  | [] => .ok cs
  | container :: outer =>
    match h : skipSpace cs with
    | ',' :: t =>
      have := length_lt_of_skipSpace h
      match container with
      | .array => skipIn (.array :: outer) t
      | .object =>
        match hk : skipKey (skipSpace t) with
        | .error fault => .error fault
        | .ok v =>
          have := skipKey_length hk
          have := length_skipSpace_le t
          skipIn (.object :: outer) v
    | ']' :: t =>
      have := length_lt_of_skipSpace h
      if container = .array then skipOut outer t else .error .malformed
    | '\x7d' :: t =>
      have := length_lt_of_skipSpace h
      if container = .object then skipOut outer t else .error .malformed
    | [] => .error .truncated
    | _ => .error .malformed
termination_by cs.length
decreasing_by all_goals omega

end

theorem skipIn_skipOut_length (n : Nat) : ∀ (containers : List Container) (cs rest : List Char),
    cs.length < n → (skipIn containers cs = .ok rest ∨ skipOut containers cs = .ok rest) →
      rest.length ≤ cs.length := by
  induction n with
  | zero => intro _ cs _ h; exact absurd h (Nat.not_lt_zero _)
  | succ n ih =>
    intro containers cs rest hn h
    rcases h with h | h
    · rw [skipIn] at h
      split at h
      · simp at h
      · rename_i t hs
        have h1 := length_lt_of_skipSpace hs
        split at h
        · rename_i u hs'
          have h2 := length_lt_of_skipSpace hs'
          have := ih _ _ _ (by omega) (.inr h)
          omega
        · have := ih _ _ _ (by omega) (.inl h)
          omega
      · rename_i t hs
        have h1 := length_lt_of_skipSpace hs
        split at h
        · rename_i u hs'
          have h2 := length_lt_of_skipSpace hs'
          have := ih _ _ _ (by omega) (.inr h)
          omega
        · rename_i hs'
          split at h
          · simp at h
          · rename_i hk
            have h2 := skipKey_length hk
            have h3 := length_skipSpace_le t
            have := ih _ _ _ (by omega) (.inl h)
            omega
      · rename_i c t _ _ hs
        have h1 := length_lt_of_skipSpace hs
        split at h
        · simp at h
        · rename_i hk
          have h2 := skipScalar_length hk
          simp only [List.length_cons] at h2
          have := ih _ _ _ (by omega) (.inr h)
          omega
    · cases containers with
      | nil =>
        rw [skipOut] at h
        simp only [Except.ok.injEq] at h
        simp [h]
      | cons container outer =>
        rw [skipOut] at h
        split at h
        · rename_i t hs
          have h1 := length_lt_of_skipSpace hs
          split at h
          · have := ih _ _ _ (by omega) (.inl h)
            omega
          · split at h
            · simp at h
            · rename_i hk
              have h2 := skipKey_length hk
              have h3 := length_skipSpace_le t
              have := ih _ _ _ (by omega) (.inl h)
              omega
        · rename_i t hs
          have h1 := length_lt_of_skipSpace hs
          split at h
          · have := ih _ _ _ (by omega) (.inr h)
            omega
          · simp at h
        · rename_i t hs
          have h1 := length_lt_of_skipSpace hs
          split at h
          · have := ih _ _ _ (by omega) (.inr h)
            omega
          · simp at h
        · simp at h
        · simp at h

/-- Passes over a value. -/
def skipValue (cs : List Char) : Except Fault (List Char) := skipIn [] cs

theorem skipValue_length {cs rest : List Char} (h : skipValue cs = .ok rest) :
    rest.length ≤ cs.length :=
  skipIn_skipOut_length _ [] cs rest (Nat.lt_succ_self _) (.inl h)

end CloudAccessors.Json
