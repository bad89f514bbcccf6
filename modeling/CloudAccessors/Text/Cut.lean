/-!
# Cutting a text at byte offsets

A text may be addressed by the bytes of its encoding, in which a character takes one to four of
them. It can be cut where a character begins and at its end, but not inside a character. `cut` asks
for this at both bounds, and it gives what stands between them exactly if they are the byte sizes of
two beginnings of the text (`cut_eq_ok_iff`).
-/

namespace CloudAccessors.Text

/-- Why nothing can be cut out of a text. -/
inductive CutFault where
  /-- A bound is to lie before the beginning. -/
  | beforeStart
  /-- A bound lies behind the end, or the bounds are in the wrong order. -/
  | outOfBounds
  /-- A bound lies inside a character. -/
  | insideCharacter
deriving DecidableEq, Repr

/-- The byte offset that lies `size` bytes before the offset `stop`. -/
def offsetBefore (stop size : Nat) : Except CutFault Nat :=
  if stop < size then .error .beforeStart else .ok (stop - size)

/-- The bytes of `s` from the offset `start` up to the offset `stop`. -/
def cut (s : String) (start stop : Nat) : Except CutFault String :=
  if stop < start ∨ s.utf8ByteSize < stop then .error .outOfBounds
  else
    if h : String.Pos.Raw.IsValid s ⟨start⟩ ∧ String.Pos.Raw.IsValid s ⟨stop⟩ then
      .ok (String.extract (s.pos ⟨start⟩ h.1) (s.pos ⟨stop⟩ h.2))
    else .error .insideCharacter

variable {a b s t : String} {start stop : Nat}

theorem offsetBefore_of_append (h : a ++ b = s) :
    offsetBefore s.utf8ByteSize b.utf8ByteSize = .ok a.utf8ByteSize := by
  rw [← h, offsetBefore, String.utf8ByteSize_append, if_neg (by omega), Nat.add_sub_cancel]

theorem cut_append (a t b : String) :
    cut (a ++ t ++ b) a.utf8ByteSize (a ++ t).utf8ByteSize = .ok t := by
  have hstart : String.Pos.Raw.IsValid (a ++ t ++ b) ⟨a.utf8ByteSize⟩ :=
    String.Pos.Raw.isValid_iff_exists_append.2 ⟨a, t ++ b, String.append_assoc, rfl⟩
  have hstop : String.Pos.Raw.IsValid (a ++ t ++ b) ⟨(a ++ t).utf8ByteSize⟩ :=
    String.Pos.Raw.isValid_iff_exists_append.2 ⟨a ++ t, b, rfl, rfl⟩
  have hbounds : ¬((a ++ t).utf8ByteSize < a.utf8ByteSize ∨
      (a ++ t ++ b).utf8ByteSize < (a ++ t).utf8ByteSize) := by
    simp only [String.utf8ByteSize_append]
    omega
  have hsize : (a ++ t).utf8ByteSize = a.toByteArray.size + t.toByteArray.size := by
    rw [String.utf8ByteSize_append, String.size_toByteArray, String.size_toByteArray]
  rw [cut, if_neg hbounds, dif_pos ⟨hstart, hstop⟩]
  congr 1
  rw [← String.toByteArray_inj, String.toByteArray_extract, String.toByteArray_append]
  show ((a ++ t).toByteArray ++ b.toByteArray).extract a.utf8ByteSize (a ++ t).utf8ByteSize = _
  rw [← String.size_toByteArray (s := a ++ t), ByteArray.extract_append_size_left,
    String.size_toByteArray, String.toByteArray_append]
  exact ByteArray.extract_append_eq_right (String.size_toByteArray).symm hsize

theorem exists_append_of_cut (h : cut s start stop = .ok t) :
    ∃ a b, s = a ++ t ++ b ∧ start = a.utf8ByteSize ∧ stop = (a ++ t).utf8ByteSize := by
  have hcut := h
  rw [cut] at h
  split at h
  · cases h
  rename_i hbounds
  split at h
  · rename_i hvalid
    obtain ⟨a, v, hs, ha⟩ := String.Pos.Raw.isValid_iff_exists_append.1 hvalid.1
    obtain ⟨u, b, hs', hu⟩ := String.Pos.Raw.isValid_iff_exists_append.1 hvalid.2
    have hav : (s.pos ⟨start⟩ hvalid.1).Splits a v := ⟨hs, ha⟩
    have hub : (s.pos ⟨stop⟩ hvalid.2).Splits u b := ⟨hs', hu⟩
    have hle : s.pos ⟨start⟩ hvalid.1 ≤ s.pos ⟨stop⟩ hvalid.2 :=
      Nat.le_of_not_lt fun hlt => hbounds (.inl hlt)
    obtain ⟨m, rfl, rfl⟩ := (hav.le_iff_exists_eq_append hub).1 hle
    have hstart : start = a.utf8ByteSize := congrArg String.Pos.Raw.byteIdx ha
    have hstop : stop = (a ++ m).utf8ByteSize := congrArg String.Pos.Raw.byteIdx hu
    have hm := cut_append a m b
    rw [← hs', ← hstart, ← hstop, hcut] at hm
    cases hm
    exact ⟨a, b, hs', hstart, hstop⟩
  · cases h

/-- What is cut out stands between a beginning of the text of size `start` and one of size
`stop`. -/
theorem cut_eq_ok_iff :
    cut s start stop = .ok t ↔
      ∃ a b, s = a ++ t ++ b ∧ start = a.utf8ByteSize ∧ stop = (a ++ t).utf8ByteSize := by
  refine ⟨exists_append_of_cut, ?_⟩
  rintro ⟨a, b, rfl, rfl, rfl⟩
  exact cut_append a t b

theorem cut_of_append_left (h : a ++ b = s) : cut s 0 a.utf8ByteSize = .ok a :=
  cut_eq_ok_iff.2 ⟨"", b, by rw [String.empty_append, h], rfl, by rw [String.empty_append]⟩

theorem cut_of_append_right (h : a ++ b = s) : cut s a.utf8ByteSize s.utf8ByteSize = .ok b :=
  cut_eq_ok_iff.2 ⟨a, "", by rw [String.append_empty, h], rfl, by rw [h]⟩

/-- The accented letter takes the second and third byte. -/
example : cut "déjà" 1 3 = .ok "é" ∧ cut "déjà" 0 2 = .error .insideCharacter ∧
    cut "déjà" 4 9 = .error .outOfBounds := by
  refine ⟨?_, ?_, ?_⟩ <;> rfl

end CloudAccessors.Text
