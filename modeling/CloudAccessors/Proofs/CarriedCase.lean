import CloudAccessors.Proofs.CharacterClasses
import CloudAccessors.Proofs.LastWords

/-!
# The casing of ASCII words

The entries of the lexicon are plain: they consist of lowercase ASCII letters. A plain word in the
casing of another text is a word of its own (`isWord_carryCase`), which reads the same in lowercase
(`lower_carryCase`). Within a word the ASCII letters are all lowercase, all uppercase, or
capitalized, so that giving them their own casing changes nothing (`IsWord.carryCase_lower`).
-/

namespace CloudAccessors.Noun

open Unicode

variable {c d x : Char} {m t w σ : List Char}

/-! ### Letters -/

theorem forall_isLower {P : Char → Prop} (h : ∀ n < 26, P (Char.ofNat (97 + n))) (hc : c.isLower) :
    P c := by
  have hrange : 97 ≤ c.toNat ∧ c.toNat ≤ 122 := by
    change (decide (c.val ≥ 'a'.val) && decide (c.val ≤ 'z'.val)) = true at hc
    simpa [UInt32.le_iff_toNat_le, ← Char.toNat_val] using hc
  have := h (c.toNat - 97) (by omega)
  rwa [Nat.add_sub_cancel' hrange.1, Char.ofNat_toNat] at this

theorem forall_isUpper {P : Char → Prop} (h : ∀ n < 26, P (Char.ofNat (65 + n))) (hc : c.isUpper) :
    P c := by
  have hrange : 65 ≤ c.toNat ∧ c.toNat ≤ 90 := by
    change decide (c.val ≥ 'A'.val ∧ c.val ≤ 'Z'.val) = true at hc
    simpa [UInt32.le_iff_toNat_le, ← Char.toNat_val] using hc
  have := h (c.toNat - 65) (by omega)
  rwa [Nat.add_sub_cancel' hrange.1, Char.ofNat_toNat] at this

theorem toLower_of_not_isUpper (h : c.isUpper = false) : c.toLower = c :=
  dif_neg (of_decide_eq_false h)

theorem toLower_eq_self (h : isUppercase c = false) : c.toLower = c := by
  refine toLower_of_not_isUpper ?_
  cases hc : c.isUpper with
  | false => rfl
  | true =>
    have := forall_isUpper (P := fun c => isUppercase c = true) (by decide) hc
    exact absurd this (by simp [h])

theorem eq_toLower_or_eq_toUpper_toLower (x : Char) : x = x.toLower ∨ x = x.toLower.toUpper := by
  cases hx : x.isUpper with
  | false => exact .inl (toLower_of_not_isUpper hx).symm
  | true => exact .inr (forall_isUpper (P := fun x => x = x.toLower.toUpper) (by decide) hx)

theorem eq_s_or_eq_S (h : c.toLower = 's') : c = 's' ∨ c = 'S' := by
  rcases eq_toLower_or_eq_toUpper_toLower c with hc | hc
  · exact .inl (hc.trans h)
  · rw [h] at hc
    exact .inr hc

/-- What is known of a lowercase letter, and of the letter in uppercase. -/
structure Letter (c : Char) : Prop where
  toLower : c.toLower = c
  toLower_toUpper : c.toUpper.toLower = c
  lowercase : isLowercase c = true
  not_uppercase : isUppercase c = false
  alphabetic : isAlphabetic c = true
  uppercase_toUpper : isUppercase c.toUpper = true
  not_lowercase_toUpper : isLowercase c.toUpper = false
  alphabetic_toUpper : isAlphabetic c.toUpper = true
  not_digit_toUpper : c.toUpper.isDigit = false

theorem letter_of_isLower (h : c.isLower) : Letter c where
  toLower := forall_isLower (P := fun c => c.toLower = c) (by decide) h
  toLower_toUpper := forall_isLower (P := fun c => c.toUpper.toLower = c) (by decide) h
  lowercase := forall_isLower (P := fun c => isLowercase c = true) (by decide) h
  not_uppercase := forall_isLower (P := fun c => isUppercase c = false) (by decide) h
  alphabetic := forall_isLower (P := fun c => isAlphabetic c = true) (by decide) h
  uppercase_toUpper := forall_isLower (P := fun c => isUppercase c.toUpper = true) (by decide) h
  not_lowercase_toUpper :=
    forall_isLower (P := fun c => isLowercase c.toUpper = false) (by decide) h
  alphabetic_toUpper := forall_isLower (P := fun c => isAlphabetic c.toUpper = true) (by decide) h
  not_digit_toUpper := forall_isLower (P := fun c => c.toUpper.isDigit = false) (by decide) h

/-! ### Plain words -/

/-- A text of lowercase ASCII letters. -/
def IsPlain (σ : List Char) : Prop := ∀ c ∈ σ, c.isLower

instance : DecidablePred IsPlain := fun σ =>
  decidable_of_iff (σ.all Char.isLower = true) List.all_eq_true

theorem isPlain_cons : IsPlain (c :: σ) ↔ c.isLower ∧ IsPlain σ := List.forall_mem_cons

theorem isPlain_append : IsPlain (σ ++ t) ↔ IsPlain σ ∧ IsPlain t := List.forall_mem_append

theorem IsPlain.letter (h : IsPlain σ) (hc : c ∈ σ) : Letter c := letter_of_isLower (h c hc)

theorem IsPlain.not_uppercase (h : IsPlain σ) : ∀ c ∈ σ, isUppercase c = false :=
  fun _ hc => (h.letter hc).not_uppercase

theorem lower_eq_self (h : ∀ c ∈ w, isUppercase c = false) : lower w = w :=
  List.map_congr_left (fun c hc => toLower_eq_self (h c hc)) |>.trans (List.map_id w)

theorem IsPlain.lower_eq (h : IsPlain σ) : lower σ = σ := lower_eq_self h.not_uppercase

theorem IsPlain.lower_upper (h : IsPlain σ) : lower (upper σ) = σ := by
  rw [lower, upper, List.map_map]
  exact List.map_congr_left (fun c hc => (h.letter hc).toLower_toUpper) |>.trans (List.map_id σ)

theorem IsPlain.lower_capitalize (h : IsPlain σ) : lower (capitalize σ) = σ := by
  cases σ with
  | nil => rfl
  | cons c σ =>
    show c.toUpper.toLower :: lower σ = c :: σ
    rw [(h.letter List.mem_cons_self).toLower_toUpper, (isPlain_cons.1 h).2.lower_eq]

theorem carryCase_cases (m σ : List Char) :
    carryCase m σ = upper σ ∨ carryCase m σ = capitalize σ ∨ carryCase m σ = σ := by
  unfold carryCase
  split
  · exact .inl rfl
  split
  · exact .inr (.inl rfl)
  · exact .inr (.inr rfl)

theorem carryCase_nil (m : List Char) : carryCase m [] = [] := by
  rcases carryCase_cases m [] with h | h | h <;> exact h

theorem IsPlain.lower_carryCase (h : IsPlain σ) (m : List Char) : lower (carryCase m σ) = σ := by
  rcases carryCase_cases m σ with hm | hm | hm <;> rw [hm]
  · exact h.lower_upper
  · exact h.lower_capitalize
  · exact h.lower_eq

theorem carryCase_of_not_uppercase (h : ∀ c ∈ m, isUppercase c = false) : carryCase m σ = σ := by
  have hall : isAllUppercase m = false := by
    unfold isAllUppercase
    cases hletters : m.filter isAlphabetic with
    | nil => rfl
    | cons c letters =>
      have hc : c ∈ m := (List.mem_filter.1 (hletters ▸ List.mem_cons_self)).1
      simp [h c hc]
  have hhead : m.head?.any isUppercase = false := by
    cases m with
    | nil => rfl
    | cons c m => exact h c List.mem_cons_self
  rw [carryCase, hall, hhead]
  rfl

theorem isAllUppercase_of_forall (h : ∀ c ∈ m, isUppercase c) (hlen : 2 ≤ m.length) :
    isAllUppercase m := by
  have hletters : m.filter isAlphabetic = m :=
    List.filter_eq_self.2 fun c hc => isAlphabetic_of_isUppercase (h c hc)
  rw [isAllUppercase, hletters, Bool.and_eq_true, List.all_eq_true]
  exact ⟨decide_eq_true hlen, h⟩

theorem isUppercase_head_carryCase (hm : m.head?.any isUppercase) (hσ : IsPlain σ) (hne : σ ≠ []) :
    (carryCase m σ).head?.any isUppercase := by
  obtain ⟨c, σ, rfl⟩ := List.exists_cons_of_ne_nil hne
  have hc := (hσ.letter List.mem_cons_self).uppercase_toUpper
  rw [carryCase, if_pos hm]
  split
  · exact hc
  · exact hc

theorem take_carryCase (n : Nat) (m σ : List Char) :
    (carryCase m σ).take n = carryCase m (σ.take n) := by
  have hcap : (capitalize σ).take n = capitalize (σ.take n) := by
    cases σ <;> cases n <;> rfl
  unfold carryCase
  split
  · exact List.map_take.symm
  split
  · exact hcap
  · rfl

/-! ### Plain words are words -/

/-- No second word begins without an uppercase character. -/
theorem isWord_of_not_uppercase (h : ∀ d ∈ t, isUppercase d = false) : IsWord (c :: t) := by
  induction t generalizing c with
  | nil => exact isWord_singleton c
  | cons d t ih =>
    rw [isWord_cons_cons]
    refine ⟨?_, ih fun e he => h e (List.mem_cons_of_mem d he)⟩
    simp [startsWord, h d List.mem_cons_self]

/-- Nor does one begin without a lowercase character or a digit. -/
theorem isWord_of_not_lowercase (h : ∀ d ∈ c :: t, isLowercase d = false ∧ d.isDigit = false) :
    IsWord (c :: t) := by
  induction t generalizing c with
  | nil => exact isWord_singleton c
  | cons d t ih =>
    rw [isWord_cons_cons]
    refine ⟨?_, ih fun e he => h e (List.mem_cons_of_mem c he)⟩
    have hc := h c List.mem_cons_self
    have hnext : t.head?.any isLowercase = false := by
      cases t with
      | nil => rfl
      | cons e t => exact (h e (by simp)).1
    simp [startsWord, hc.1, hc.2, hnext]

theorem IsPlain.isWord_carryCase (h : IsPlain σ) (hne : σ ≠ []) (m : List Char) :
    IsWord (carryCase m σ) := by
  obtain ⟨c, σ, rfl⟩ := List.exists_cons_of_ne_nil hne
  have htail : ∀ d ∈ σ, isUppercase d = false := (isPlain_cons.1 h).2.not_uppercase
  rcases carryCase_cases m (c :: σ) with hm | hm | hm <;> rw [hm]
  · have hup : ∀ d ∈ upper (c :: σ), isLowercase d = false ∧ d.isDigit = false := fun d hd => by
      obtain ⟨e, he, rfl⟩ := List.mem_map.1 hd
      exact ⟨(h.letter he).not_lowercase_toUpper, (h.letter he).not_digit_toUpper⟩
    exact isWord_of_not_lowercase hup
  · exact isWord_of_not_uppercase htail
  · exact isWord_of_not_uppercase htail

/-! ### Words of letters -/

theorem toLower_eq_or_uppercase (hx : x.toLower.isLower) :
    x.toLower = x ∧ Letter x ∨ x.toLower.toUpper = x ∧ isUppercase x ∧ isLowercase x = false := by
  have hl := letter_of_isLower hx
  rcases eq_toLower_or_eq_toUpper_toLower x with h | h
  · exact .inl ⟨h.symm, h ▸ hl⟩
  · exact .inr ⟨h.symm, h ▸ hl.uppercase_toUpper, h ▸ hl.not_lowercase_toUpper⟩

theorem isAlphabetic_of_toLower (hx : x.toLower.isLower) : isAlphabetic x := by
  have hl := letter_of_isLower hx
  rcases eq_toLower_or_eq_toUpper_toLower x with h | h
  · exact h ▸ hl.alphabetic
  · exact h ▸ hl.alphabetic_toUpper

/-- Behind a lowercase letter a word of letters goes on in lowercase. -/
theorem IsWord.lower_tail (h : IsWord (c :: t)) (hc : isLowercase c) (hp : IsPlain (lower t)) :
    lower t = t := by
  induction t generalizing c with
  | nil => rfl
  | cons d t ih =>
    obtain ⟨hd, htail⟩ := isPlain_cons.1 hp
    rw [isWord_cons_cons] at h
    rcases toLower_eq_or_uppercase hd with ⟨hlow, hl⟩ | ⟨-, hup, -⟩
    · show d.toLower :: lower t = d :: t
      rw [hlow, ih h.2 hl.lowercase htail]
    · exact absurd h.1 (by simp [startsWord, hup, hc])

/-- Behind two uppercase letters a word of letters goes on in uppercase. -/
theorem IsWord.upper_tail (h : IsWord (c :: d :: t)) (hc : isUppercase c) (hd : isUppercase d)
    (hp : IsPlain (lower t)) : upper (lower t) = t ∧ ∀ e ∈ t, isUppercase e := by
  induction t generalizing c d with
  | nil => exact ⟨rfl, by simp⟩
  | cons e t ih =>
    obtain ⟨he, htail⟩ := isPlain_cons.1 hp
    rw [isWord_cons_cons] at h
    rcases toLower_eq_or_uppercase he with ⟨-, hl⟩ | ⟨hlow, hup, -⟩
    · exact absurd h.1 (by simp [startsWord, hc, hd, hl.lowercase])
    · obtain ⟨heq, hall⟩ := ih h.2 hd hup htail
      refine ⟨?_, fun x hx => ?_⟩
      · show e.toLower.toUpper :: upper (lower t) = e :: t
        rw [hlow, heq]
      · rcases List.mem_cons.1 hx with rfl | hx
        · exact hup
        · exact hall x hx

/-- A word of letters keeps its casing when it is given its own. -/
theorem IsWord.carryCase_lower (h : IsWord m) (hp : IsPlain (lower m)) (hlen : 2 ≤ m.length) :
    carryCase m (lower m) = m := by
  match m, hlen with
  | c :: d :: t, _ =>
  obtain ⟨hc, htail'⟩ : c.toLower.isLower ∧ IsPlain (lower (d :: t)) := isPlain_cons.1 hp
  obtain ⟨hd, htail⟩ : d.toLower.isLower ∧ IsPlain (lower t) := isPlain_cons.1 htail'
  rcases toLower_eq_or_uppercase hc with ⟨hlow, hl⟩ | ⟨hup, huc, hnc⟩
  · -- all lowercase
    have hall : isAllUppercase (c :: d :: t) = false := by
      simp [isAllUppercase, hl.alphabetic, hl.not_uppercase]
    have heq : lower (c :: d :: t) = c :: d :: t := by
      show c.toLower :: lower (d :: t) = _
      rw [hlow, h.lower_tail hl.lowercase htail']
    rw [heq, carryCase, if_neg (by simp [hall]), if_neg (by simp [hl.not_uppercase])]
  have hword := (isWord_cons_cons.1 h).2
  rcases toLower_eq_or_uppercase hd with ⟨hlow, hl⟩ | ⟨hup', huc', -⟩
  · -- capitalized
    have hall : isAllUppercase (c :: d :: t) = false := by
      unfold isAllUppercase
      cases isAlphabetic c <;> simp [hl.alphabetic, hl.not_uppercase]
    have heq : lower (c :: d :: t) = c.toLower :: d :: t := by
      show c.toLower :: d.toLower :: lower t = _
      rw [hlow, hword.lower_tail hl.lowercase htail]
    rw [heq, carryCase, if_neg (by simp [hall]), if_pos (by simpa using huc), capitalize, hup]
  · -- all uppercase
    obtain ⟨htup, hall⟩ := h.upper_tail huc huc' htail
    have hups : isAllUppercase (c :: d :: t) :=
      isAllUppercase_of_forall (by simpa [huc, huc'] using hall) (by simp)
    rw [carryCase, if_pos hups]
    show c.toLower.toUpper :: d.toLower.toUpper :: upper (lower t) = _
    rw [hup, hup', htup]

end CloudAccessors.Noun
