import CloudAccessors.Proofs.Rewrites
import Mathlib

/-!
# Words in another casing

The entry of the lexicon that decides on a word is found in its lowercase form, and what it writes
has the casing of what it replaces. So a word in lowercase has its singular in lowercase, and a word
in uppercase has it in uppercase (`singularWord_recased`). The second needs that no entry writes
anything for a single letter, which could not be told from a capital.
-/

namespace CloudAccessors.Noun

open Unicode Rewrite

variable {m v w σ : List Char} {e : Rewrite}

theorem lower_lower (w : List Char) : lower (lower w) = lower w := by simp [lower]

theorem lower_upper (w : List Char) : lower (upper w) = lower w := by simp [lower, upper]

theorem upper_lower (w : List Char) : upper (lower w) = upper w := by simp [lower, upper]

theorem IsPlain.isUppercase_of_mem_upper {c : Char} (h : IsPlain σ) (hc : c ∈ upper σ) :
    isUppercase c := by
  obtain ⟨d, hd, rfl⟩ := List.mem_map.1 hc
  exact (h.letter hd).uppercase_toUpper

theorem IsPlain.upper_carryCase (h : IsPlain σ) (m : List Char) :
    upper (carryCase m σ) = upper σ := by
  rw [← upper_lower, h.lower_carryCase]

/-! ### The entries -/

namespace Rewrite

theorem carryCase_of_uppercase (he : e ∈ rewrites) (hm : ∀ c ∈ m, isUppercase c)
    (hlen : m.length = e.ending.length) : carryCase m e.replacement = upper e.replacement := by
  rcases replacement_eq_nil_or_two_le e he with hnil | htwo
  · rw [hnil, carryCase_nil]
    rfl
  · rw [carryCase, if_pos (isAllUppercase_of_forall hm (hlen ▸ htwo))]

/-- What is kept of a word is recased with it, so that only the new ending is in question. -/
theorem applied_map (f : Char → Char)
    (h : carryCase ((w.drop (w.length - e.ending.length)).map f) e.replacement =
      (carryCase (w.drop (w.length - e.ending.length)) e.replacement).map f) :
    e.applied (w.map f) = (e.applied w).map f := by
  rw [applied, applied, List.length_map, ← List.map_take, ← List.map_drop, h, List.map_append]

theorem applied_lower (he : e ∈ rewrites) (hf : e.fits (lower w)) :
    e.applied (lower w) = lower (e.applied w) := by
  obtain ⟨stem, hstem, -⟩ := fits_iff.1 hf
  refine applied_map Char.toLower ?_
  rw [← lower, ← lower, lower_drop hstem,
    carryCase_of_not_uppercase (isPlain_ending he).not_uppercase,
    (isPlain_of_mem_rewrites e he).2.lower_carryCase]

theorem applied_upper (he : e ∈ rewrites) (hf : e.fits (lower w)) :
    e.applied (upper w) = upper (e.applied w) := by
  obtain ⟨stem, hstem, -⟩ := fits_iff.1 hf
  have hending : ∀ c ∈ upper e.ending, isUppercase c := fun c hc =>
    (isPlain_ending he).isUppercase_of_mem_upper hc
  refine applied_map Char.toUpper ?_
  rw [← upper, ← upper, ← upper_lower, lower_drop hstem,
    carryCase_of_uppercase he hending (length_upper _),
    (isPlain_of_mem_rewrites e he).2.upper_carryCase]

/-- Among uppercase letters an entry writes uppercase letters. -/
theorem uppercase_applied (he : e ∈ rewrites) (hf : e.fits (lower w))
    (h : ∀ c ∈ w, isAlphabetic c → isUppercase c) :
    ∀ c ∈ e.applied w, isAlphabetic c → isUppercase c := by
  obtain ⟨stem, hstem, -⟩ := fits_iff.1 hf
  have hletters : ∀ c ∈ w.drop (w.length - e.ending.length), isUppercase c := by
    intro c hc
    refine h c (List.mem_of_mem_drop hc) (isAlphabetic_of_toLower (isPlain_ending he _ ?_))
    rw [← lower_drop hstem]
    exact List.mem_map_of_mem hc
  rw [applied, carryCase_of_uppercase he hletters (length_drop hstem)]
  intro c hc halpha
  rcases List.mem_append.1 hc with hc | hc
  · exact h c (List.mem_of_mem_take hc) halpha
  · exact (isPlain_of_mem_rewrites e he).2.isUppercase_of_mem_upper hc

end Rewrite

/-! ### The words -/

theorem singularWord_of_lower_eq (h : lower v = lower w) :
    singularWord v = ((rewrites.find? (·.fits (lower w))).map (·.applied v)).getD v := by
  rw [singularWord_eq, answer?, h]

theorem singularWord_lower (w : List Char) : singularWord (lower w) = lower (singularWord w) := by
  rw [singularWord_of_lower_eq (lower_lower w), singularWord_eq, answer?]
  cases hfind : rewrites.find? (·.fits (lower w)) with
  | none => rfl
  | some e => exact applied_lower (List.mem_of_find?_eq_some hfind) (fits_of_find?_eq_some hfind)

theorem singularWord_upper (w : List Char) : singularWord (upper w) = upper (singularWord w) := by
  rw [singularWord_of_lower_eq (lower_upper w), singularWord_eq, answer?]
  cases hfind : rewrites.find? (·.fits (lower w)) with
  | none => rfl
  | some e => exact applied_upper (List.mem_of_find?_eq_some hfind) (fits_of_find?_eq_some hfind)

/-- Putting a word in the singular commutes with recasing it, one entry decides on a word in every
casing, and a word without letters other than uppercase ones has no others in the singular. -/
theorem singularWord_recased (w : List Char) :
    singularWord (lower w) = lower (singularWord w) ∧
    singularWord (upper w) = upper (singularWord w) ∧
    (∃ e? : Option Rewrite, ∀ v, lower v = lower w →
      rewrites.find? (·.fits (lower v)) = e? ∧ singularWord v = (e?.map (·.applied v)).getD v) ∧
    ((∀ c ∈ w, isAlphabetic c → isUppercase c) →
      ∀ c ∈ singularWord w, isAlphabetic c → isUppercase c) := by
  refine ⟨singularWord_lower w, singularWord_upper w, ?_, ?_⟩
  · refine ⟨rewrites.find? (·.fits (lower w)), fun v hv => ⟨?_, singularWord_of_lower_eq hv⟩⟩
    rw [hv]
  · intro h
    rcases singularWord_eq_self_or_applied w with heq | ⟨e, he, -, hfits, heq⟩
    · rw [heq]
      exact h
    · rw [heq]
      exact uppercase_applied he hfits h

/-- A digit in front of the ending does not keep a word from being all uppercase. -/
theorem singularWord_v2_addresses :
    singularWord "V2ADDRESSES".toList = "V2ADDRESS".toList ∧
      ∀ c ∈ "V2ADDRESS".toList, isAlphabetic c → isUppercase c := by
  have hword : singularWord "v2addresses".toList = "v2address".toList := by decide +kernel
  have hupper := (singularWord_recased "v2addresses".toList).2.1
  rw [hword] at hupper
  have hsingular : singularWord "V2ADDRESSES".toList = "V2ADDRESS".toList := hupper
  refine ⟨hsingular, ?_⟩
  have hall := (singularWord_recased "V2ADDRESSES".toList).2.2.2 ?_
  · rwa [hsingular] at hall
  · have : "V2ADDRESSES".toList.all (fun c => !isAlphabetic c || isUppercase c) := by decide
    intro c hc halpha
    simpa [halpha] using List.all_eq_true.1 this c hc

end CloudAccessors.Noun
