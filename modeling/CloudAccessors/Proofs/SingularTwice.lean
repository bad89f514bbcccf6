import CloudAccessors.Proofs.Rewrites
import Mathlib.Data.List.Basic
import Mathlib.Logic.Function.Iterate
import Mathlib.Tactic.MkIffOfInductiveProp

/-!
# Putting a singular in the singular

Nearly every entry of the lexicon writes an ending that no entry changes any more: all entries that
may fit a word with this ending keep the word (`keptBy`). So a name that was put in the singular
stays as it is, unless it has lost no more than a final `s` (`singularName_singularName_or_losesS`).
What is left then may itself be a plural, such as `data`, or may end in a whole word that was hidden
behind a last word `S`. Since what is left of a word in `s` does not end in another `s`, this
happens at most twice (`singularName_iterate_four`).
-/

namespace CloudAccessors.Noun

open Unicode Rewrite

variable {l p v w σ : List Char} {c : Char} {e : Rewrite}

/-! ### Entries that keep a word -/

/-- The entry changes nothing but perhaps the casing. -/
def Rewrite.keeps (e : Rewrite) : Bool := e.ending == e.replacement

/-- Do all entries that may fit a word in `σ` keep it, up to one that fits for sure? -/
def keptBy (σ : List Char) : List Rewrite → Bool
  | [] => true
  | e :: es =>
    if e.mayFit σ then e.keeps && (e.guard == .always && e.pattern.isSuffixOf σ || keptBy σ es)
    else keptBy σ es

theorem keeps_of_keptBy {es : List Rewrite} (h : keptBy σ es) (hσ : σ <:+ l)
    (hfind : es.find? (·.fits l) = some e) : e.keeps := by
  induction es with
  | nil => cases hfind
  | cons f es ih =>
    rw [List.find?_cons] at hfind
    rw [keptBy] at h
    cases hf : f.fits l with
    | true =>
      rw [hf] at hfind
      obtain rfl : f = e := Option.some.inj hfind
      rw [if_pos (mayFit_of_fits hσ hf), Bool.and_eq_true] at h
      exact h.1
    | false =>
      rw [hf] at hfind
      split at h
      · rw [Bool.and_eq_true, Bool.or_eq_true, Bool.and_eq_true, beq_iff_eq,
          List.isSuffixOf_iff_suffix] at h
        rcases h.2 with ⟨hguard, hpat⟩ | h
        · -- an entry that fits every word in `σ` cannot have been passed over
          obtain ⟨stem, hstem⟩ := hpat.trans hσ
          have : f.fits l := fits_iff.2 ⟨stem, hstem.symm, by rw [hguard]; rfl⟩
          simp [hf] at this
        · exact ih h hfind
      · exact ih h hfind

theorem IsWord.applied_eq_self (hw : IsWord w) (he : e ∈ rewrites) (hk : e.keeps)
    (hf : e.fits (lower w)) : e.applied w = w := by
  have hrep : e.ending = e.replacement := beq_iff_eq.1 hk
  obtain ⟨stem, hstem, -⟩ := fits_iff.1 hf
  have hdrop := lower_drop hstem
  rcases replacement_eq_nil_or_two_le e he with hnil | hlen
  · exact applied_of_nil (hrep.trans hnil) hnil
  · have hlen' : 2 ≤ (w.drop (w.length - e.ending.length)).length := by
      rwa [length_drop hstem]
    have hword : IsWord (w.drop (w.length - e.ending.length)) :=
      hw.of_suffix (fun h => by simp [h] at hlen') (List.drop_suffix _ w)
    have hcase := hword.carryCase_lower (hdrop.symm ▸ isPlain_ending he) hlen'
    rw [hdrop] at hcase
    rw [applied, ← hrep, hcase, List.take_append_drop]

theorem IsWord.singularWord_eq_self (hw : IsWord w)
    (h : ∀ e, rewrites.find? (·.fits (lower w)) = some e → e.keeps) : singularWord w = w := by
  rcases singularWord_eq_self_or_applied w with heq | ⟨e, he, hfind, hfits, heq⟩
  · exact heq
  · rw [heq]
    exact hw.applied_eq_self he (h e hfind) hfits

/-- A name stays as it is if it ends in a word whose letters no entry changes behind any stem. -/
theorem singularName_append_eq_self (hv : IsWord v) (h : keptBy (lower v) rewrites)
    (p : List Char) : singularName (p ++ v) = p ++ v := by
  have hne : p ++ v ≠ [] := List.append_ne_nil_of_right_ne_nil p hv.ne_nil
  refine singularName_eq_self ((isWord_lastWord hne).singularWord_eq_self fun e hfind => ?_)
  exact keeps_of_keptBy h ((suffix_lastWord_append hv p).map _) hfind

/-! ### What the entries leave behind -/

/-- The last entry of all: an `s` is dropped. -/
def bareS : Rewrite := { ending := "s".toList }

/-- A whole word becomes one that begins with the same two letters and is kept. -/
@[mk_iff]
structure Rewrite.EndsInKept (e : Rewrite) : Prop where
  wholeWord : e.guard = .wholeWord
  shape : e.root = [] ∨ e.replacement = []
  length : 2 ≤ e.pattern.length
  take : (e.root ++ e.replacement).take 2 = e.pattern.take 2
  kept : (rewrites.find? (·.fits (e.root ++ e.replacement))).any keeps

instance : DecidablePred Rewrite.EndsInKept := fun e =>
  decidable_of_iff' _ (Rewrite.endsInKept_iff e)

/-- An entry keeps the word, drops an `s`, or writes what no entry changes. -/
theorem rewrites_settle :
    ∀ e ∈ rewrites, e.keeps ∨ e = bareS ∨
      (e.root = [] ∧ e.replacement ≠ [] ∧ keptBy e.replacement rewrites) ∨ e.EndsInKept := by
  decide +kernel

/-- The last word of `p ++ v ++ [c]` is `v ++ [c]`, and it loses its last letter, a single `s`. -/
structure LosesS (p v : List Char) (c : Char) : Prop where
  lastWord_eq : lastWord (p ++ v ++ [c]) = v ++ [c]
  letter : c.toLower = 's'
  single : ∀ d ∈ v.getLast?, d.toLower ≠ 's'
  singularName_eq : singularName (p ++ v ++ [c]) = p ++ v

section
variable (hkept : e.EndsInKept) (hplain : IsPlain e.pattern) (hw : IsWord w)
  (hlow : lower w = e.pattern)
include hkept hplain hw hlow

theorem Rewrite.EndsInKept.carryCase_pattern : carryCase w e.pattern = w := by
  have hlen : 2 ≤ w.length := by
    rw [← length_lower, hlow]
    exact hkept.length
  have := hw.carryCase_lower (hlow ▸ hplain) hlen
  rwa [hlow] at this

theorem Rewrite.EndsInKept.applied_eq : e.applied w = carryCase w (e.root ++ e.replacement) := by
  have hlen : w.length = e.root.length + e.ending.length := by
    rw [← length_lower, hlow, pattern, List.length_append]
  rcases hkept.shape with hroot | hrep
  · rw [applied, hlen, hroot, List.length_nil, Nat.zero_add, Nat.sub_self]
    rfl
  · have hcase := hkept.carryCase_pattern hplain hw hlow
    rw [applied, hrep, carryCase_nil, List.append_nil, List.append_nil, hlen, Nat.add_sub_cancel]
    calc w.take e.root.length = (carryCase w e.pattern).take e.root.length := by rw [hcase]
      _ = carryCase w e.root := by rw [take_carryCase, pattern, List.take_left]

end

theorem Rewrite.EndsInKept.singularName_eq (he : e ∈ rewrites) (hkept : e.EndsInKept)
    (hf : e.fits (lower w)) (hw : IsWord w) (hlast : lastWord (p ++ w) = w) :
    singularName (p ++ e.applied w) = p ++ e.applied w := by
  have hplain := isPlain_of_mem_rewrites e he
  have hlow : lower w = e.pattern := (fits_iff_of_wholeWord hkept.wholeWord).1 hf
  have happ := hkept.applied_eq hplain.1 hw hlow
  have htake := hkept.take
  have hrep : IsPlain (e.root ++ e.replacement) :=
    isPlain_append.2 ⟨(isPlain_append.1 hplain.1).1, hplain.2⟩
  have hne : e.root ++ e.replacement ≠ [] := fun h => by
    rw [h, eq_comm, List.take_nil] at htake
    have := congrArg List.length htake
    have hlen := hkept.length
    simp only [List.length_take, List.length_nil] at this
    omega
  have hword : IsWord (e.applied w) := happ ▸ hrep.isWord_carryCase hne w
  -- both forms begin alike, so that the new one is the last word where the old one was
  have hlast' : lastWord (p ++ e.applied w) = e.applied w := by
    refine lastWord_append_congr hlast hw.ne_nil hword ?_
    calc (e.applied w).take 2 = (carryCase w e.pattern).take 2 := by
          rw [happ, take_carryCase, htake, take_carryCase]
      _ = w.take 2 := by rw [hkept.carryCase_pattern hplain.1 hw hlow]
  refine singularName_eq_self (hlast'.symm ▸ hword.singularWord_eq_self fun e' hfind => ?_)
  rw [happ, hrep.lower_carryCase] at hfind
  have hany := hkept.kept
  rw [hfind] at hany
  exact hany

theorem applied_bareS (v : List Char) (c : Char) : bareS.applied (v ++ [c]) = v := by
  show (v ++ [c]).take ((v ++ [c]).length - 1) ++ carryCase _ [] = v
  rw [carryCase_nil, List.append_nil, List.length_append, List.length_singleton,
    Nat.add_sub_cancel, List.take_left]

theorem keptBy_ss : keptBy ['s', 's'] rewrites := by decide +kernel

theorem exists_eq_append_of_bareS (h : rewrites.find? (·.fits (lower w)) = some bareS) :
    ∃ v c, w = v ++ [c] ∧ c.toLower = 's' ∧ ∀ d ∈ v.getLast?, d.toLower ≠ 's' := by
  have hfits : bareS.fits (lower w) := fits_of_find?_eq_some h
  obtain ⟨stem, hstem, -⟩ := fits_iff.1 hfits
  have hstem : lower w = stem ++ ['s'] := hstem
  rcases List.eq_nil_or_concat w with rfl | ⟨v, c, rfl⟩
  · simp [lower] at hstem
  rw [List.concat_eq_append] at h hstem ⊢
  rw [lower, List.map_append, List.map_singleton] at hstem
  obtain ⟨-, hc⟩ := List.append_inj' hstem rfl
  have hc : c.toLower = 's' := List.singleton_inj.1 hc
  refine ⟨v, c, rfl, hc, fun d hd hd' => ?_⟩
  obtain ⟨u, rfl⟩ := List.getLast?_eq_some_iff.1 hd
  have hss : ['s', 's'] <:+ lower (u ++ [d] ++ [c]) :=
    ⟨lower u, by simp [lower, hc, hd']⟩
  exact absurd (keeps_of_keptBy keptBy_ss hss h) (by decide)

/-- What is in the singular stays as it is, unless no more than a final `s` was lost. -/
theorem singularName_singularName_or_losesS (s : List Char) :
    singularName (singularName s) = singularName s ∨ ∃ p v c, s = p ++ v ++ [c] ∧ LosesS p v c := by
  by_cases hs : s = []
  · rw [hs]
    exact .inl rfl
  obtain ⟨p, w, rfl, hlast, hw, heq⟩ := exists_eq_append_lastWord hs
  have hkept : singularWord w = w → singularName (singularName (p ++ w)) = singularName (p ++ w) :=
    fun h => by rw [heq, h, heq, h]
  rcases singularWord_eq_self_or_applied w with happ | ⟨e, he, hfind, hfits, happ⟩
  · exact .inl (hkept happ)
  rw [happ] at heq hkept
  rcases rewrites_settle e he with hk | rfl | ⟨hroot, hne, hk⟩ | hk
  · exact .inl (hkept (hw.applied_eq_self he hk hfits))
  · right
    obtain ⟨v, c, rfl, hc, hsingle⟩ := exists_eq_append_of_bareS hfind
    rw [applied_bareS] at heq
    rw [← List.append_assoc] at hlast heq ⊢
    exact ⟨p, v, c, rfl, hlast, hc, hsingle, heq⟩
  · -- the new ending is kept behind any stem
    have hrep := (isPlain_of_mem_rewrites e he).2
    left
    rw [heq, applied, ← List.append_assoc]
    refine singularName_append_eq_self (hrep.isWord_carryCase hne _) ?_ _
    rwa [hrep.lower_carryCase]
  · left
    rw [heq]
    exact hk.singularName_eq he hfits hw hlast

/-! ### Repeated singulars -/

theorem LosesS.singularName_singularName {p v : List Char} (h : LosesS p v c) (hv : v ≠ []) :
    singularName (singularName (p ++ v)) = singularName (p ++ v) := by
  rcases singularName_singularName_or_losesS (p ++ v) with heq | ⟨p', v', c', heq, h'⟩
  · exact heq
  · -- the name that is left does not end in an `s`
    have hlast : (p ++ v).getLast? = some c' := by rw [heq, List.getLast?_concat]
    rw [List.getLast?_append_of_ne_nil p hv] at hlast
    exact absurd h'.letter (h.single c' hlast)

/-- A last word that is nothing but an `s` is the whole name, or is `S` behind a lowercase character
or a digit. -/
theorem LosesS.eq_nil_or_startsWord (h : LosesS p [] c) :
    p = [] ∨ c = 'S' ∧ ∃ q x, p = q ++ [x] ∧ startsWord x 'S' none := by
  rcases List.eq_nil_or_concat p with rfl | ⟨q, x, rfl⟩
  · exact .inl rfl
  right
  have hlast := h.lastWord_eq
  rw [List.concat_eq_append, List.append_nil, List.append_assoc] at hlast
  have hs := startsWord_of_lastWord_eq hlast
  have hc : c = 'S' := by
    rcases eq_s_or_eq_S h.letter with rfl | rfl
    · exact absurd (isUppercase_of_startsWord hs) (by decide)
    · rfl
  subst hc
  exact ⟨rfl, q, x, List.concat_eq_append, hs⟩

theorem LosesS.eq_nil_of_losesS {c' : Char} (h : LosesS (p ++ [c']) [] c) (h' : LosesS p [] c') :
    p = [] := by
  rcases h.eq_nil_or_startsWord with hnil | ⟨-, q, x, heq, hs⟩
  · simp at hnil
  obtain ⟨-, hx⟩ := List.append_inj' heq rfl
  obtain rfl : c' = x := List.singleton_inj.1 hx
  rcases h'.eq_nil_or_startsWord with hnil | ⟨rfl, -⟩
  · exact hnil
  · exact absurd hs (by decide)

theorem singularName_iterate_four (s : List Char) :
    singularName (singularName (singularName (singularName s))) =
      singularName (singularName (singularName s)) := by
  rcases singularName_singularName_or_losesS s with h | ⟨p, v, c, rfl, h⟩
  · rw [h, h, h]
  rw [h.singularName_eq]
  by_cases hv : v = []
  · subst hv
    rw [List.append_nil]
    -- the last word is gone, and the word in front of it comes into play
    rcases singularName_singularName_or_losesS p with hp | ⟨p', v', c', rfl, h'⟩
    · rw [hp, hp]
    · rw [h'.singularName_eq]
      by_cases hv' : v' = []
      · subst hv'
        rw [List.append_nil] at h ⊢
        rw [h.eq_nil_of_losesS h']
        rfl
      · rw [h'.singularName_singularName hv']
  · rw [h.singularName_singularName hv, h.singularName_singularName hv]

/-- From the third singular on nothing changes any more. -/
theorem singularize_iterate_add_three (n : Nat) (s : String) :
    singularize^[n + 3] s = singularize^[3] s := by
  induction n with
  | zero => rfl
  | succ n ih =>
    have hfour : singularize (singularize^[3] s) = singularize^[3] s := by
      rw [← String.toList_inj]
      simpa [toList_singularize] using singularName_iterate_four s.toList
    rw [Nat.succ_add, Function.iterate_succ_apply', ih, hfour]

/-- The third singular may still be a new one. -/
example : singularize^[2] "PeoplesS" = "People" ∧ singularize^[3] "PeoplesS" = "Person" := by
  decide +kernel

end CloudAccessors.Noun
