import CloudAccessors.Proofs.CarriedCase
import Mathlib.Data.List.Basic

/-!
# The lexicon as one list of rewrites

Every entry of the lexicon says the same kind of thing: of a word with a certain ending the last
characters are replaced. `rewrites` has them all in the order in which they are asked, and
`singularWord_eq` says that the first one that fits the lowercase word decides. For a word with a
known ending only a few of them come into question (`find?_fits_of_suffix`), and which ones is
computed.
-/

namespace CloudAccessors.Noun

variable {l m stem w σ : List Char} {s : String} {rule : EndingRule}

/-- A word whose lowercase form is a stem that the guard admits, `root` and `ending` has the ending
replaced. -/
structure Rewrite where
  root : List Char := []
  ending : List Char := []
  replacement : List Char := []
  guard : Guard := .always
deriving DecidableEq, Repr

namespace Rewrite

variable {e : Rewrite}

/-- What a lowercase word has to end in. -/
def pattern (e : Rewrite) : List Char := e.root ++ e.ending

/-- Does the entry apply to a lowercase word? -/
def fits (e : Rewrite) (l : List Char) : Bool := (e.pattern.isSuffixOf? l).any e.guard.admits

def applied (e : Rewrite) (w : List Char) : List Char :=
  let kept := w.length - e.ending.length
  w.take kept ++ carryCase (w.drop kept) e.replacement

/-! ### The entries -/

/-- The word stays as it is. -/
def keepWord (s : String) : Rewrite := { root := s.toList, guard := .wholeWord }

/-- The plural in `es` of a singular in `s`. -/
def dropEs (s : String) : Rewrite :=
  { root := s.toList, ending := "es".toList, guard := .wholeWord }

def irregular (singular plural : String) : Rewrite :=
  { ending := plural.toList, replacement := singular.toList, guard := .wholeWord }

def ofRule (rule : EndingRule) : Rewrite :=
  if rule.plural = rule.singular then { root := rule.plural.toList, guard := rule.guard }
  else
    { ending := rule.plural.toList, replacement := rule.singular.toList, guard := rule.guard }

/-- An ending of a noun in `-sis`; the singular is written anew even if it is there. -/
def sis (root ending : String) : Rewrite :=
  { ending := root.toList ++ ending.toList, replacement := root.toList ++ "sis".toList }

end Rewrite

open Rewrite

/-- All entries of the lexicon in the order in which they are asked. -/
def rewrites : List Rewrite :=
  invariantWords.map keepWord ++
  singularsInS.flatMap (fun s => [keepWord s, dropEs s]) ++
  irregularNouns.flatMap (fun noun => [irregular noun.1 noun.2, keepWord noun.1]) ++
  leadingRules.map ofRule ++
  sisStems.flatMap (fun root => [sis root "ses", sis root "sis"]) ++
  trailingRules.map ofRule

/-! ### Endings -/

namespace Rewrite

variable {e : Rewrite}

theorem fits_iff : e.fits l ↔ ∃ stem, l = stem ++ e.pattern ∧ e.guard.admits stem := by
  rw [fits, Option.any_eq_true]
  refine exists_congr fun stem => ?_
  rw [List.isSuffixOf?_eq_some_iff_append_eq, eq_comm]

theorem fits_iff_of_wholeWord (h : e.guard = .wholeWord) : e.fits l ↔ l = e.pattern := by
  rw [fits_iff, h]
  constructor
  · rintro ⟨stem, rfl, hstem⟩
    rw [List.isEmpty_iff.1 hstem, List.nil_append]
  · rintro rfl
    exact ⟨[], rfl, rfl⟩

theorem fits_of_find?_eq_some {es : List Rewrite} (h : es.find? (·.fits l) = some e) :
    e.fits l := by
  simpa using List.find?_some h

theorem fits_eq_false_of_ne (hguard : e.guard = .wholeWord) (h : l ≠ e.pattern) :
    e.fits l = false :=
  Bool.eq_false_iff.2 fun hfits => h ((fits_iff_of_wholeWord hguard).1 hfits)

theorem fits_eq_false_of_not_suffix (h : ¬ e.pattern <:+ l) : e.fits l = false :=
  Bool.eq_false_iff.2 fun hfits => by
    obtain ⟨stem, hstem, -⟩ := fits_iff.1 hfits
    exact h ⟨stem, hstem.symm⟩

/-- The stem and the root are kept. -/
theorem length_kept (h : lower w = stem ++ e.pattern) :
    w.length - e.ending.length = (stem ++ e.root).length := by
  rw [← length_lower w, h, pattern, ← List.append_assoc, List.length_append, Nat.add_sub_cancel]

theorem applied_of_nil (h : e.ending = []) (hr : e.replacement = []) : e.applied w = w := by
  simp [applied, h, hr, carryCase_nil]

/-! ### What the entries answer -/

theorem fits_keepWord : (keepWord s).fits l ↔ l = s.toList := by
  rw [fits_iff_of_wholeWord rfl, pattern, keepWord, List.append_nil]

theorem fits_dropEs : (dropEs s).fits l ↔ l = s.toList ++ "es".toList :=
  fits_iff_of_wholeWord rfl

theorem fits_irregular {plural : String} : (irregular s plural).fits l ↔ l = plural.toList :=
  fits_iff_of_wholeWord rfl

theorem applied_keepWord : (keepWord s).applied w = w := applied_of_nil rfl rfl

theorem applied_dropEs (h : lower w = s.toList ++ "es".toList) :
    (dropEs s).applied w = w.take s.length := by
  have hlen : w.length = s.length + 2 := by
    rw [← length_lower, h, List.length_append, String.length_toList]
    rfl
  show w.take (w.length - 2) ++ carryCase (w.drop (w.length - 2)) [] = _
  rw [carryCase_nil, List.append_nil, hlen, Nat.add_sub_cancel]

theorem applied_irregular {plural : String} (h : lower w = plural.toList) :
    (irregular s plural).applied w = carryCase w s.toList := by
  have hlen : w.length - plural.toList.length = 0 := by
    rw [← h, length_lower, Nat.sub_self]
  show w.take (w.length - plural.toList.length) ++
    carryCase (w.drop (w.length - plural.toList.length)) s.toList = _
  rw [hlen]
  rfl

theorem applied_ofRule_of_eq (h : rule.plural = rule.singular) : (ofRule rule).applied w = w := by
  rw [ofRule, if_pos h]
  exact applied_of_nil rfl rfl

end Rewrite

/-! ### The words -/

/-- What the first of the entries that fits makes of a word. -/
def answer? (es : List Rewrite) (w : List Char) : Option (List Char) :=
  (es.find? (·.fits (lower w))).map (·.applied w)

theorem answer?_cons (e : Rewrite) (es : List Rewrite) (w : List Char) :
    answer? (e :: es) w = if e.fits (lower w) then some (e.applied w) else answer? es w := by
  rw [answer?, List.find?_cons]
  cases e.fits (lower w) <;> rfl

theorem answer?_append (es fs : List Rewrite) (w : List Char) :
    answer? (es ++ fs) w = (answer? es w).or (answer? fs w) := by
  rw [answer?, List.find?_append, Option.map_or]
  rfl

theorem answer?_flatMap {α : Type} (f : α → List Rewrite) (xs : List α) (w : List Char) :
    answer? (xs.flatMap f) w = xs.findSome? fun x => answer? (f x) w := by
  rw [answer?, List.find?_flatMap, List.map_findSome?]
  rfl

theorem answer?_map {α : Type} (f : α → Rewrite) (xs : List α) (w : List Char) :
    answer? (xs.map f) w =
      xs.findSome? fun x => if (f x).fits (lower w) then some ((f x).applied w) else none := by
  induction xs with
  | nil => rfl
  | cons x xs ih =>
    rw [List.map_cons, answer?_cons, ih, List.findSome?_cons]
    cases (f x).fits (lower w) <;> rfl

theorem answer?_invariantWords (w : List Char) :
    answer? (invariantWords.map keepWord) w =
      if invariantWords.any (·.toList = lower w) then some w else none := by
  rw [answer?_map]
  simp only [fits_keepWord, applied_keepWord]
  induction invariantWords with
  | nil => rfl
  | cons s ss ih =>
    rw [List.findSome?_cons, List.any_cons, ih]
    by_cases h : s.toList = lower w
    · simp [h]
    · simp [h, Ne.symm h]

theorem answer?_singularsInS (w : List Char) :
    answer? (singularsInS.flatMap fun s => [keepWord s, dropEs s]) w = fromSingularInS? w := by
  rw [answer?_flatMap, fromSingularInS?]
  congr 1
  funext s
  rw [answer?_cons, answer?_cons]
  simp only [fits_keepWord, fits_dropEs, applied_keepWord]
  split
  · rfl
  split
  · rename_i h
    rw [applied_dropEs h]
  · rfl

theorem answer?_irregularNouns (w : List Char) :
    answer? (irregularNouns.flatMap fun noun => [irregular noun.1 noun.2, keepWord noun.1]) w =
      fromIrregular? w := by
  rw [answer?_flatMap, fromIrregular?]
  congr 1
  funext noun
  rw [answer?_cons, answer?_cons]
  simp only [fits_keepWord, fits_irregular, applied_keepWord]
  split
  · rename_i h
    rw [applied_irregular h]
  · rfl

theorem replaceAfter_eq_applied {e : Rewrite} {replacement : String}
    (hr : e.replacement = replacement.toList) (hroot : e.root = [])
    (h : lower w = stem ++ e.pattern) :
    replaceAfter stem.length replacement w = e.applied w := by
  rw [replaceAfter, applied, hr, length_kept h, hroot, List.append_nil]

theorem answer?_ofRule (rule : EndingRule) (w : List Char) :
    (if (ofRule rule).fits (lower w) then some ((ofRule rule).applied w) else none) =
      rule.rewritten? w := by
  have hpat : (ofRule rule).pattern = rule.plural.toList := by
    rw [ofRule, pattern]
    split
    · exact List.append_nil _
    · rfl
  have hguard : (ofRule rule).guard = rule.guard := by
    rw [ofRule]
    split <;> rfl
  rw [fits, hpat, hguard, EndingRule.rewritten?, stem?]
  cases hs : rule.plural.toList.isSuffixOf? (lower w) with
  | none => rfl
  | some stem =>
    cases hadm : rule.guard.admits stem with
    | false => simp [hadm]
    | true =>
      by_cases heq : rule.plural = rule.singular
      · simp [hadm, heq, applied_ofRule_of_eq]
      · have happ : replaceAfter stem.length rule.singular w = (ofRule rule).applied w :=
          replaceAfter_eq_applied (by simp [ofRule, heq]) (by simp [ofRule, heq])
            (hpat ▸ (List.isSuffixOf?_eq_some_iff_append_eq.1 hs).symm)
        simp [hadm, heq, happ]

theorem answer?_rules (rules : List EndingRule) (w : List Char) :
    answer? (rules.map ofRule) w = fromRules? rules w := by
  rw [answer?_map, fromRules?]
  simp only [answer?_ofRule]

theorem answer?_sisStems (w : List Char) :
    answer? (sisStems.flatMap fun root => [sis root "ses", sis root "sis"]) w = fromSis? w := by
  have hone : ∀ root ending : String,
      (if (sis root ending).fits (lower w) then some ((sis root ending).applied w) else none) =
        (stem? (root ++ ending) w).map fun stem => replaceAfter stem.length (root ++ "sis") w := by
    intro root ending
    have hpat : (sis root ending).pattern = (root ++ ending).toList := by
      rw [pattern, sis, List.nil_append, String.toList_append]
    rw [fits, hpat, stem?]
    cases hs : (root ++ ending).toList.isSuffixOf? (lower w) with
    | none => rfl
    | some stem =>
      have happ : replaceAfter stem.length (root ++ "sis") w = (sis root ending).applied w :=
        replaceAfter_eq_applied (String.toList_append ..).symm rfl
          (hpat ▸ (List.isSuffixOf?_eq_some_iff_append_eq.1 hs).symm)
      simp [happ, sis, Guard.admits]
  rw [answer?_flatMap, fromSis?]
  congr 1
  funext root
  rw [List.findSome?_cons, List.findSome?_cons, ← hone, ← hone, answer?_cons, answer?_cons]
  cases (sis root "ses").fits (lower w) with
  | true => rfl
  | false => cases (sis root "sis").fits (lower w) <;> rfl

/-- The first entry that fits the lowercase word decides what becomes of it. -/
theorem singularWord_eq (w : List Char) : singularWord w = (answer? rewrites w).getD w := by
  simp only [singularWord, rewrites, answer?_append, answer?_invariantWords, answer?_singularsInS,
    answer?_irregularNouns, answer?_rules, answer?_sisStems]
  split
  · rfl
  · simp [Option.or_assoc]

theorem singularWord_eq_applied {e : Rewrite} (h : rewrites.find? (·.fits (lower w)) = some e) :
    singularWord w = e.applied w := by
  rw [singularWord_eq, answer?, h]
  rfl

/-- A word that no entry fits stays as it is. -/
theorem singularWord_eq_self_or_applied (w : List Char) :
    singularWord w = w ∨
      ∃ e ∈ rewrites, rewrites.find? (·.fits (lower w)) = some e ∧ e.fits (lower w) ∧
        singularWord w = e.applied w := by
  cases hfind : rewrites.find? (·.fits (lower w)) with
  | none =>
    left
    rw [singularWord_eq, answer?, hfind]
    rfl
  | some e =>
    exact .inr ⟨e, List.mem_of_find?_eq_some hfind, rfl, fits_of_find?_eq_some hfind,
      singularWord_eq_applied hfind⟩

/-! ### Words with a known ending -/

/-- May the entry fit a word that ends in `σ`? -/
def Rewrite.mayFit (σ : List Char) (e : Rewrite) : Bool :=
  σ.isSuffixOf e.pattern || (e.guard != .wholeWord && e.pattern.isSuffixOf σ)

theorem Rewrite.mayFit_of_fits {e : Rewrite} (hσ : σ <:+ l) (h : e.fits l) : e.mayFit σ := by
  rw [mayFit, Bool.or_eq_true, Bool.and_eq_true, List.isSuffixOf_iff_suffix,
    List.isSuffixOf_iff_suffix, bne_iff_ne]
  by_cases hg : e.guard = .wholeWord
  · exact .inl ((fits_iff_of_wholeWord hg).1 h ▸ hσ)
  · obtain ⟨stem, hl, -⟩ := fits_iff.1 h
    have hpat : e.pattern <:+ l := ⟨stem, hl.symm⟩
    rcases List.suffix_or_suffix_of_suffix hσ hpat with h | h
    · exact .inl h
    · exact .inr ⟨hg, h⟩

/-- Of all entries only those that may fit the ending are looked at. -/
theorem find?_fits_of_suffix (hσ : σ <:+ l) :
    rewrites.find? (·.fits l) = (rewrites.filter (·.mayFit σ)).find? (·.fits l) := by
  rw [List.find?_filter]
  congr 1
  funext e
  cases h : e.fits l with
  | false => simp
  | true => simp [mayFit_of_fits hσ h]

/-- The first entry that may fit an ending answers, if it fits every word with this ending. -/
theorem find?_fits_eq_some {e : Rewrite} {es : List Rewrite} (hσ : σ <:+ l)
    (hrivals : rewrites.filter (·.mayFit σ) = e :: es) (hguard : e.guard = .always)
    (hpat : e.pattern <:+ σ) : rewrites.find? (·.fits l) = some e := by
  obtain ⟨stem, hstem⟩ := hpat.trans hσ
  have hfits : e.fits l := fits_iff.2 ⟨stem, hstem.symm, by rw [hguard]; rfl⟩
  rw [find?_fits_of_suffix hσ, hrivals, List.find?_cons, hfits]

/-! ### The parts of a rewritten word -/

namespace Rewrite

variable {e : Rewrite}

theorem lower_take (h : lower w = stem ++ e.pattern) :
    lower (w.take (w.length - e.ending.length)) = stem ++ e.root := by
  rw [length_kept h, lower, List.map_take, ← lower, h, pattern, ← List.append_assoc, List.take_left]

theorem lower_drop (h : lower w = stem ++ e.pattern) :
    lower (w.drop (w.length - e.ending.length)) = e.ending := by
  rw [length_kept h, lower, List.map_drop, ← lower, h, pattern, ← List.append_assoc, List.drop_left]

theorem length_drop (h : lower w = stem ++ e.pattern) :
    (w.drop (w.length - e.ending.length)).length = e.ending.length := by
  rw [← length_lower, lower_drop h]

end Rewrite

theorem isPlain_of_mem_rewrites :
    ∀ e ∈ rewrites, IsPlain e.pattern ∧ IsPlain e.replacement := by
  decide +kernel

theorem isPlain_ending {e : Rewrite} (he : e ∈ rewrites) : IsPlain e.ending :=
  (isPlain_append.1 (isPlain_of_mem_rewrites e he).1).2

/-- An entry that writes anything writes it for more than one letter. -/
theorem replacement_eq_nil_or_two_le :
    ∀ e ∈ rewrites, e.replacement = [] ∨ 2 ≤ e.ending.length := by
  decide +kernel

/-- Only the last entry can take away all of a word. -/
theorem pattern_eq_of_leaves_nothing :
    ∀ e ∈ rewrites, e.root ++ e.replacement = [] → e.pattern = ['s'] := by
  decide +kernel

theorem lower_applied {e : Rewrite} (he : e ∈ rewrites) (h : lower w = stem ++ e.pattern) :
    lower (e.applied w) = stem ++ e.root ++ e.replacement := by
  rw [applied, lower, List.map_append, ← lower, ← lower, lower_take h,
    (isPlain_of_mem_rewrites e he).2.lower_carryCase]

theorem mem_singularWord {c : Char} (h : c ∈ singularWord w) : c ∈ w ∨ c.toLower.isLower := by
  rcases singularWord_eq_self_or_applied w with heq | ⟨e, he, -, -, heq⟩
  · exact .inl (heq ▸ h)
  rw [heq, applied] at h
  rcases List.mem_append.1 h with h | h
  · exact .inl (List.mem_of_mem_take h)
  · have hplain := (isPlain_of_mem_rewrites e he).2
    have hmem : c.toLower ∈ lower (carryCase _ e.replacement) := List.mem_map_of_mem h
    rw [hplain.lower_carryCase] at hmem
    exact .inr (hplain _ hmem)

theorem lower_eq_of_singularWord_eq_nil (hne : w ≠ []) (h : singularWord w = []) :
    lower w = ['s'] := by
  rcases singularWord_eq_self_or_applied w with heq | ⟨e, he, -, hfits, heq⟩
  · exact absurd (heq.symm.trans h) hne
  obtain ⟨stem, hstem, -⟩ := fits_iff.1 hfits
  have hlow := lower_applied he hstem
  rw [← heq, h, List.append_assoc] at hlow
  obtain ⟨rfl, hnil⟩ := List.append_eq_nil_iff.1 hlow.symm
  rw [hstem, pattern_eq_of_leaves_nothing e he hnil, List.nil_append]

/-- A singular has no characters but those of the name and ASCII letters. -/
theorem mem_singularName {s : List Char} {c : Char} (h : c ∈ singularName s) :
    c ∈ s ∨ c.toLower.isLower := by
  by_cases hs : s = []
  · rw [hs, singularName_nil] at h
    cases h
  obtain ⟨p, w, rfl, -, -, heq⟩ := exists_eq_append_lastWord hs
  rw [heq] at h
  rcases List.mem_append.1 h with h | h
  · exact .inl (List.mem_append_left w h)
  · exact (mem_singularWord h).imp_left (List.mem_append_right p)

end CloudAccessors.Noun
