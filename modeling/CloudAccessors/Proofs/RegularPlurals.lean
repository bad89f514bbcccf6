import CloudAccessors.Proofs.SingularTwice

/-!
# Regular plurals

A regular plural ends in `s`, in `es` behind a hissing sound, or in `ies` instead of `y`. For each
of these endings only a few entries of the lexicon come into question (`rivals_s`, `rivals_es_ies`).
The words that one of them takes for something else are the exceptions: every other regular plural
has its singular back.
-/

namespace CloudAccessors.Noun

open Unicode Rewrite

variable {u v w : List Char} {c : Char} {e : Rewrite}

/-! ### Words in lowercase -/

theorem applied_append_ending (h : ∀ c ∈ e.ending, isUppercase c = false) (u : List Char) :
    e.applied (u ++ e.ending) = u ++ e.replacement := by
  rw [applied, List.length_append, Nat.add_sub_cancel, List.take_left, List.drop_left,
    carryCase_of_not_uppercase h]

/-- In a name without uppercase characters the first entry that fits the whole name decides. -/
theorem singularName_append_ending (h : ∀ c ∈ u, isUppercase c = false) (hne : e.ending ≠ [])
    (hfind : rewrites.find? (·.fits (u ++ e.ending)) = some e) :
    singularName (u ++ e.ending) = u ++ e.replacement := by
  have hending : ∀ c ∈ e.ending, isUppercase c = false :=
    (isPlain_ending (List.mem_of_find?_eq_some hfind)).not_uppercase
  have hall : ∀ c ∈ u ++ e.ending, isUppercase c = false :=
    List.forall_mem_append.2 ⟨h, hending⟩
  have hword : IsWord (u ++ e.ending) := by
    obtain ⟨c, t, heq⟩ := List.exists_cons_of_ne_nil (List.append_ne_nil_of_right_ne_nil u hne)
    rw [heq] at hall ⊢
    exact isWord_of_not_uppercase fun d hd => hall d (List.mem_cons_of_mem c hd)
  rw [hword.singularName_eq, singularWord_eq_applied (by rwa [lower_eq_self hall]),
    applied_append_ending hending]

/-! ### Plurals in `s` -/

/-- The entries for words in `s`: the last one, those with a vowel or another `s` in front of it,
and four words. -/
theorem rivals_s :
    ∀ e ∈ rewrites.filter (·.mayFit ['s']),
      e = bareS ∨ ("aeious".toList.any fun x => [x, 's'].isSuffixOf e.pattern) ∨
      e.pattern = "new".toList ++ ['s'] ∨
      e.guard = .wholeWord ∧ ∃ s ∈ ["jean", "dn", "len"], e.pattern = s.toList ++ ['s'] := by
  decide +kernel

theorem bareS_mem_rewrites : bareS ∈ rewrites :=
  List.mem_append_right _
    (List.mem_map.2 ⟨{ plural := "s", singular := "" }, by simp [trailingRules], by decide⟩)

theorem find?_append_s (hc : w.getLast? = some c) (hvowel : c ∉ "aeious".toList)
    (hwords : ∀ s ∈ ["jean", "dn", "len"], w ≠ s.toList) (hnew : ¬ "new".toList <:+ w) :
    rewrites.find? (·.fits (w ++ ['s'])) = some bareS := by
  have hs : ['s'] <:+ w ++ ['s'] := List.suffix_append w ['s']
  have hbare : bareS.fits (w ++ ['s']) := fits_iff.2 ⟨w, rfl, rfl⟩
  cases hfind : rewrites.find? (·.fits (w ++ ['s'])) with
  | none => exact absurd hbare (List.find?_eq_none.1 hfind bareS bareS_mem_rewrites)
  | some e =>
    have hfits : e.fits (w ++ ['s']) := fits_of_find?_eq_some hfind
    have hmay : e ∈ rewrites.filter (·.mayFit ['s']) :=
      List.mem_filter.2 ⟨List.mem_of_find?_eq_some hfind, mayFit_of_fits hs hfits⟩
    obtain ⟨stem, hstem, -⟩ := fits_iff.1 hfits
    rcases rivals_s e hmay with rfl | hfront | hpat | ⟨hguard, s, hmem, hpat⟩
    · rfl
    · -- the character in front of the `s` is the last one of the word
      obtain ⟨x, hx, hsuf⟩ := List.any_eq_true.1 hfront
      obtain ⟨p, hp⟩ := List.isSuffixOf_iff_suffix.1 hsuf
      obtain ⟨u, rfl⟩ := List.getLast?_eq_some_iff.1 hc
      rw [← hp, ← List.append_assoc, List.append_assoc] at hstem
      obtain ⟨-, htail⟩ := List.append_inj' hstem rfl
      obtain rfl : c = x := by simpa using htail
      exact absurd hx hvowel
    · rw [hpat, ← List.append_assoc] at hstem
      exact absurd ⟨stem, (List.append_cancel_right hstem).symm⟩ hnew
    · have hwhole := (fits_iff_of_wholeWord hguard).1 hfits
      rw [hpat] at hwhole
      exact absurd (List.append_cancel_right hwhole) (hwords s hmem)

/-! ### Plurals in `es` and `ies` -/

/-- The rule that drops the `es` behind `sound`. -/
def hissing (sound : String) : Rewrite :=
  { ending := sound.toList ++ "es".toList, replacement := sound.toList }

/-- The rule that writes a `y` behind a consonant. -/
def consonantY : Rewrite :=
  { ending := "ies".toList, replacement := "y".toList, guard := .afterConsonant }

theorem rivals_es_ies :
    rewrites.filter (·.mayFit ("x".toList ++ "es".toList)) =
      [irregular "sex" "sexes", irregular "axis" "axes", hissing "x", bareS] ∧
    (∀ sound ∈ ["ch", "sh", "ss"],
      rewrites.filter (·.mayFit (sound.toList ++ "es".toList)) = [hissing sound, bareS]) ∧
    rewrites.filter (·.mayFit "ies".toList) =
      [keepWord "species", keepWord "series", irregular "zombie" "zombies",
       { ending := "movies".toList, replacement := "movie".toList }, { root := "series".toList },
       consonantY, bareS] := by
  decide +kernel

theorem find?_sexes :
    rewrites.find? (·.fits ("sex".toList ++ "es".toList)) = some (irregular "sex" "sexes") := by
  have hsuf : "x".toList ++ "es".toList <:+ "sex".toList ++ "es".toList := ⟨"se".toList, rfl⟩
  rw [find?_fits_of_suffix hsuf, rivals_es_ies.1]
  rfl

theorem find?_append_es {sound : String} (hsound : sound ∈ ["x", "ch", "sh", "ss"])
    (hw : sound.toList <:+ w) (hsex : w ≠ "sex".toList) (hax : w ≠ "ax".toList) :
    rewrites.find? (·.fits (w ++ "es".toList)) = some (hissing sound) := by
  obtain ⟨u, rfl⟩ := hw
  have hsuf : sound.toList ++ "es".toList <:+ u ++ sound.toList ++ "es".toList :=
    ⟨u, (List.append_assoc ..).symm⟩
  rcases List.mem_cons.1 hsound with rfl | hsound
  · have hplural : ∀ word : String, u ++ "x".toList ≠ word.toList →
        u ++ "x".toList ++ "es".toList ≠ word.toList ++ "es".toList := fun word hne h =>
      hne (List.append_cancel_right h)
    have hfits : (hissing "x").fits (u ++ "x".toList ++ "es".toList) :=
      fits_iff.2 ⟨u, List.append_assoc .., rfl⟩
    rw [find?_fits_of_suffix hsuf, rivals_es_ies.1,
      List.find?_cons, fits_eq_false_of_ne rfl (hplural "sex" hsex),
      List.find?_cons, fits_eq_false_of_ne rfl (hplural "ax" hax), List.find?_cons, hfits]
  · exact find?_fits_eq_some hsuf (rivals_es_ies.2.1 sound hsound) rfl List.suffix_rfl

theorem admits_afterConsonant
    (hv : (∃ c, v.getLast? = some c ∧ c ∉ "aeiouy".toList) ∨ "qu".toList <:+ v) :
    Guard.afterConsonant.admits v := by
  rw [Guard.admits, Option.any_eq_true]
  rcases hv with ⟨c, hc, hcons⟩ | hqu
  · exact ⟨c, hc, by simp [hcons, -String.reduceToList]⟩
  · have hlast : v.getLast? = some 'u' := by
      obtain ⟨q, rfl⟩ := hqu
      exact List.getLast?_append_of_ne_nil q (by decide)
    exact ⟨'u', hlast, by rw [List.isSuffixOf_iff_suffix.2 hqu, Bool.or_true]⟩

theorem find?_append_ies
    (hv : (∃ c, v.getLast? = some c ∧ c ∉ "aeiouy".toList) ∨ "qu".toList <:+ v)
    (hwords : ∀ s ∈ ["species", "zombies"], v ++ "ies".toList ≠ s.toList)
    (hendings : ∀ s ∈ ["movies", "series"], ¬ s.toList <:+ v ++ "ies".toList) :
    rewrites.find? (·.fits (v ++ "ies".toList)) = some consonantY := by
  have hspecies : (keepWord "species").fits (v ++ "ies".toList) = false :=
    fits_eq_false_of_ne rfl (hwords "species" (by simp))
  have hseries : (keepWord "series").fits (v ++ "ies".toList) = false :=
    fits_eq_false_of_not_suffix (hendings "series" (by simp))
  have hzombies : (irregular "zombie" "zombies").fits (v ++ "ies".toList) = false :=
    fits_eq_false_of_ne rfl (hwords "zombies" (by simp))
  have hmovies : (Rewrite.mk [] "movies".toList "movie".toList .always).fits (v ++ "ies".toList) =
      false := fits_eq_false_of_not_suffix (hendings "movies" (by simp))
  have hseries' : (Rewrite.mk "series".toList [] [] .always).fits (v ++ "ies".toList) = false :=
    fits_eq_false_of_not_suffix (hendings "series" (by simp))
  have hfits : consonantY.fits (v ++ "ies".toList) := fits_iff.2 ⟨v, rfl, admits_afterConsonant hv⟩
  rw [find?_fits_of_suffix (List.suffix_append v _), rivals_es_ies.2.2, List.find?_cons, hspecies,
    List.find?_cons, hseries, List.find?_cons, hzombies, List.find?_cons, hmovies,
    List.find?_cons, hseries', List.find?_cons, hfits]

/-! ### The singular of a regular plural -/

theorem singularize_regularPlural (w : String) (hw : ∀ c ∈ w.toList, isUppercase c = false) :
    (∀ c, w.toList.getLast? = some c → c ∉ "aeious".toList →
      w ≠ "jean" → w ≠ "dn" → w ≠ "len" → ¬ "new".toList <:+ w.toList →
      singularize (w ++ "s") = w) ∧
    ((∃ sound ∈ ["x", "ch", "sh", "ss"], sound.toList <:+ w.toList) → w ≠ "ax" →
      singularize (w ++ "es") = w) ∧
    ∀ v : String, w = v ++ "y" →
      ((∃ c, v.toList.getLast? = some c ∧ c ∉ "aeiouy".toList) ∨ "qu".toList <:+ v.toList) →
      v ++ "ies" ≠ "species" → v ++ "ies" ≠ "zombies" →
      ¬ "movies".toList <:+ (v ++ "ies").toList → ¬ "series".toList <:+ (v ++ "ies").toList →
      singularize (v ++ "ies") = w := by
  refine ⟨fun c hc hvowel hjean hdn hlen hnew => ?_, fun ⟨sound, hsound, hsuf⟩ hax => ?_,
    fun v hv hcons hspecies hzombies hmovies hseries => ?_⟩
  · have hwords : ∀ s ∈ ["jean", "dn", "len"], w.toList ≠ s.toList := fun s hs heq => by
      obtain rfl := String.toList_inj.1 heq
      simp [hjean, hdn, hlen] at hs
    have hfind := find?_append_s hc hvowel hwords hnew
    rw [← String.toList_inj, toList_singularize, String.toList_append]
    exact (singularName_append_ending (e := bareS) hw (by decide) hfind).trans (List.append_nil _)
  · by_cases hsex : w = "sex"
    · subst hsex
      rw [← String.toList_inj, toList_singularize]
      exact singularName_append_ending (u := []) (e := irregular "sex" "sexes") (by simp)
        (by decide) find?_sexes
    obtain ⟨u, hu⟩ := hsuf
    have hfind := find?_append_es hsound ⟨u, hu⟩ (mt String.toList_inj.1 hsex)
      (mt String.toList_inj.1 hax)
    rw [← hu] at hw
    have hstem : ∀ c ∈ u, isUppercase c = false := fun c hc => hw c (List.mem_append_left _ hc)
    rw [← hu, List.append_assoc] at hfind
    rw [← String.toList_inj, toList_singularize, String.toList_append, ← hu, List.append_assoc]
    exact singularName_append_ending (e := hissing sound) hstem (by simp [hissing]) hfind
  · subst hv
    rw [String.toList_append] at hw hmovies hseries
    have hwords : ∀ s ∈ ["species", "zombies"], v.toList ++ "ies".toList ≠ s.toList :=
      fun s hs heq => by
        obtain rfl := String.toList_inj.1 ((String.toList_append ..).trans heq)
        simp [hspecies, hzombies] at hs
    have hendings : ∀ s ∈ ["movies", "series"], ¬ s.toList <:+ v.toList ++ "ies".toList := by
      simpa only [List.forall_mem_cons, List.not_mem_nil, false_imp_iff, implies_true, and_true]
        using ⟨hmovies, hseries⟩
    have hstem : ∀ c ∈ v.toList, isUppercase c = false := fun c hc =>
      hw c (List.mem_append_left _ hc)
    rw [← String.toList_inj, toList_singularize, String.toList_append, String.toList_append]
    exact singularName_append_ending (e := consonantY) hstem (by decide)
      (find?_append_ies hcons hwords hendings)

theorem singularize_buckets_addresses_policies :
    singularize ("bucket" ++ "s") = "bucket" ∧ singularize ("address" ++ "es") = "address" ∧
      singularize ("polic" ++ "ies") = "policy" := by
  have hw : ∀ w ∈ ["bucket", "address", "policy"], w.toList.all (isUppercase · = false) := by
    decide
  have hlower : ∀ w ∈ ["bucket", "address", "policy"], ∀ c ∈ w.toList, isUppercase c = false :=
    fun w hmem c hc => of_decide_eq_true (List.all_eq_true.1 (hw w hmem) c hc)
  refine ⟨?_, ?_, ?_⟩
  · exact (singularize_regularPlural "bucket" (hlower _ (by simp))).1 't' (by decide) (by decide)
      (by decide) (by decide) (by decide) (by decide)
  · exact (singularize_regularPlural "address" (hlower _ (by simp))).2.1
      ⟨"ss", by decide, by decide⟩ (by decide)
  · exact (singularize_regularPlural "policy" (hlower _ (by simp))).2.2 "polic" (by decide)
      (.inl ⟨'c', by decide, by decide⟩) (by decide) (by decide) (by decide) (by decide)

end CloudAccessors.Noun
