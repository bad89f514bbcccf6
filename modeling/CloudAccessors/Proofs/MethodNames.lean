import CloudAccessors.Proofs.Outcome
import CloudAccessors.Proofs.RepeatedNames
import CloudAccessors.Proofs.Trim
import Mathlib.Data.List.TakeWhile

/-!
# The names of the declared methods

An interface declares the fixed accessors and a method for each descriptor, whose name is what its
signature has in front of the first parenthesis (`declaration_eq_declaredName`). The check of a list
knows neither: it compares the names that the descriptors have for their methods. So it keeps two
methods apart that are both declared under these names (`nodup_declaredNames_iff`). A derived
signature is, unless the name has a parenthesis or begins with white space (`declaresOwnName_iff`).
-/

namespace CloudAccessors.Source

open Text Unicode

/-- The text of a signature in front of its first parenthesis. -/
def declaredName (p : Plan) : String :=
  String.ofList ((trimmed p.signature).toList.takeWhile (· != '('))

/-- The names of all methods that the interface of a list declares. -/
def declaredNames (ds : List Descriptor) : List String :=
  fixedMethods ++ ds.map fun d => declaredName d.plan

/-- Is the method of a descriptor declared under the name that the descriptor has for it? -/
def DeclaresOwnName (d : Descriptor) : Prop := declaredName d.plan = d.methodNameOrDefault

instance : DecidablePred DeclaresOwnName := fun d =>
  decEq (declaredName d.plan) d.methodNameOrDefault

theorem eq_of_dropWhile_eq_cons {a : Char} {cs tail : List Char}
    (h : cs.dropWhile (· != '(') = a :: tail) : a = '(' := by
  have ha := List.head?_dropWhile_not (· != '(') cs
  rw [h] at ha
  simpa using ha

/-- In a declaration, the name stands behind the tab and goes up to a parenthesis or the end of the
line. -/
theorem declaration_eq_declaredName (p : Plan) :
    ∃ rest : List Char, declaration p =
        "\n" ++ Go.comment "\t" p.documentation ++ "\t" ++ declaredName p ++ String.ofList rest ∧
      '(' ∉ (declaredName p).toList ∧ (rest = ['\n'] ∨ rest.head? = some '(') := by
  obtain ⟨rest, hrest⟩ : ∃ rest, (trimmed p.signature).toList.dropWhile (· != '(') = rest :=
    ⟨_, rfl⟩
  have hsplit : trimmed p.signature = declaredName p ++ String.ofList rest := by
    rw [← String.toList_inj, String.toList_append, declaredName, String.toList_ofList,
      String.toList_ofList, ← hrest, List.takeWhile_append_dropWhile]
  refine ⟨rest ++ ['\n'], ?_, ?_, ?_⟩
  · have hfeed : String.ofList ['\n'] = "\n" := rfl
    rw [declaration, hsplit, String.ofList_append, hfeed]
    simp only [String.append_assoc]
  · rw [declaredName, String.toList_ofList]
    intro h
    have := List.all_eq_true.1 List.all_takeWhile _ h
    exact absurd this (by decide)
  · cases rest with
    | nil => exact .inl rfl
    | cons a tail => exact .inr (by rw [eq_of_dropWhile_eq_cons hrest]; rfl)

/-! ### Derived signatures -/

/-- A derived signature is a method name up to its first parenthesis. -/
theorem declaredName_of_derived {d : Descriptor} (h : d.signature = none) :
    (declaredName d.plan).toList =
      (trimStart d.methodNameOrDefault.toList).takeWhile (· != '(') := by
  have hopen : "(ctx context.Context, input *".toList =
      '(' :: "ctx context.Context, input *".toList := rfl
  have htext : d.plan.signature.toList = d.methodNameOrDefault.toList ++
      '(' :: ("ctx context.Context, input *".toList ++ (d.inputType.toList ++ (") (".toList ++
        (d.outputType.toList ++ ", error)".toList)))) := by
    show d.signatureOrDefault.toList = _
    rw [Descriptor.signatureOrDefault, h, Option.getD_none]
    simp only [String.toList_append, hopen, List.append_assoc, List.cons_append]
  rw [declaredName, trimmed, String.toList_ofList, String.toList_ofList, htext, trim,
    trimStart_append_cons (by decide), trimEnd_append_cons (by decide), List.takeWhile_append]
  split
  case isTrue hlength =>
    rw [List.takeWhile_cons_of_neg (by decide), List.append_nil]
    exact ((List.takeWhile_sublist _).eq_of_length hlength).symm
  case isFalse => rfl

theorem declaresOwnName_iff {d : Descriptor} (h : d.signature = none) :
    DeclaresOwnName d ↔ '(' ∉ d.methodNameOrDefault.toList ∧
      ∀ a, d.methodNameOrDefault.toList.head? = some a → isWhiteSpace a = false := by
  rw [DeclaresOwnName, ← String.toList_inj, declaredName_of_derived h, ← trimStart_eq_self_iff]
  generalize d.methodNameOrDefault.toList = name
  have hall : (∀ a ∈ name, (a != '(') = true) ↔ '(' ∉ name := by
    simp only [bne_iff_ne, ne_eq]
    exact ⟨fun h hp => h _ hp rfl, fun h a ha heq => h (heq ▸ ha)⟩
  rw [← hall, ← List.takeWhile_eq_self_iff]
  constructor
  · intro hname
    -- both cuts leave the name, so that neither takes anything away
    have hstart : trimStart name = name := by
      refine (List.dropWhile_sublist _).eq_of_length_le ?_
      have hle := (List.takeWhile_sublist (· != '(') (l := trimStart name)).length_le
      rwa [hname] at hle
    rw [hstart] at hname
    exact ⟨hname, hstart⟩
  · rintro ⟨hname, hstart⟩
    rw [hstart, hname]

/-! ### Distinct names -/

theorem nodup_map_iff_of_nodup_map {α β : Type} {own : α → Prop} {f g : α → β} {xs : List α}
    (hg : (xs.map g).Nodup) (hown : ∀ x, own x → f x = g x) :
    (xs.map f).Nodup ↔ xs.Pairwise fun x y => ¬ (own x ∧ own y) → f x ≠ f y := by
  rw [List.Nodup, List.pairwise_map] at hg ⊢
  constructor
  · intro hf
    refine hf.imp ?_
    intro x y hne _
    exact hne
  · intro hrest
    refine (hg.and hrest).imp fun {x y} ⟨hne, h⟩ => ?_
    by_cases hxy : own x ∧ own y
    · rw [hown x hxy.1, hown y hxy.2]
      exact hne
    · exact h hxy

/-- The names of a list without issues are distinct, unless one is that of a fixed accessor or two
collide of which one is not the name that its descriptor has for the method. -/
theorem nodup_declaredNames_iff {ds : List Descriptor} (h : lint ds = []) :
    (declaredNames ds).Nodup ↔
      (∀ d ∈ ds, declaredName d.plan ∉ fixedMethods) ∧
      ds.Pairwise fun d e => ¬ (DeclaresOwnName d ∧ DeclaresOwnName e) →
        declaredName d.plan ≠ declaredName e.plan := by
  have hfixed : fixedMethods.Nodup := by decide
  rw [declaredNames, List.nodup_append,
    nodup_map_iff_of_nodup_map (nodup_of_lint_eq_nil h) fun _ => id]
  constructor
  · rintro ⟨-, hpairs, hdisjoint⟩
    refine ⟨fun d hd hmem => ?_, hpairs⟩
    exact hdisjoint _ hmem _ (List.mem_map_of_mem hd) rfl
  · rintro ⟨hnot, hpairs⟩
    refine ⟨hfixed, hpairs, fun name hname other hother heq => ?_⟩
    obtain ⟨d, hd, rfl⟩ := List.mem_map.1 hother
    exact hnot d hd (heq ▸ hname)

/-- When the names of a list without issues are distinct, with the case of descriptors that all
declare their own names, and when a derived signature does. -/
theorem declaredNames_distinct_iff {ds : List Descriptor} (h : lint ds = []) :
    ((declaredNames ds).Nodup ↔
      (∀ d ∈ ds, declaredName d.plan ∉ fixedMethods) ∧
      ds.Pairwise fun d e => ¬ (DeclaresOwnName d ∧ DeclaresOwnName e) →
        declaredName d.plan ≠ declaredName e.plan) ∧
    ((∀ d ∈ ds, DeclaresOwnName d) →
      ((declaredNames ds).Nodup ↔ ∀ d ∈ ds, d.methodNameOrDefault ∉ fixedMethods)) ∧
    ∀ d ∈ ds, d.signature = none →
      (DeclaresOwnName d ↔ '(' ∉ d.methodNameOrDefault.toList ∧
        ∀ a, d.methodNameOrDefault.toList.head? = some a → isWhiteSpace a = false) := by
  refine ⟨nodup_declaredNames_iff h, fun hown => ?_, fun d _ hd => declaresOwnName_iff hd⟩
  rw [nodup_declaredNames_iff h]
  constructor
  · rintro ⟨hnot, -⟩ d hd
    rw [← hown d hd]
    exact hnot d hd
  · intro hnot
    refine ⟨fun d hd => ?_, List.pairwise_iff_forall_sublist.2 fun {d e} hsub hne => ?_⟩
    · rw [hown d hd]
      exact hnot d hd
    · exact absurd ⟨hown d (hsub.mem (by simp)), hown e (hsub.mem (by simp))⟩ hne

/-- A stated signature that declares another name stands beside a derived one. -/
def derivedAndStated : List Descriptor :=
  [{ entity := "Vpcs", service := "ec2", callPrefix := "Describe", singular := some "Vpc" },
    { entity := "Tags", service := "s3", signature := some "AllTags() ([]string, error)" }]

theorem declaredNames_distinct_derivedAndStated :
    lint derivedAndStated = [] ∧
      (declaredNames derivedAndStated).Nodup ∧
      declaredNames derivedAndStated = ["GetAccountID", "GetRegion", "GetVpcs", "AllTags"] := by
  have hlint : lint derivedAndStated = [] := by decide +kernel
  refine ⟨hlint, (declaredNames_distinct_iff hlint).1.2 ⟨?_, ?_⟩, ?_⟩
  · decide +kernel
  · decide +kernel
  · decide +kernel

/-- The derived name of the entity `Region` is that of a fixed accessor. -/
def regionOnly : List Descriptor :=
  [{ entity := "Region", service := "ec2", callPrefix := "Describe", singular := some "Region" }]

/-- The check of a list does not look at the fixed accessors. -/
theorem not_declaredNames_distinct_regionOnly :
    ¬ ∀ (c : Config) (ds : List Descriptor) (src : String), lint ds = [] →
      generate c ds = .ok src → (declaredNames ds).Nodup := by
  intro hall
  have hlint : lint regionOnly = [] := by decide +kernel
  have hnone : firstFailure? {} regionOnly = none := by decide +kernel
  have hnodup := hall {} regionOnly _ hlint (generate_eq_ok_iff.2 ⟨hnone, rfl⟩)
  exact absurd hnodup (by decide +kernel)

end CloudAccessors.Source
