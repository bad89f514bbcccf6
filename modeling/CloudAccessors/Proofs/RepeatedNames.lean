import CloudAccessors.Lint.Basic
import Mathlib.Data.List.Nodup

/-!
# Names that occur again

`secondOccurrences` goes down a list with the names before it and keeps those that have occurred
there just once. So it goes through the positions at which a name occurs for the second time
(`mem_secondOccurrences_iff`, `pairwise_secondOccurrences`). A name has at most one such position,
and it has one exactly if it occurs twice; so each repeated name is in the list, once. The walk with
two sets, of the names it has met and of those it has reported, knows as much of the names behind it
(`NameWalk.Knows`), and reports the same (`repeatedNames_eq_secondOccurrences`).
-/

namespace CloudAccessors

variable {before names : List String} {name a b : String} {i j : Nat} {ds : List Descriptor}

/-! ### Second occurrences -/

/-- The names that have occurred exactly once before, where they occur again. -/
def secondOccurrences (before : List String) : List String → List String
  | [] => []
  | name :: rest =>
    let later := secondOccurrences (before ++ [name]) rest
    if before.count name = 1 then name :: later else later

/-- Does `name` stand at position `i`, and just once in front of it? -/
def IsSecondAt (names : List String) (name : String) (i : Nat) : Prop :=
  names[i]? = some name ∧ (names.take i).count name = 1

/-- Does `a` occur for the second time before `b` does? -/
def SecondBefore (names : List String) (a b : String) : Prop :=
  ∃ i j, i < j ∧ IsSecondAt names a i ∧ IsSecondAt names b j

/-- Does `name` occur for the second time, and before any other name does? -/
def RepeatedFirst (names : List String) (name : String) : Prop :=
  ∃ i, IsSecondAt names name i ∧ ∀ a j, IsSecondAt names a j → i ≤ j

theorem IsSecondAt.two_le_count_take (h : IsSecondAt names name i) (hij : i < j) :
    2 ≤ (names.take j).count name := by
  obtain ⟨hi, hone⟩ := h
  have htake : names.take (i + 1) = names.take i ++ [name] := by
    rw [List.take_add_one, hi]
    rfl
  have hle := (List.take_sublist_take_left (l := names) hij).count_le name
  rw [htake, List.count_append, hone, List.count_singleton_self] at hle
  exact hle

theorem IsSecondAt.unique (hi : IsSecondAt names name i) (hj : IsSecondAt names name j) :
    i = j := by
  rcases Nat.lt_trichotomy i j with hlt | heq | hlt
  · have htwo := hi.two_le_count_take hlt
    rw [hj.2] at htwo
    omega
  · exact heq
  · have htwo := hj.two_le_count_take hlt
    rw [hi.2] at htwo
    omega

theorem SecondBefore.ne (h : SecondBefore names a b) : a ≠ b := by
  rintro rfl
  obtain ⟨i, j, hij, hi, hj⟩ := h
  exact absurd (hi.unique hj) (Nat.ne_of_lt hij)

theorem exists_isSecondAt_iff : (∃ i, IsSecondAt names name i) ↔ 2 ≤ names.count name := by
  constructor
  · rintro ⟨i, h⟩
    have hlt : i < names.length := (List.getElem?_eq_some_iff.1 h.1).1
    have htwo := h.two_le_count_take hlt
    rwa [List.take_length] at htwo
  · intro h
    -- the first two occurrences cut the list
    have hmem : name ∈ names := List.count_pos_iff.1 (by omega)
    obtain ⟨u, rest, rfl, hu⟩ := List.eq_append_cons_of_mem hmem
    rw [List.count_append, List.count_eq_zero.2 hu, List.count_cons_self] at h
    have hmem' : name ∈ rest := List.count_pos_iff.1 (by omega)
    obtain ⟨v, w, rfl, hv⟩ := List.eq_append_cons_of_mem hmem'
    have hcut : u ++ name :: (v ++ name :: w) = (u ++ name :: v) ++ name :: w := by simp
    refine ⟨(u ++ name :: v).length, ?_, ?_⟩
    · rw [hcut, List.getElem?_append_right (Nat.le_refl _), Nat.sub_self]
      rfl
    · rw [hcut, List.take_left, List.count_append, List.count_eq_zero.2 hu, List.count_cons_self,
        List.count_eq_zero.2 hv]

/-! ### What the second occurrences are -/

theorem isSecondAt_length_iff {first : String} (rest : List String) :
    IsSecondAt (before ++ first :: rest) name before.length ↔
      first = name ∧ before.count name = 1 := by
  rw [IsSecondAt, List.getElem?_append_right (Nat.le_refl _), Nat.sub_self, List.take_left]
  simp

/-- The names kept are those that occur for the second time behind `before`. -/
theorem mem_secondOccurrences_iff :
    name ∈ secondOccurrences before names ↔
      ∃ i, before.length ≤ i ∧ IsSecondAt (before ++ names) name i := by
  induction names generalizing before with
  | nil =>
    refine iff_of_false List.not_mem_nil ?_
    rintro ⟨i, hi, hname, -⟩
    rw [List.append_nil, List.getElem?_eq_none hi] at hname
    cases hname
  | cons first rest ih =>
    have hlater := @ih (before ++ [first])
    rw [List.append_assoc, List.singleton_append, List.length_append, List.length_singleton]
      at hlater
    have hsplit : (∃ i, before.length ≤ i ∧ IsSecondAt (before ++ first :: rest) name i) ↔
        (first = name ∧ before.count name = 1) ∨
          name ∈ secondOccurrences (before ++ [first]) rest := by
      rw [hlater, ← isSecondAt_length_iff rest]
      constructor
      · rintro ⟨i, hi, h⟩
        rcases Nat.eq_or_lt_of_le hi with rfl | hlt
        · exact .inl h
        · exact .inr ⟨i, hlt, h⟩
      · rintro (h | ⟨i, hi, h⟩)
        · exact ⟨_, Nat.le_refl _, h⟩
        · exact ⟨i, by omega, h⟩
    rw [hsplit, secondOccurrences]
    by_cases hone : before.count first = 1
    · rw [if_pos hone, List.mem_cons]
      refine or_congr_left ⟨?_, fun h => h.1.symm⟩
      rintro rfl
      exact ⟨rfl, hone⟩
    · rw [if_neg hone]
      refine (or_iff_right ?_).symm
      rintro ⟨rfl, h⟩
      exact hone h

theorem pairwise_secondOccurrences (before names : List String) :
    (secondOccurrences before names).Pairwise (SecondBefore (before ++ names)) := by
  induction names generalizing before with
  | nil => exact .nil
  | cons first rest ih =>
    have hlater := ih (before ++ [first])
    rw [List.append_assoc, List.singleton_append] at hlater
    rw [secondOccurrences]
    by_cases hone : before.count first = 1
    · rw [if_pos hone]
      refine List.pairwise_cons.2 ⟨fun b hb => ?_, hlater⟩
      obtain ⟨j, hj, hb⟩ := mem_secondOccurrences_iff.1 hb
      rw [List.append_assoc, List.singleton_append] at hb
      rw [List.length_append, List.length_singleton] at hj
      exact ⟨before.length, j, hj, (isSecondAt_length_iff rest).2 ⟨rfl, hone⟩, hb⟩
    · rw [if_neg hone]
      exact hlater

/-- The second `b` stands in front of the second `a`. -/
example : secondOccurrences [] ["a", "b", "b", "c", "a", "a", "b"] = ["b", "a"] := by decide

theorem mem_secondOccurrences_nil_iff :
    name ∈ secondOccurrences [] names ↔ 2 ≤ names.count name := by
  rw [mem_secondOccurrences_iff, ← exists_isSecondAt_iff]
  simp

theorem secondOccurrences_concat (before names : List String) (name : String) :
    secondOccurrences before (names ++ [name]) =
      secondOccurrences before names ++
        if (before ++ names).count name = 1 then [name] else [] := by
  induction names generalizing before with
  | nil => simp [secondOccurrences]
  | cons first rest ih =>
    have hlater := ih (before ++ [first])
    rw [List.append_assoc, List.singleton_append] at hlater
    rw [List.cons_append, secondOccurrences, secondOccurrences, hlater]
    split <;> rfl

/-! ### The walk with two sets -/

namespace NameWalk

variable {w : NameWalk}

/-- What a walk has found out about the names behind it. -/
structure Knows (w : NameWalk) (names : List String) : Prop where
  met : ∀ a, a ∈ w.met ↔ a ∈ names
  reported : ∀ a, a ∈ w.reported ↔ a ∈ w.report
  report : w.report = secondOccurrences [] names

theorem knows_nil : ({} : NameWalk).Knows [] where
  met := by simp
  reported := by simp
  report := rfl

theorem Knows.visit (h : w.Knows names) (name : String) :
    (w.visit name).Knows (names ++ [name]) := by
  have hone : names.count name = 1 ↔ name ∈ w.met ∧ name ∉ w.reported := by
    rw [h.met, h.reported, h.report, mem_secondOccurrences_nil_iff, ← List.count_pos_iff]
    omega
  have hreport := secondOccurrences_concat [] names name
  rw [List.nil_append, ← h.report] at hreport
  unfold NameWalk.visit
  split
  case isTrue hmet =>
    have hnames : ∀ a, a ∈ w.met ↔ a ∈ names ++ [name] := fun a => by
      rw [h.met, List.mem_append, List.mem_singleton, or_iff_left_of_imp]
      rintro rfl
      exact (h.met _).1 hmet
    split
    case isTrue hreported =>
      rw [if_neg fun h => (hone.1 h).2 hreported, List.append_nil] at hreport
      exact ⟨hnames, h.reported, hreport.symm⟩
    case isFalse hreported =>
      rw [if_pos (hone.2 ⟨hmet, hreported⟩)] at hreport
      exact ⟨hnames, fun a => by simp [h.reported, or_comm], hreport.symm⟩
  case isFalse hmet =>
    rw [if_neg fun h => hmet (hone.1 h).1, List.append_nil] at hreport
    exact ⟨fun a => by simp [h.met, or_comm], h.reported, hreport.symm⟩

theorem Knows.foldl (h : w.Knows before) (names : List String) :
    (names.foldl NameWalk.visit w).Knows (before ++ names) := by
  induction names generalizing before w with
  | nil => rwa [List.append_nil]
  | cons name rest ih =>
    have hnext := ih (h.visit name)
    rwa [List.append_assoc] at hnext

theorem report_foldl_visit (names : List String) :
    (names.foldl visit {}).report = secondOccurrences [] names :=
  (knows_nil.foldl names).report

end NameWalk

/-! ### The names of a list -/

theorem repeatedNames_eq_secondOccurrences (ds : List Descriptor) :
    repeatedNames ds = secondOccurrences [] (ds.map Descriptor.methodNameOrDefault) :=
  NameWalk.report_foldl_visit _

theorem mem_repeatedNames_iff :
    name ∈ repeatedNames ds ↔ 2 ≤ (ds.map Descriptor.methodNameOrDefault).count name := by
  rw [repeatedNames_eq_secondOccurrences, mem_secondOccurrences_nil_iff]

theorem pairwise_repeatedNames (ds : List Descriptor) :
    (repeatedNames ds).Pairwise (SecondBefore (ds.map Descriptor.methodNameOrDefault)) := by
  rw [repeatedNames_eq_secondOccurrences]
  exact pairwise_secondOccurrences [] _

theorem repeatedNames_eq_nil_iff :
    repeatedNames ds = [] ↔ (ds.map Descriptor.methodNameOrDefault).Nodup := by
  rw [List.nodup_iff_count_le_one, List.eq_nil_iff_forall_not_mem]
  refine forall_congr' fun name => ?_
  rw [mem_repeatedNames_iff]
  omega

theorem nodup_of_lint_eq_nil (h : lint ds = []) :
    (ds.map Descriptor.methodNameOrDefault).Nodup := by
  rw [lint, List.append_eq_nil_iff, List.map_eq_nil_iff] at h
  exact repeatedNames_eq_nil_iff.1 h.2

/-- The first name reported is the one whose second occurrence comes first. -/
theorem head?_repeatedNames_eq_some_iff :
    (repeatedNames ds).head? = some name ↔
      RepeatedFirst (ds.map Descriptor.methodNameOrDefault) name := by
  have horder := pairwise_repeatedNames ds
  have hmem (a : String) : a ∈ repeatedNames ds ↔
      ∃ i, IsSecondAt (ds.map Descriptor.methodNameOrDefault) a i := by
    rw [mem_repeatedNames_iff, exists_isSecondAt_iff]
  cases hnames : repeatedNames ds with
  | nil =>
    refine iff_of_false (by simp) ?_
    rintro ⟨i, hi, -⟩
    have hname := (hmem name).2 ⟨i, hi⟩
    rw [hnames] at hname
    cases hname
  | cons first rest =>
    rw [hnames] at horder
    simp only [hnames, List.mem_cons] at hmem
    obtain ⟨k, hk⟩ := (hmem first).1 (.inl rfl)
    -- all other names occur for the second time behind the first one
    have hbefore : ∀ a j, IsSecondAt (ds.map Descriptor.methodNameOrDefault) a j →
        first = a ∨ k < j := by
      intro a j hj
      rcases (hmem a).2 ⟨j, hj⟩ with rfl | hrest
      · exact .inl rfl
      · obtain ⟨k', j', hlt, hk', hj'⟩ := (List.pairwise_cons.1 horder).1 a hrest
        rw [hk.unique hk', hj.unique hj']
        exact .inr hlt
    rw [List.head?_cons, Option.some.injEq]
    constructor
    · rintro rfl
      refine ⟨k, hk, fun a j hj => ?_⟩
      rcases hbefore a j hj with rfl | hlt
      · exact Nat.le_of_eq (hk.unique hj)
      · exact Nat.le_of_lt hlt
    · rintro ⟨i, hi, hleast⟩
      rcases hbefore name i hi with heq | hlt
      · exact heq
      · exact absurd (hleast first k hk) (Nat.not_le_of_lt hlt)

end CloudAccessors
