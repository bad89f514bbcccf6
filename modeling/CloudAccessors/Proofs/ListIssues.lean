import CloudAccessors.Proofs.Outcome
import CloudAccessors.Proofs.RepeatedNames

/-!
# The issues of a list, and the first of them

A list has the issues of its descriptors, of which none is about a repeated name
(`mem_issues_iff`), and then one for each name that occurs twice. To refuse the list for its first
issue is to go through the descriptors one after another and then through the names
(`checkAll_eq_bind`). So the failure is that of the first descriptor that is refused on its own, or
else is about the first name that is repeated.
-/

namespace CloudAccessors

open Text (blank)

variable {d : Descriptor} {ds : List Descriptor} {failure : Failure}

/-! ### The issues of a descriptor -/

theorem mem_issues_iff {index : Nat} {issue : Issue} :
    issue ∈ d.issues index ↔
      (blank d.entity = true ∧ issue = .emptyEntity index) ∨
      ((d.singleResult = true ∧ d.mapResult = true) ∧ issue = .conflictingShape d.entity) ∨
      (∃ path, d.attributePath = some path ∧ isMalformedPath path = true ∧
        issue = .malformedAttributePath d.entity path) ∨
      ((d.unpaginated = true ∧ (d.tokenField.isSome = true ∨ d.inputTokenField.isSome = true)) ∧
        issue = .ignoredPaginationOverride d.entity) := by
  simp only [Descriptor.issues, List.mem_append, List.mem_ite_nil_right, List.mem_singleton,
    Bool.and_eq_true, Bool.or_eq_true, or_assoc]
  cases d.attributePath with
  | none => simp
  | some path => simp

theorem duplicateMethod_not_mem_issues (d : Descriptor) (index : Nat) (name : String) :
    .duplicateMethod name ∉ d.issues index := by
  simp [mem_issues_iff]

/-- Behind the issues of the descriptors, each method name that occurs twice is reported once, in
the order of the second occurrences. -/
theorem lint_eq_issues_append_repeatedNames (ds : List Descriptor) :
    lint ds = (ds.zipIdx.flatMap fun (d, index) => d.issues index) ++
      (repeatedNames ds).map .duplicateMethod ∧
    (∀ (d : Descriptor) (index : Nat) (name : String), .duplicateMethod name ∉ d.issues index) ∧
    (∀ name, name ∈ repeatedNames ds ↔ 2 ≤ (ds.map Descriptor.methodNameOrDefault).count name) ∧
    (repeatedNames ds).Nodup ∧
    (repeatedNames ds).Pairwise (SecondBefore (ds.map Descriptor.methodNameOrDefault)) ∧
    repeatedNames ds = secondOccurrences [] (ds.map Descriptor.methodNameOrDefault) := by
  have horder := pairwise_repeatedNames ds
  exact ⟨rfl, duplicateMethod_not_mem_issues, fun _ => mem_repeatedNames_iff,
    horder.imp SecondBefore.ne, horder, repeatedNames_eq_secondOccurrences ds⟩

/-! ### The first issue -/

/-- A search through the positions of a list ends at the first of them that has something. -/
theorem findSome?_zipIdx_eq_some_iff {α β : Type} {f : α × Nat → Option β} {xs : List α} {n : Nat}
    {b : β} :
    (xs.zipIdx n).findSome? f = some b ↔
      ∃ i x, xs[i]? = some x ∧ f (x, n + i) = some b ∧
        ∀ j < i, ∀ y, xs[j]? = some y → f (y, n + j) = none := by
  induction xs generalizing n with
  | nil =>
    refine iff_of_false nofun ?_
    rintro ⟨i, x, hx, -⟩
    cases hx
  | cons x xs ih =>
    have hshift (i : Nat) : n + 1 + i = n + (i + 1) := by omega
    rw [List.zipIdx_cons, List.findSome?_cons]
    cases hx : f (x, n) with
    | some b' =>
      constructor
      · rintro ⟨⟩
        exact ⟨0, x, rfl, hx, nofun⟩
      · rintro ⟨_ | i, y, hy, hb, hbefore⟩
        · cases hy
          exact hx.symm.trans hb
        · cases hx.symm.trans (hbefore 0 i.succ_pos x rfl)
    | none =>
      simp only [ih, hshift]
      constructor
      · rintro ⟨i, y, hy, hb, hbefore⟩
        refine ⟨i + 1, y, hy, hb, ?_⟩
        rintro (_ | j) hj z hz
        · cases hz
          exact hx
        · exact hbefore j (Nat.lt_of_succ_lt_succ hj) z hz
      · rintro ⟨_ | i, y, hy, hb, hbefore⟩
        · cases hy
          cases hx.symm.trans hb
        · exact ⟨i, y, hy, hb, fun j hj => hbefore (j + 1) (Nat.succ_lt_succ hj)⟩

namespace Descriptor

theorem rejectFirst_append (xs ys : List Issue) :
    rejectFirst (xs ++ ys) = rejectFirst xs >>= fun _ => rejectFirst ys := by
  cases xs <;> rfl

theorem rejectFirst_flatMap {α : Type} (f : α → List Issue) (xs : List α) :
    rejectFirst (xs.flatMap f) = xs.forM fun x => rejectFirst (f x) := by
  induction xs with
  | nil => rfl
  | cons x xs ih =>
    rw [List.flatMap_cons, rejectFirst_append, ih]
    rfl

theorem rejectFirst_eq_okUnless (issues : List Issue) :
    rejectFirst issues = okUnless (issues.head?.map .lint) () := by
  cases issues <;> rfl

/-- Why the descriptor at position `index` is refused on its own, if it is. -/
def refusal? (index : Nat) (d : Descriptor) : Option Failure := (d.issues index).head?.map .lint

theorem check_eq_okUnless (index : Nat) (d : Descriptor) :
    d.check index = okUnless (d.refusal? index) () := rejectFirst_eq_okUnless _

end Descriptor

/-- The descriptors are checked one after another, and then their names. -/
theorem checkAll_eq_bind (ds : List Descriptor) :
    checkAll ds = (ds.zipIdx.forM fun (d, index) => d.check index) >>= fun _ =>
      Descriptor.rejectFirst ((repeatedNames ds).map .duplicateMethod) := by
  rw [checkAll, lint, Descriptor.rejectFirst_append, Descriptor.rejectFirst_flatMap]
  rfl

theorem checkAll_eq_okUnless (ds : List Descriptor) :
    checkAll ds = okUnless ((ds.zipIdx.findSome? fun (d, index) => d.refusal? index).or
      ((repeatedNames ds).head?.map (.lint ∘ .duplicateMethod))) () := by
  rw [checkAll_eq_bind, Descriptor.rejectFirst_eq_okUnless]
  simp only [Descriptor.check_eq_okUnless]
  rw [forM_okUnless (fun x : Descriptor × Nat => x.1.refusal? x.2), okUnless_bind, List.head?_map,
    Option.map_map]

/-- Is each descriptor of the list accepted on its own? -/
def AllChecked (ds : List Descriptor) : Prop :=
  ∀ (i : Nat) (d : Descriptor), ds[i]? = some d → d.check i = .ok ()

/-- Is this the failure of the first descriptor of the list that is not accepted on its own? -/
def FirstRefused (ds : List Descriptor) (failure : Failure) : Prop :=
  ∃ (i : Nat) (d : Descriptor), ds[i]? = some d ∧ d.check i = .error failure ∧
    ∀ j < i, ∀ e : Descriptor, ds[j]? = some e → e.check j = .ok ()

theorem findSome?_refusal?_eq_none_iff :
    (ds.zipIdx.findSome? fun (d, index) => d.refusal? index) = none ↔ AllChecked ds := by
  simp only [AllChecked, Descriptor.check_eq_okUnless, okUnless_eq_ok_iff, and_true,
    List.findSome?_eq_none_iff, Prod.forall, List.mem_zipIdx_iff_getElem?]
  exact forall_comm

theorem findSome?_refusal?_eq_some_iff :
    (ds.zipIdx.findSome? fun (d, index) => d.refusal? index) = some failure ↔
      FirstRefused ds failure := by
  simp only [FirstRefused, Descriptor.check_eq_okUnless, okUnless_eq_ok_iff, and_true,
    okUnless_eq_error_iff, findSome?_zipIdx_eq_some_iff, Nat.zero_add]

/-- A list is accepted exactly if each descriptor is and the method names are distinct; otherwise
the first descriptor that is refused decides, and after it the first name that is repeated. -/
theorem checkAll_eq_first_issue (ds : List Descriptor) :
    (checkAll ds = .ok () ↔ AllChecked ds ∧ (ds.map Descriptor.methodNameOrDefault).Nodup) ∧
    ∀ failure, checkAll ds = .error failure ↔
      FirstRefused ds failure ∨
      (AllChecked ds ∧ ∃ name, RepeatedFirst (ds.map Descriptor.methodNameOrDefault) name ∧
        failure = .lint (.duplicateMethod name)) := by
  rw [checkAll_eq_okUnless]
  constructor
  · rw [okUnless_eq_ok_iff, Option.or_eq_none_iff, Option.map_eq_none_iff, List.head?_eq_none_iff,
      findSome?_refusal?_eq_none_iff, repeatedNames_eq_nil_iff]
    exact and_iff_left rfl
  · intro failure
    rw [okUnless_eq_error_iff, Option.or_eq_some_iff, findSome?_refusal?_eq_none_iff,
      findSome?_refusal?_eq_some_iff, Option.map_eq_some_iff]
    simp only [head?_repeatedNames_eq_some_iff, Function.comp_apply, eq_comm]

end CloudAccessors
