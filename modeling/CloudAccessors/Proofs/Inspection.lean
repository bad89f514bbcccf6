import CloudAccessors.Proofs.PrettyText
import CloudAccessors.Source.File
import Mathlib.Data.List.Basic

/-!
# What an inspection shows

The JSON form of a plan has all of its fields (`Plan.toJson_injective`) and no number
(`Plan.numberless_toJson`), so that its printed text determines it. The text of an inspection
therefore determines all plans, and with them whatever is generated (`generate_eq_of_inspect_eq`).
-/

namespace CloudAccessors

open Json (Numberless)

/-! ### Fields are kept apart -/

theorem Shape.toJson_injective : Function.Injective Shape.toJson := by
  intro a b h
  have hname : a.name = b.name := Json.string.inj h
  have hshape := Shape.ofName?_name a
  rw [hname, Shape.ofName?_name] at hshape
  exact (Option.some.inj hshape).symm

theorem Merge.toJson_injective : Function.Injective Merge.toJson := by
  intro a b h
  cases a <;> cases b <;> simp_all [Merge.toJson]

theorem Pagination.toJson_injective : Function.Injective Pagination.toJson := by
  intro a b h
  cases a
  cases b
  simpa [Pagination.toJson] using h

/-- An absent value is told from every present one that is not written as `null`. -/
theorem orNull_map_injective {α : Type} {f : α → Json} (hf : Function.Injective f)
    (hnull : ∀ a, f a ≠ .null) : Function.Injective fun a? : Option α => orNull (a?.map f) := by
  intro a? b? h
  cases a? with
  | none =>
    cases b? with
    | none => rfl
    | some b => exact absurd h.symm (hnull b)
  | some a =>
    cases b? with
    | none => exact absurd h (hnull a)
    | some b => exact congrArg some (hf h)

theorem Json.string_injective : Function.Injective Json.string := fun _ _ => Json.string.inj

theorem Plan.toJson_injective : Function.Injective Plan.toJson := by
  intro p q h
  simp only [Plan.toJson, Json.object.injEq, List.cons.injEq, Prod.mk.injEq, Json.string.injEq,
    Json.array.injEq, Json.bool.injEq, true_and, and_true] at h
  obtain ⟨hentity, hname, hdocumentation, hsignature, hinput, houtput, hshape, hservice, hcall,
    howner, hpath, hmerge, hpagination, hbody⟩ := h
  have howner := orNull_map_injective Json.string_injective (fun _ => by simp) howner
  have hpagination := orNull_map_injective Pagination.toJson_injective
    (fun _ => by simp [Pagination.toJson]) hpagination
  cases p
  cases q
  simp only [Plan.mk.injEq]
  exact ⟨hentity, hname, hdocumentation, hsignature, hinput, houtput,
    Shape.toJson_injective hshape, hservice, hcall, howner,
    List.map_injective_iff.2 Json.string_injective hpath, Merge.toJson_injective hmerge,
    hpagination, hbody⟩

/-! ### No numbers -/

theorem numberless_orNull {j? : Option Json} (h : ∀ j, j? = some j → Numberless j) :
    Numberless (orNull j?) := by
  cases j? with
  | none => exact .null
  | some j => exact h j rfl

theorem Merge.numberless_toJson (m : Merge) : Numberless m.toJson := by
  cases m <;> exact .object (by simp [Numberless.string])

theorem Plan.numberless_toJson (p : Plan) : Numberless p.toJson := by
  have howner : Numberless (orNull (p.ownerFilter.map .string)) := by
    refine numberless_orNull fun j hj => ?_
    obtain ⟨s, -, rfl⟩ := Option.map_eq_some_iff.1 hj
    exact .string s
  have hpath : Numberless (.array (p.accessPath.map .string)) := by
    refine .array fun item hitem => ?_
    obtain ⟨s, -, rfl⟩ := List.mem_map.1 hitem
    exact .string s
  have hpagination : Numberless (orNull (p.pagination.map Pagination.toJson)) := by
    refine numberless_orNull fun j hj => ?_
    obtain ⟨t, -, rfl⟩ := Option.map_eq_some_iff.1 hj
    exact .object (by simp [Numberless.string])
  refine .object ?_
  simp only [List.forall_mem_cons]
  simp [Numberless.string, Numberless.bool, howner, hpath, hpagination, p.merge.numberless_toJson,
    Shape.toJson]

/-! ### Inspections -/

namespace Source

variable {xs ys : List Descriptor}

theorem planAll_eq_of_inspect_eq (h : inspect xs = inspect ys) : planAll xs = planAll ys := by
  have hnumberless (ps : List Plan) : Numberless (.array (ps.map Plan.toJson)) := by
    refine .array fun item hitem => ?_
    obtain ⟨p, -, rfl⟩ := List.mem_map.1 hitem
    exact p.numberless_toJson
  have hplans := Json.eq_of_pretty_eq (hnumberless _) (hnumberless _) h
  exact List.map_injective_iff.2 Plan.toJson_injective (Json.array.inj hplans)

/-- Lists that are shown alike have the same plans, and the same source or the same failure is made
from them. -/
theorem generate_eq_of_inspect_eq (h : inspect xs = inspect ys) :
    planAll xs = planAll ys ∧ ∀ c, generate c xs = generate c ys := by
  have hplans := planAll_eq_of_inspect_eq h
  refine ⟨hplans, fun c => ?_⟩
  rw [generate, generate, hplans]

/-- Documentation that looks like JSON. -/
def quotedNote : String := "\", \"name\": null\n\\u0022"

/-- A descriptor that leaves the method name and the token field to their defaults. -/
def withDefaults : Descriptor where
  entity := "Vpcs"
  service := "ec2"
  callPrefix := "Describe"
  documentation := quotedNote

/-- A descriptor that states them. -/
def withStatedDefaults : Descriptor where
  entity := "Vpcs"
  service := "ec2"
  callPrefix := "Describe"
  methodName := some "GetVpcs"
  tokenField := some "NextToken"
  documentation := quotedNote

theorem generate_eq_withStatedDefaults :
    inspect [withDefaults] = inspect [withStatedDefaults] ∧
      planAll [withDefaults] = planAll [withStatedDefaults] ∧
      ∀ c, generate c [withDefaults] = generate c [withStatedDefaults] := by
  have hplans : planAll [withDefaults] = planAll [withStatedDefaults] := by decide +kernel
  have hshown : inspect [withDefaults] = inspect [withStatedDefaults] := by
    rw [inspect, inspect, hplans]
  exact ⟨hshown, generate_eq_of_inspect_eq hshown⟩

end Source

end CloudAccessors
