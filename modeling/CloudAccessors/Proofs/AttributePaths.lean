import CloudAccessors.Lint.Basic
import CloudAccessors.Proofs.Selectors

/-!
# Attribute paths

A path is cut at its separators, and its segments joined again are the path
(`intercalate_segments`). Without a separator it is its only segment, and with one it has at least
two. So the check of a list, which asks first whether there is a separator, accepts a path exactly
if it has one or two segments and none of them is blank (`isMalformedPath_iff`).
-/

namespace CloudAccessors

open Text (blank)

namespace Descriptor

variable {d : Descriptor} {path outer inner : String}

/-! ### Segments -/

def segments (path : String) : List String :=
  (path.toList.splitOn pathSeparator).map String.ofList

theorem accessPath_of_eq_some (h : d.attributePath = some path) : d.accessPath = segments path := by
  rw [accessPath, h]
  rfl

theorem accessPath_of_eq_none (h : d.attributePath = none) : d.accessPath = [d.entity] := by
  rw [accessPath, h]

theorem collectsElements_of_eq_some (h : d.attributePath = some path) :
    d.collectsElements = true ↔ pathSeparator ∈ path.toList := by
  rw [collectsElements, h, Option.any_some, List.contains_iff_mem]

theorem intercalate_segments (path : String) : "#".intercalate (segments path) = path :=
  Go.intercalate_splitOn rfl path

theorem segments_of_not_mem (h : pathSeparator ∉ path.toList) : segments path = [path] := by
  rw [segments, List.splitOn_eq_singleton h, List.map_singleton, String.ofList_toList]

theorem two_le_length_segments (h : pathSeparator ∈ path.toList) : 2 ≤ (segments path).length := by
  rw [segments, List.length_map]
  exact Go.two_le_length_splitOn h

theorem segments_pair (houter : pathSeparator ∉ outer.toList)
    (hinner : pathSeparator ∉ inner.toList) :
    segments (outer ++ "#" ++ inner) = [outer, inner] := by
  have htext : (outer ++ "#" ++ inner).toList = outer.toList ++ pathSeparator :: inner.toList := by
    simp [pathSeparator]
  rw [segments, htext, List.splitOn_append_cons_self_of_not_mem houter,
    List.splitOn_eq_singleton hinner]
  simp

/-- The access path joined again is the attribute path, or the entity if there is none. -/
theorem intercalate_accessPath (d : Descriptor) :
    "#".intercalate d.accessPath = d.attributePath.getD d.entity := by
  cases hpath : d.attributePath with
  | none => rw [accessPath_of_eq_none hpath, String.intercalate_singleton, Option.getD_none]
  | some path => rw [accessPath_of_eq_some hpath, intercalate_segments, Option.getD_some]

/-- A path without a separator, or the entity in its place, is taken as it is. -/
theorem accessPath_eq_singleton (h : d.collectsElements = false) :
    d.accessPath = [d.attributePath.getD d.entity] := by
  cases hpath : d.attributePath with
  | none => exact accessPath_of_eq_none hpath
  | some path =>
    have hsep : pathSeparator ∉ path.toList :=
      mt (collectsElements_of_eq_some hpath).2 (Bool.eq_false_iff.1 h)
    rw [accessPath_of_eq_some hpath, segments_of_not_mem hsep, Option.getD_some]

end Descriptor

/-! ### Malformed paths -/

theorem isMalformedPath_iff {path : String} :
    isMalformedPath path = true ↔
      ¬ (((Descriptor.segments path).length = 1 ∨ (Descriptor.segments path).length = 2) ∧
        ∀ s ∈ Descriptor.segments path, blank s = false) := by
  have hdef : isMalformedPath path = (blank path ||
      path.toList.contains Descriptor.pathSeparator &&
        ((Descriptor.segments path).length != 2 || (Descriptor.segments path).any blank)) := rfl
  rw [hdef]
  by_cases hsep : Descriptor.pathSeparator ∈ path.toList
  · have hblank : blank path = false := List.all_eq_false.2 ⟨_, hsep, by decide⟩
    have hlength := Descriptor.two_le_length_segments hsep
    have htwo : ((Descriptor.segments path).length = 1 ∨ (Descriptor.segments path).length = 2) ↔
        (Descriptor.segments path).length = 2 := by omega
    rw [hblank, List.contains_iff_mem.2 hsep, htwo, ← Bool.not_eq_false]
    simp
  · rw [Descriptor.segments_of_not_mem hsep]
    simp [hsep]

end CloudAccessors
