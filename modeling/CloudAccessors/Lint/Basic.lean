import CloudAccessors.Failure
import CloudAccessors.Plan.Derivation
import CloudAccessors.Text.Trim

/-!
# Checking a descriptor list

`lint` reports every issue of a list: those of each descriptor, in list order, and then every method
name that occurs again, in the order of the second occurrences.
-/

namespace CloudAccessors

open Text (blank)

/-- Is a path neither a single segment nor two segments that are not blank? -/
def isMalformedPath (path : String) : Bool :=
  let segments := (path.toList.splitOn Descriptor.pathSeparator).map String.ofList
  blank path ||
    path.toList.contains Descriptor.pathSeparator &&
      (segments.length != 2 || segments.any blank)

namespace Descriptor

/-- The issues of the descriptor at position `index` of its list. -/
def issues (index : Nat) (d : Descriptor) : List Issue :=
  (if blank d.entity then [.emptyEntity index] else []) ++
  (if d.singleResult && d.mapResult then [.conflictingShape d.entity] else []) ++
  (match d.attributePath with
    | some path => if isMalformedPath path then [.malformedAttributePath d.entity path] else []
    | none => []) ++
  (if d.unpaginated && (d.tokenField.isSome || d.inputTokenField.isSome) then
    [.ignoredPaginationOverride d.entity] else [])

/-- The first issue of a list, as a failure. -/
def rejectFirst : List Issue → Except Failure Unit
  | [] => .ok ()
  | issue :: _ => .error (.lint issue)

/-- Accepts the descriptor at position `index` if it has no issue of its own. -/
def check (index : Nat) (d : Descriptor) : Except Failure Unit := rejectFirst (d.issues index)

end Descriptor

/-- How far a walk through a list of names has come. The names that it has met and those that it
has reported are sets, kept as lists. -/
structure NameWalk where
  met : List String := []
  reported : List String := []
  report : List String := []

/-- Reports a name that has been met before and not been reported. -/
def NameWalk.visit (w : NameWalk) (name : String) : NameWalk :=
  if name ∈ w.met then
    if name ∈ w.reported then w
    else { w with reported := w.reported.insert name, report := w.report ++ [name] }
  else { w with met := w.met.insert name }

/-- The method names of a list that occur more than once, as a walk through them reports them. -/
def repeatedNames (ds : List Descriptor) : List String :=
  ((ds.map Descriptor.methodNameOrDefault).foldl NameWalk.visit {}).report

def lint (ds : List Descriptor) : List Issue :=
  (ds.zipIdx.flatMap fun (d, index) => d.issues index) ++ (repeatedNames ds).map .duplicateMethod

/-- Accepts a list without issues. -/
def checkAll (ds : List Descriptor) : Except Failure Unit := Descriptor.rejectFirst (lint ds)

end CloudAccessors
