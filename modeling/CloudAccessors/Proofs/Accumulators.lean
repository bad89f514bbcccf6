import CloudAccessors.Lint.Basic
import CloudAccessors.Proofs.Concatenation

/-!
# Accumulators and merges

A body declares its accumulator by the shape of the result, and merges a page into it by the
attribute path and then by the shape. A slice can be appended to, a pointer or a map can be
assigned. The two choices agree unless the path asks to collect elements, which it does whatever the
shape is (`fits_iff`).
-/

namespace CloudAccessors.Source

variable {c : Config} {d : Descriptor} {ds : List Descriptor} {shape : Shape} {T s : String}

/-! ### Forms of statements

The element type `T` is whatever text stands there, line breaks included. -/

def DeclaresPointer (s : String) : Prop := ∃ T, s = "\tvar opt *" ++ T ++ "\n"

def DeclaresMap (s : String) : Prop := ∃ T, s = "\topt := make(map[string]*" ++ T ++ ")\n"

def DeclaresSlice (s : String) : Prop := ∃ T, s = "\topt := make([]*" ++ T ++ ", 0)\n"

/-- The accumulator is appended to, once for a page or once for each element. -/
def Appends (s : String) : Prop :=
  (∃ items, s = "\t\topt = append(opt, " ++ items ++ "...)\n") ∨
  ∃ outer items, s = "\t\tfor _, v := range o." ++ outer ++ " \x7b\n" ++
    "\t\t\topt = append(opt, " ++ items ++ "...)\n" ++ "\t\t\x7d\n"

def Assigns (s : String) : Prop := ∃ field, s = "\t\topt = o." ++ field ++ "\n"

/-- Can the accumulator be merged into in this way? -/
structure Fits (declaration merge : String) : Prop where
  append : Appends merge → DeclaresSlice declaration
  assign : Assigns merge → DeclaresPointer declaration ∨ DeclaresMap declaration

/-! ### The accumulator of a shape -/

theorem declaresPointer_or_declaresMap_accumulator (h : shape.replacesOnMerge) :
    DeclaresPointer (accumulator shape (shape.typePrefix ++ T)) ∨
      DeclaresMap (accumulator shape (shape.typePrefix ++ T)) := by
  cases shape with
  | single => exact .inl ⟨T, by simp [accumulator, Shape.typePrefix, ← String.toList_inj]⟩
  | map => exact .inr ⟨T, by simp [accumulator, Shape.typePrefix, ← String.toList_inj]⟩
  | sequence => cases h

theorem declaresSlice_accumulator_iff :
    DeclaresSlice (accumulator shape (shape.typePrefix ++ T)) ↔ shape.replacesOnMerge = false := by
  cases shape with
  | sequence =>
    exact iff_of_true ⟨T, by simp [accumulator, Shape.typePrefix, ← String.toList_inj]⟩ rfl
  | single | map =>
    refine iff_of_false ?_ (by simp [Shape.replacesOnMerge])
    rintro ⟨U, hU⟩
    simp [accumulator, Shape.typePrefix, ← String.toList_inj] at hU

/-! ### The merge of a path -/

theorem appends_mergeStatement_iff {m : Merge} :
    Appends (mergeStatement m) ↔ ∀ field, m ≠ .assign field := by
  cases m with
  | flatten outer inner =>
    refine iff_of_true (.inr ⟨outer, "v." ++ inner, ?_⟩) (by simp)
    have helement : "\t\t\topt = append(opt, v." = "\t\t\topt = append(opt, " ++ "v." := rfl
    unfold mergeStatement
    rw [helement]
    simp only [String.append_assoc]
  | append field =>
    refine iff_of_true (.inl ⟨"o." ++ field, ?_⟩) (by simp)
    have hpage : "\t\topt = append(opt, o." = "\t\topt = append(opt, " ++ "o." := rfl
    unfold mergeStatement
    rw [hpage]
    simp only [String.append_assoc]
  | assign field =>
    refine iff_of_false ?_ fun h => h field rfl
    unfold mergeStatement Appends
    rintro (⟨items, h⟩ | ⟨outer, items, h⟩)
    · simp [← String.toList_inj] at h
    · simp [← String.toList_inj] at h

theorem assigns_mergeStatement_iff {m : Merge} :
    Assigns (mergeStatement m) ↔ ∃ field, m = .assign field := by
  cases m with
  | assign field => exact iff_of_true ⟨field, by unfold mergeStatement; rfl⟩ ⟨field, rfl⟩
  | flatten | append =>
    refine iff_of_false ?_ (by simp)
    unfold mergeStatement
    rintro ⟨items, h⟩
    simp [← String.toList_inj] at h

/-! ### Both together -/

theorem merge_eq_assign_iff (d : Descriptor) :
    (∃ field, d.merge = .assign field) ↔
      d.collectsElements = false ∧ d.shape.replacesOnMerge = true := by
  unfold Descriptor.merge
  cases d.collectsElements <;> cases d.shape.replacesOnMerge <;> simp

theorem replacesOnMerge_shape_iff (d : Descriptor) :
    d.shape.replacesOnMerge = true ↔ d.singleResult = true ∨ d.mapResult = true := by
  unfold Descriptor.shape
  cases d.singleResult <;> cases d.mapResult <;> simp [Shape.replacesOnMerge]

theorem collectsElements_iff (d : Descriptor) :
    d.collectsElements = true ↔
      ∃ path, d.attributePath = some path ∧ Descriptor.pathSeparator ∈ path.toList := by
  unfold Descriptor.collectsElements
  cases d.attributePath <;> simp

/-- A pointer or a map is only ever declared to be assigned. -/
theorem assigns_imp_declares (d : Descriptor) (h : Assigns (mergeStatement d.merge)) :
    DeclaresPointer (accumulator d.shape d.outputType) ∨
      DeclaresMap (accumulator d.shape d.outputType) := by
  rw [assigns_mergeStatement_iff, merge_eq_assign_iff] at h
  exact declaresPointer_or_declaresMap_accumulator h.2

theorem fits_iff (d : Descriptor) :
    Fits (accumulator d.shape d.outputType) (mergeStatement d.merge) ↔
      ¬ (d.collectsElements = true ∧ d.shape.replacesOnMerge = true) := by
  have happends : Appends (mergeStatement d.merge) ↔
      ¬ (d.collectsElements = false ∧ d.shape.replacesOnMerge = true) := by
    rw [appends_mergeStatement_iff, ← merge_eq_assign_iff, not_exists]
  have hslice : DeclaresSlice (accumulator d.shape d.outputType) ↔
      d.shape.replacesOnMerge = false := declaresSlice_accumulator_iff
  constructor
  · rintro ⟨happend, -⟩ ⟨hcollects, hreplaces⟩
    have hdeclared := hslice.1 (happend (happends.2 (by simp [hcollects])))
    simp [hreplaces] at hdeclared
  · intro hnot
    refine ⟨fun h => hslice.2 ?_, assigns_imp_declares d⟩
    have hmerge := happends.1 h
    cases hreplaces : d.shape.replacesOnMerge with
    | false => rfl
    | true =>
      cases hcollects : d.collectsElements with
      | false => exact absurd ⟨hcollects, hreplaces⟩ hmerge
      | true => exact absurd ⟨hcollects, hreplaces⟩ hnot

/-! ### Emitted bodies -/

theorem exists_generate_eq_append {src : String} (h : generate c ds = .ok src) (hd : d ∈ ds)
    (hbody : d.handWritten = false) :
    ∃ front back, src = front ++ methodText c d.plan ++ back := by
  obtain ⟨-, rfl⟩ := generate_eq_ok_iff.1 h
  obtain ⟨xs, ys, rfl⟩ := List.append_of_mem hd
  have hdescriptor : bodies c (d :: ys) = "\n" ++ methodText c d.plan ++ bodies c ys := by
    rw [bodies, List.map_cons, String.join_cons, ← bodies, bodyText, hbody]
    rfl
  refine ⟨fileHeader c ++ declarations (xs ++ d :: ys) ++ "\x7d\n" ++ bodies c xs ++ "\n",
    bodies c ys, ?_⟩
  rw [fileText, bodies_append, hdescriptor]
  simp only [String.append_assoc]

/-- What stands in a body between its accumulator and the merge of a page. -/
def pageLoopHead (p : Plan) : String :=
  "\n" ++ "\thasMorePages := true\n" ++ "\tfor hasMorePages \x7b\n" ++
  pageRequest p.service p.call ++ continuation p.inputType p.pagination ++ "\n"

theorem methodText_eq_accumulator_merge (c : Config) (p : Plan) :
    methodText c p =
      methodHeader c p ++ (p.ownerFilter.map (ownerRestriction p.inputType)).getD "" ++
        clientCreation p.service ++ accumulator p.shape p.outputType ++ pageLoopHead p ++
        mergeStatement p.merge ++ ("\t\x7d\n\n" ++ "\treturn opt, nil\n" ++ "\x7d\n") := by
  simp only [methodText, pageLoopHead, String.append_assoc]

/-- In every body that is generated, the merge fits the accumulator unless the path of the
descriptor asks to collect elements although its result is one item or a map; and even then nothing
is assigned to a slice. -/
theorem merge_fits_accumulator_iff {src : String} (h : generate c ds = .ok src) (hd : d ∈ ds)
    (hbody : d.handWritten = false) :
    (∃ front back, src = front ++ methodText c d.plan ++ back) ∧
    (∃ front middle back, methodText c d.plan =
      front ++ accumulator d.shape d.outputType ++ middle ++ mergeStatement d.merge ++ back) ∧
    (Fits (accumulator d.shape d.outputType) (mergeStatement d.merge) ↔
      ¬ ((∃ path, d.attributePath = some path ∧ '#' ∈ path.toList) ∧
        (d.singleResult = true ∨ d.mapResult = true))) ∧
    (Assigns (mergeStatement d.merge) →
      DeclaresPointer (accumulator d.shape d.outputType) ∨
        DeclaresMap (accumulator d.shape d.outputType)) := by
  refine ⟨exists_generate_eq_append h hd hbody, ⟨_, _, _, methodText_eq_accumulator_merge c d.plan⟩,
    ?_, assigns_imp_declares d⟩
  rw [fits_iff, collectsElements_iff, replacesOnMerge_shape_iff]
  rfl

/-- The instances are collected out of the reservations of each page. -/
def reservedInstances : Descriptor :=
  { entity := "Instances", service := "ec2", callPrefix := "Describe",
    attributePath := some "Reservations#Instances", singular := some "Instance" }

/-- The same path, but only one instance is asked for. -/
def reservedInstance : Descriptor :=
  { reservedInstances with singleResult := true }

theorem merge_fits_accumulator_reservedInstances :
    Fits (accumulator reservedInstances.shape reservedInstances.outputType)
        (mergeStatement reservedInstances.merge) ∧
      ¬ Fits (accumulator reservedInstance.shape reservedInstance.outputType)
        (mergeStatement reservedInstance.merge) := by
  have hgenerate : generate {} [reservedInstances, reservedInstance] =
      .ok (fileText {} [reservedInstances, reservedInstance]) :=
    generate_eq_ok_iff.2 ⟨by decide +kernel, rfl⟩
  constructor
  · refine (merge_fits_accumulator_iff hgenerate (by simp) rfl).2.2.1.2 ?_
    rintro ⟨-, hsingle | hmap⟩
    · cases hsingle
    · cases hmap
  · intro hfits
    refine (merge_fits_accumulator_iff hgenerate (by simp) rfl).2.2.1.1 hfits ?_
    exact ⟨⟨_, rfl, by decide⟩, .inl rfl⟩

/-- Neither the check of a list nor that of a plan rules such a path out: the elements are appended
to a pointer. -/
theorem not_merge_fits_accumulator_reservedInstance :
    ¬ ∀ (c : Config) (ds : List Descriptor) (src : String), lint ds = [] →
      generate c ds = .ok src → ∀ d ∈ ds, d.handWritten = false →
        Fits (accumulator d.shape d.outputType) (mergeStatement d.merge) := by
  intro hall
  have hlint : lint [reservedInstance] = [] := by decide +kernel
  have hnone : firstFailure? {} [reservedInstance] = none := by decide +kernel
  have hfits := hall {} [reservedInstance] _ hlint (generate_eq_ok_iff.2 ⟨hnone, rfl⟩)
    reservedInstance (by simp) rfl
  exact (fits_iff reservedInstance).1 hfits (by decide +kernel)

end CloudAccessors.Source
