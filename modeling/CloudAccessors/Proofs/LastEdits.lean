import CloudAccessors.Descriptor.Edit

/-!
# The last edit of each field

An edit gives a value to one field, or to the two fields of the service, and keeps what the others
have (`get_apply`). So after a row of edits a field has what the last edit that sets it has given to
it, and without such an edit what it had before (`get_foldl_apply`). No edit sets the entity, and an
edit that sets a flag can only turn it on. Every other field can be given any value, so that each
descriptor is built from its entity by some row of edits (`build_toEdits`).
-/

namespace CloudAccessors.Descriptor

variable {edit : Edit} {edits : List Edit}

/-- What an edit gives to a field, if it sets that field. -/
def Edit.given? : Edit → (f : Field) → Option f.kind.Value
  | .service package _, .service => some package
  | .service _ verb, .callPrefix => some verb
  | .methodName s, .methodName => some (some s)
  | .signature s, .signature => some (some s)
  | .elementType s, .elementType => some (some s)
  | .attributePath s, .attributePath => some (some s)
  | .callName s, .callName => some (some s)
  | .singular s, .singular => some (some s)
  | .ownerField s, .ownerField => some (some s)
  | .tokenField s, .tokenField => some (some s)
  | .inputTokenField s, .inputTokenField => some (some s)
  | .unpaginated, .unpaginated => some true
  | .singleResult, .singleResult => some true
  | .mapResult, .mapResult => some true
  | .documentation s, .documentation => some s
  | .handWritten, .handWritten => some true
  | _, _ => none

/-- What the last edit of the row that sets the field gives to it, if there is one. -/
def lastGiven? (edits : List Edit) (f : Field) : Option f.kind.Value :=
  edits.reverse.findSome? (·.given? f)

/-! ### Rows of edits -/

/-- One edit writes what it gives and nothing else. -/
theorem get_apply (d : Descriptor) (edit : Edit) (f : Field) :
    (d.apply edit).get f = (edit.given? f).getD (d.get f) := by
  cases edit <;> cases f <;> rfl

theorem lastGiven?_append (xs ys : List Edit) (f : Field) :
    lastGiven? (xs ++ ys) f = (lastGiven? ys f).or (lastGiven? xs f) := by
  rw [lastGiven?, List.reverse_append, List.findSome?_append]
  rfl

theorem lastGiven?_singleton (edit : Edit) (f : Field) : lastGiven? [edit] f = edit.given? f :=
  List.findSome?_singleton

theorem lastGiven?_cons (edit : Edit) (edits : List Edit) (f : Field) :
    lastGiven? (edit :: edits) f = (lastGiven? edits f).or (edit.given? f) := by
  rw [← lastGiven?_singleton]
  exact lastGiven?_append [edit] edits f

theorem get_foldl_apply (edits : List Edit) (d : Descriptor) (f : Field) :
    (edits.foldl apply d).get f = (lastGiven? edits f).getD (d.get f) := by
  induction edits generalizing d with
  | nil => rfl
  | cons edit edits ih =>
    rw [List.foldl_cons, ih, get_apply, lastGiven?_cons]
    cases lastGiven? edits f with
    | none => rw [Option.none_or, Option.getD_none]
    | some v => rfl

theorem get_build (entity : String) (edits : List Edit) (f : Field) :
    (build entity edits).get f = (lastGiven? edits f).getD (({ entity } : Descriptor).get f) :=
  get_foldl_apply edits { entity } f

theorem entity_build (entity : String) (edits : List Edit) :
    (build entity edits).entity = entity := by
  have hnone : lastGiven? edits .entity = none :=
    List.findSome?_eq_none_iff.2 fun edit _ => by cases edit <;> rfl
  have hget := get_build entity edits .entity
  rwa [hnone] at hget

/-- A flag that is off at first and set by one kind of edit is on exactly if there is such an
edit. -/
theorem eq_true_iff_mem {flag : Bool} {given? : Edit → Option Bool}
    (hflag : flag = (edits.reverse.findSome? given?).getD false)
    (hgiven : ∀ e, given? e = if e = edit then some true else none) :
    flag = true ↔ edit ∈ edits := by
  rw [hflag]
  cases hlast : edits.reverse.findSome? given? with
  | none =>
    refine iff_of_false Bool.false_ne_true fun hmem => ?_
    have hnone := List.findSome?_eq_none_iff.1 hlast edit (List.mem_reverse.2 hmem)
    rw [hgiven, if_pos rfl] at hnone
    cases hnone
  | some b =>
    obtain ⟨e, he, hb⟩ := List.exists_of_findSome?_eq_some hlast
    rw [hgiven] at hb
    split at hb
    · rename_i heq
      cases hb
      exact iff_of_true rfl (heq ▸ List.mem_reverse.1 he)
    · cases hb

/-! ### The edits of a descriptor -/

/-- A row of edits that gives to each field what it has in `d`. -/
def toEdits (d : Descriptor) : List Edit :=
  .service d.service d.callPrefix :: .documentation d.documentation ::
    (d.methodName.toList.map .methodName ++ d.signature.toList.map .signature ++
      d.elementType.toList.map .elementType ++ d.attributePath.toList.map .attributePath ++
      d.callName.toList.map .callName ++ d.singular.toList.map .singular ++
      d.ownerField.toList.map .ownerField ++ d.tokenField.toList.map .tokenField ++
      d.inputTokenField.toList.map .inputTokenField ++
      (if d.unpaginated then [.unpaginated] else []) ++
      (if d.singleResult then [.singleResult] else []) ++
      (if d.mapResult then [.mapResult] else []) ++
      (if d.handWritten then [.handWritten] else []))

theorem lastGiven?_map_toList (o : Option String) (g : String → Edit) (f : Field) :
    lastGiven? (o.toList.map g) f = o.bind fun s => (g s).given? f := by
  cases o with
  | none => rfl
  | some s => exact lastGiven?_singleton (g s) f

theorem lastGiven?_ite (b : Bool) (edit : Edit) (f : Field) :
    lastGiven? (if b then [edit] else []) f = if b then edit.given? f else none := by
  cases b with
  | false => rfl
  | true => exact lastGiven?_singleton edit f

theorem build_toEdits (d : Descriptor) : build d.entity d.toEdits = d := by
  have htext (o : Option String) : (o.bind fun s => some (some s)).getD none = o := by
    cases o <;> rfl
  have hflag (b : Bool) : (if b then some true else none).getD false = b := by cases b <;> rfl
  refine ext_get fun f => ?_
  rw [get_build, toEdits, lastGiven?_cons, lastGiven?_cons]
  simp only [lastGiven?_append, lastGiven?_map_toList, lastGiven?_ite]
  cases f <;> simp [Edit.given?, get, htext, hflag]

/-- A built descriptor has in each field what the last edit that sets it gives, or else what the
field starts with; the entity stays, and a flag is on exactly if some edit turns it on. So rows of
edits that agree on what is given last to each field build the same descriptor. There is none that
is not built. -/
theorem build_eq_lastGiven :
    (∀ entity edits f, (build entity edits).get f =
      (lastGiven? edits f).getD (({ entity } : Descriptor).get f)) ∧
    (∀ entity edits, (build entity edits).entity = entity ∧
      ((build entity edits).unpaginated = true ↔ .unpaginated ∈ edits) ∧
      ((build entity edits).singleResult = true ↔ .singleResult ∈ edits) ∧
      ((build entity edits).mapResult = true ↔ .mapResult ∈ edits) ∧
      ((build entity edits).handWritten = true ↔ .handWritten ∈ edits)) ∧
    (∀ entity xs ys, (∀ f, lastGiven? xs f = lastGiven? ys f) →
      build entity xs = build entity ys) ∧
    ∀ d : Descriptor, ∃ edits, build d.entity edits = d := by
  refine ⟨get_build, fun entity edits => ⟨entity_build entity edits, ?_, ?_, ?_, ?_⟩,
    fun entity xs ys h => ext_get fun f => ?_, fun d => ⟨d.toEdits, build_toEdits d⟩⟩
  · exact eq_true_iff_mem (get_build entity edits .unpaginated) fun e => by cases e <;> rfl
  · exact eq_true_iff_mem (get_build entity edits .singleResult) fun e => by cases e <;> rfl
  · exact eq_true_iff_mem (get_build entity edits .mapResult) fun e => by cases e <;> rfl
  · exact eq_true_iff_mem (get_build entity edits .handWritten) fun e => by cases e <;> rfl
  · rw [get_build, get_build, h f]

/-- The name and the service are stated twice in one row and once in the other, in between a
flag. -/
theorem build_eq_lastGiven_images :
    (∀ f, lastGiven? [.methodName "GetAll", .service "ec2" "List", .unpaginated,
        .service "ec2" "Describe", .methodName "GetImages"] f =
      lastGiven? [.methodName "GetImages", .service "ec2" "Describe", .unpaginated] f) ∧
    build "Images" [.methodName "GetAll", .service "ec2" "List", .unpaginated,
        .service "ec2" "Describe", .methodName "GetImages"] =
      build "Images" [.methodName "GetImages", .service "ec2" "Describe", .unpaginated] := by
  have hlast : ∀ f, lastGiven? [.methodName "GetAll", .service "ec2" "List", .unpaginated,
        .service "ec2" "Describe", .methodName "GetImages"] f =
      lastGiven? [.methodName "GetImages", .service "ec2" "Describe", .unpaginated] f := by
    intro f
    cases f <;> rfl
  exact ⟨hlast, build_eq_lastGiven.2.2.1 "Images" _ _ hlast⟩

end CloudAccessors.Descriptor
