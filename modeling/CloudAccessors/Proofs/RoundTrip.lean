import CloudAccessors.Descriptor.Reader
import CloudAccessors.Proofs.JsonStrings
import Mathlib.Data.List.Basic

/-!
# A written descriptor is read back

Reading the text of an object is taking its members one after the other
(`readMembers_compactMembers`), provided that the text of each member is read back in front of what
may follow it (`ReadsBack`). What is written for a field sets the field, and what is not written has
the default that the draft has as well (`foldlM_takeMember_member?`); so all members together make
up the descriptor (`foldlM_takeMember_members`), and its text is read back (`parse_serialize`).
-/

namespace CloudAccessors.Descriptor

open Json

variable {draft draft' : Draft} {cs rest more : List Char}

/-! ### Members of a text -/

/-- Is the text of this member read as the member, in front of what may follow it? -/
def ReadsBack (member : String × Json) : Prop :=
  ∀ (draft : Draft) (c : Char) (rest : List Char), c = ',' ∨ c = '\x7d' →
    readKeyed draft (quote member.1 ++ ':' :: compactText member.2 ++ c :: rest) =
      liftMismatch ((draft.takeMember member).map fun draft => (draft, c :: rest))

theorem readMembers_of_error {e : ReadError} (h : readKeyed draft cs = .error e) :
    readMembers draft cs = .error e := by
  rw [readMembers]
  split
  · rename_i hk
    rw [h] at hk
    cases hk
    rfl
  · rename_i hk
    rw [h] at hk
    cases hk

theorem readMembers_last (h : readKeyed draft cs = .ok (draft', rest))
    (hs : skipSpace rest = '\x7d' :: more) :
    readMembers draft cs = .ok (draft'.descriptor, more) := by
  rw [readMembers]
  split
  · rename_i hk
    rw [h] at hk
    cases hk
  · rename_i hk
    rw [h] at hk
    cases hk
    split <;> simp_all

theorem readMembers_next (h : readKeyed draft cs = .ok (draft', rest))
    (hs : skipSpace rest = ',' :: more) :
    readMembers draft cs = readMembers draft' (skipSpace more) := by
  rw [readMembers]
  split
  · rename_i hk
    rw [h] at hk
    cases hk
  · rename_i hk
    rw [h] at hk
    cases hk
    split <;> simp_all

/-- The members of an object begin with the quote of a key. -/
theorem compactMembers_eq_cons {members : List (String × Json)} (hne : members ≠ []) :
    ∃ cs, compactMembers members = '"' :: cs := by
  cases members with
  | nil => exact absurd rfl hne
  | cons member more => cases more <;> exact ⟨_, rfl⟩

theorem skipSpace_compactMembers {members : List (String × Json)} (hne : members ≠ []) :
    skipSpace (compactMembers members ++ rest) = compactMembers members ++ rest := by
  obtain ⟨cs, hcs⟩ := compactMembers_eq_cons hne
  rw [hcs]
  rfl

theorem readMembers_compactMembers {members : List (String × Json)} (hne : members ≠ [])
    (h : ∀ member ∈ members, ReadsBack member) (draft : Draft) (rest : List Char) :
    readMembers draft (compactMembers members ++ '\x7d' :: rest) =
      liftMismatch ((members.foldlM Draft.takeMember draft).map fun draft =>
        (draft.descriptor, rest)) := by
  induction members generalizing draft with
  | nil => exact absurd rfl hne
  | cons member more ih =>
    have hmember := h member (by simp)
    rw [List.foldlM_cons]
    cases more with
    | nil =>
      have hread := hmember draft '\x7d' rest (.inr rfl)
      cases htake : draft.takeMember member with
      | error e => rw [htake] at hread; exact readMembers_of_error hread
      | ok draft' => rw [htake] at hread; exact readMembers_last hread rfl
    | cons next more =>
      have htext : compactMembers (member :: next :: more) ++ '\x7d' :: rest =
          quote member.1 ++ ':' :: compactText member.2 ++
            ',' :: (compactMembers (next :: more) ++ '\x7d' :: rest) := by
        simp [compactMembers]
      have hread := hmember draft ',' (compactMembers (next :: more) ++ '\x7d' :: rest) (.inl rfl)
      rw [htext]
      cases htake : draft.takeMember member with
      | error e => rw [htake] at hread; exact readMembers_of_error hread
      | ok draft' =>
        rw [htake] at hread
        rw [readMembers_next hread rfl, skipSpace_compactMembers (by simp)]
        exact ih (by simp) (fun m hm => h m (by simp [hm])) draft'

/-! ### Members of a descriptor -/

variable {d : Descriptor} {f : Field} {k : Kind} {v : k.Value} {j : Json}

theorem Kind.accept_of_toJson? (h : k.toJson? v = some j) : k.accept j.head = .ok v := by
  cases k with
  | text | flag => cases h; rfl
  | optionalText =>
    cases v with
    | none => cases h
    | some s => cases h; rfl

theorem Kind.eq_default_of_toJson? (h : k.toJson? v = none) : v = k.default := by
  cases k with
  | text | flag => cases h
  | optionalText =>
    cases v with
    | none => rfl
    | some s => cases h

theorem readHead_of_toJson? (h : k.toJson? v = some j) (rest : List Char) :
    readHead (skipSpace (compactText j ++ rest)) = .ok (j.head, rest) := by
  have hstring (s : String) :
      readHead (skipSpace (quote s ++ rest)) = .ok (.string s, rest) := by
    rw [quote_append]
    show (readChars (s.toList.flatMap escape ++ '"' :: rest)).map _ = _
    simp only [readChars_flatMap_escape, Except.map, String.ofList_toList]
  cases k with
  | text => cases h; exact hstring v
  | optionalText =>
    cases v with
    | none => cases h
    | some s => cases h; exact hstring s
  | flag => cases h; cases v <;> rfl

theorem fieldOf_key (draft : Draft) (f : Field) :
    draft.fieldOf f.key =
      if f ∈ draft.seen then .error (.duplicateField f.key) else .ok (some f) := by
  rw [Draft.fieldOf, Field.ofKey?_key]

theorem takeMember_key (draft : Draft) (f : Field) (j : Json) :
    draft.takeMember (f.key, j) =
      if f ∈ draft.seen then .error (.duplicateField f.key) else draft.take f j.head := by
  rw [Draft.takeMember, fieldOf_key]
  split <;> rfl

theorem readsBack_of_toJson? {v : f.kind.Value} (h : f.kind.toJson? v = some j) :
    ReadsBack (f.key, j) := by
  intro draft c rest _
  have hcolon (tail : List Char) : skipColon (':' :: tail) = .ok tail := rfl
  rw [takeMember_key, List.append_assoc, quote_append, readKeyed, readChars_flatMap_escape]
  simp only [String.ofList_toList, fieldOf_key, List.cons_append, hcolon]
  by_cases hseen : f ∈ draft.seen
  · simp only [hseen, if_true]
    rfl
  · simp only [hseen, if_false, readMember, readHead_of_toJson? h]

/-- What is written for a field sets it. A field that is not written has its default, and so has the
draft that has not met it. -/
theorem foldlM_takeMember_member? (hseen : f ∉ draft.seen)
    (hdefault : draft.descriptor.get f = f.kind.default) :
    ∃ draft', (d.member? f).toList.foldlM Draft.takeMember draft = .ok draft' ∧
      draft'.seen ⊆ f :: draft.seen ∧ draft'.descriptor = draft.descriptor.set f (d.get f) := by
  cases hwritten : f.kind.toJson? (d.get f) with
  | none =>
    refine ⟨draft, by rw [member?, hwritten]; rfl, List.subset_cons_self _ _, ext_get fun g => ?_⟩
    by_cases hg : g = f
    · subst hg
      rw [get_set, hdefault, Kind.eq_default_of_toJson? hwritten]
    · rw [get_set_of_ne hg]
  | some j =>
    refine ⟨⟨f :: draft.seen, draft.descriptor.set f (d.get f)⟩, ?_, List.Subset.refl _, rfl⟩
    rw [member?, hwritten, Option.map_some, Option.toList_some, List.foldlM_cons, takeMember_key,
      if_neg hseen, Draft.take, Kind.accept_of_toJson? hwritten]
    rfl

theorem foldlM_takeMember_filterMap {fields : List Field} (hnodup : fields.Nodup)
    (hseen : ∀ f ∈ fields, f ∉ draft.seen)
    (hdefault : ∀ f ∈ fields, draft.descriptor.get f = f.kind.default) :
    ∃ draft', (fields.filterMap d.member?).foldlM Draft.takeMember draft = .ok draft' ∧
      ∀ f, draft'.descriptor.get f = if f ∈ fields then d.get f else draft.descriptor.get f := by
  induction fields generalizing draft with
  | nil => exact ⟨draft, rfl, fun f => rfl⟩
  | cons g fields ih =>
    obtain ⟨hg, hnodup⟩ := List.nodup_cons.1 hnodup
    have hne : ∀ f ∈ fields, f ≠ g := fun f hf h => hg (h ▸ hf)
    obtain ⟨next, hnext, hmet, hset⟩ :=
      foldlM_takeMember_member? (d := d) (hseen g (by simp)) (hdefault g (by simp))
    have hunseen : ∀ f ∈ fields, f ∉ next.seen := fun f hf hmem => by
      rcases List.mem_cons.1 (hmet hmem) with h | h
      · exact hne f hf h
      · exact hseen f (by simp [hf]) h
    have hunset : ∀ f ∈ fields, next.descriptor.get f = f.kind.default := fun f hf => by
      rw [hset, get_set_of_ne (hne f hf), hdefault f (by simp [hf])]
    obtain ⟨draft', hfold, hget⟩ := ih hnodup hunseen hunset
    refine ⟨draft', ?_, fun f => ?_⟩
    · rw [List.filterMap_eq_flatMap_toList] at hfold ⊢
      rw [List.flatMap_cons, List.foldlM_append, hnext]
      exact hfold
    · rw [hget, hset]
      by_cases hf : f = g
      · subst hf
        rw [if_neg hg, if_pos (by simp), get_set]
      · simp only [List.mem_cons, hf, false_or, get_set_of_ne hf]

/-- The members of a descriptor make up the descriptor. -/
theorem foldlM_takeMember_members (d : Descriptor) :
    ∃ draft, d.members.foldlM Draft.takeMember {} = .ok draft ∧ draft.descriptor = d := by
  have hnodup : Field.all.Nodup := by decide
  have hseen : ∀ f ∈ Field.all, f ∉ ({} : Draft).seen := by simp
  obtain ⟨draft, hfold, hget⟩ :=
    foldlM_takeMember_filterMap (d := d) hnodup hseen fun f _ => get_default f
  refine ⟨draft, hfold, ext_get fun f => ?_⟩
  rw [hget, if_pos (Field.mem_all f)]

/-! ### Whole descriptors -/

theorem readsBack_of_mem_members {member : String × Json} (h : member ∈ d.members) :
    ReadsBack member := by
  obtain ⟨f, -, hmember⟩ := List.mem_filterMap.1 h
  obtain ⟨j, hj, rfl⟩ := Option.map_eq_some_iff.1 hmember
  exact readsBack_of_toJson? hj

/-- The entity is always written. -/
theorem members_ne_nil (d : Descriptor) : d.members ≠ [] := by
  have hentity : d.member? .entity = some (Field.entity.key, .string d.entity) := rfl
  rw [members, Field.all, List.filterMap_cons_some hentity]
  exact List.cons_ne_nil _ _

theorem readObject_compactMembers {members : List (String × Json)} (hne : members ≠ []) :
    readObject (compactMembers members ++ '\x7d' :: rest) =
      readMembers {} (compactMembers members ++ '\x7d' :: rest) := by
  rw [readObject, skipSpace_compactMembers hne]
  obtain ⟨cs, hcs⟩ := compactMembers_eq_cons hne
  rw [hcs]
  rfl

/-- Reading the text of a descriptor gives back the descriptor. -/
theorem parse_serialize (d : Descriptor) : parse d.serialize = .ok d := by
  obtain ⟨draft, hfold, rfl⟩ := foldlM_takeMember_members d
  have hobject : readObject (compactMembers draft.descriptor.members ++ ['\x7d']) =
      .ok (draft.descriptor, []) := by
    rw [readObject_compactMembers (members_ne_nil _),
      readMembers_compactMembers (members_ne_nil _) fun _ => readsBack_of_mem_members, hfold]
    rfl
  have hread : readDescriptor (compactText draft.descriptor.toJson) = .ok (draft.descriptor, []) :=
    hobject
  rw [parse, serialize, compact, String.toList_ofList, hread]
  rfl

end CloudAccessors.Descriptor
