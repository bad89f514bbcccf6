import CloudAccessors.Proofs.ObjectTexts
import CloudAccessors.Proofs.RoundTrip

/-!
# Members in any order

An object is read as a descriptor member after member. Whatever a member holds, reading it leaves
what stands behind it, and a key that is met for the second time is an error (`readKeyed_eq_ok`); so
no field occurs twice in an object that is read (`count_keys_of_readRest`). A member that a
descriptor admits sets its field to the value it has in the descriptor, or is passed over
(`readKeyed_of_admits`); so neither the order of such members nor those that are passed over make a
difference (`readRest_of_admits`, `parse_objectText`).
-/

namespace CloudAccessors.Descriptor

open Json

variable {d : Descriptor} {draft draft' : Draft} {m : MemberText} {ms : List MemberText} {f : Field}
  {k : Kind} {y : k.Value} {x : Head} {c : Char} {v r rest tail : List Char}

/-- A member that says of a descriptor what is so, or nothing: one that could have been written for
it, null for a field that is not written, or a member with an unknown key. -/
inductive Admits (d : Descriptor) (m : MemberText) : Prop
  | written {j : Json} (h : (m.key, j) ∈ d.members) (hvalue : Denotes m.value j)
  | null {f : Field} (h : d.member? f = none) (hkey : m.key = f.key)
      (hvalue : m.value = "null".toList)
  | unknown (h : ∀ f : Field, m.key ≠ f.key)

/-! ### Values of fields -/

/-- A field takes no number and no container, and any other value as a whole. -/
theorem eq_of_accept (h : IsText .value v) (hread : readHead (v ++ rest) = .ok (x, r))
    (haccept : k.accept x = .ok y) : r = rest := by
  cases h with
  | null | true | false => cases hread; rfl
  | number h =>
    obtain ⟨c, cs, rfl, hc⟩ := h.exists_eq_cons
    rw [List.cons_append, readHead, if_pos (by simpa using hc)] at hread
    · cases hn : readNumber (c :: (cs ++ rest)) with
      | error fault => rw [hn] at hread; cases hread
      | ok p =>
        rw [hn] at hread
        cases hread
        cases k <;> cases haccept
    all_goals rintro rfl; revert hc; decide
  | @string t h =>
    rw [List.cons_append, List.append_assoc, List.singleton_append, readHead_quote] at hread
    cases hs : readChars (t ++ '"' :: rest) with
    | error fault => rw [hs] at hread; cases hread
    | ok p =>
      rw [hs] at hread
      cases hread
      have hskip := skipChars_of_readChars hs
      rw [skipChars_of_isStringText h] at hskip
      exact (Except.ok.inj hskip).symm
  | emptyArray | array | emptyObject | object =>
    cases hread
    cases k <;> cases haccept

/-- What is written for a field is a word or a string. -/
theorem Kind.denotes_of_toJson? {j : Json} (h : k.toJson? y = some j) :
    Denotes (compactText j) j := by
  cases k with
  | text => cases h; exact denotes_quote y
  | flag => cases h; cases y <;> constructor
  | optionalText =>
    cases y with
    | none => cases h
    | some s => cases h; exact denotes_quote s

theorem Kind.accept_null (h : k.toJson? y = none) : k.accept .null = .ok y := by
  cases k with
  | text | flag => cases h
  | optionalText =>
    cases y with
    | none => rfl
    | some s => cases h

theorem eq_key_of_ofKey? {s : String} (h : Field.ofKey? s = some f) : s = f.key := by
  have hkey := List.find?_some h
  exact (of_decide_eq_true hkey).symm

theorem key_inj {f g : Field} (h : f.key = g.key) : f = g := by
  have hof := Field.ofKey?_key f
  rw [h, Field.ofKey?_key] at hof
  exact (Option.some.inj hof).symm

theorem ofKey?_eq_none_iff {s : String} : Field.ofKey? s = none ↔ ∀ f : Field, s ≠ f.key := by
  rw [Field.ofKey?, List.find?_eq_none]
  exact ⟨fun h f hs => h f f.mem_all (decide_eq_true hs.symm),
    fun h f _ hs => h f (of_decide_eq_true hs).symm⟩

theorem fieldOf_of_none {s : String} (h : Field.ofKey? s = none) : draft.fieldOf s = .ok none := by
  rw [Draft.fieldOf, h]

theorem fieldOf_of_unseen {s : String} (h : s = f.key) (hseen : f ∉ draft.seen) :
    draft.fieldOf s = .ok (some f) := by
  rw [h, fieldOf_key, if_neg hseen]

theorem fieldOf_of_seen {s : String} (h : s = f.key) (hseen : f ∈ draft.seen) :
    draft.fieldOf s = .error (.duplicateField f.key) := by
  rw [h, fieldOf_key, if_pos hseen]

/-- A field that is admitted takes its value from the text. -/
theorem Admits.exists_readHead (h : d.Admits m) (hkey : m.key = f.key) (rest : List Char) :
    ∃ x, readHead (m.value ++ rest) = .ok (x, rest) ∧ f.kind.accept x = .ok (d.get f) := by
  cases h with
  | @written j h hvalue =>
    obtain ⟨g, -, hmember⟩ := List.mem_filterMap.1 h
    obtain ⟨j', hj, heq⟩ := Option.map_eq_some_iff.1 hmember
    obtain ⟨hg, rfl⟩ := Prod.mk.inj heq
    obtain rfl := key_inj (hg.trans hkey)
    exact ⟨j'.head, readHead_of_denotes hvalue rest, Kind.accept_of_toJson? hj⟩
  | @null g h hg hvalue =>
    obtain rfl := key_inj (hg.symm.trans hkey)
    rw [hvalue]
    exact ⟨.null, readHead_of_denotes .null rest, Kind.accept_null (Option.map_eq_none_iff.1 h)⟩
  | unknown h => exact absurd hkey (h f)

/-! ### One member -/

/-- A text that stands behind a member: a comma and more, or the end of the object. -/
def Follows (rest : List Char) : Prop := ∃ c tail, rest = c :: tail ∧ (c = ',' ∨ c = '\x7d')

theorem Follows.ends (h : Follows rest) : Ends rest := by
  obtain ⟨c, tail, rfl, hc⟩ := h
  exact ⟨c, tail, rfl, .inr (hc.imp id .inr)⟩

theorem Follows.skipSpace_append (h : Follows rest) (g : Gap) : skipSpace (g.1 ++ rest) = rest := by
  obtain ⟨c, tail, rfl, rfl | rfl⟩ := h <;> exact skipSpace_gap_cons g.2 rfl tail

theorem skipSpace_text_append (m : MemberText) (rest : List Char) :
    skipSpace (m.text ++ rest) = '"' :: (m.spelling ++ '"' :: (m.behindKey.1 ++ ':' ::
      (m.beforeValue.1 ++ (m.value ++ (m.behind.1 ++ rest))))) := by
  simp only [MemberText.text, List.append_assoc, List.cons_append]
  exact skipSpace_gap_cons m.before.2 rfl _

/-- The key is looked up before the colon is passed over and the value is read. -/
theorem readKeyed_of_fieldOf {field? : Option Field} (h : draft.fieldOf m.key = .ok field?)
    (rest : List Char) :
    readKeyed draft (skipSpace (m.text ++ rest)) =
      readMember draft field? (m.beforeValue.1 ++ (m.value ++ (m.behind.1 ++ rest))) := by
  rw [skipSpace_text_append, readKeyed]
  simp only [readChars_of_spells m.spells, String.ofList_toList, h, skipColon_gap m.behindKey.2]

theorem readKeyed_of_fieldOf_error {e : Mismatch} (h : draft.fieldOf m.key = .error e)
    (rest : List Char) :
    readKeyed draft (skipSpace (m.text ++ rest)) = .error (.mismatch e) := by
  rw [skipSpace_text_append, readKeyed]
  simp only [readChars_of_spells m.spells, String.ofList_toList, h]

theorem skipSpace_value (m : MemberText) (rest : List Char) :
    skipSpace (m.beforeValue.1 ++ (m.value ++ rest)) = m.value ++ rest := by
  obtain ⟨c, cs, hcs, hspace, -⟩ := exists_eq_cons_of_isText m.isText
  rw [hcs]
  exact skipSpace_gap_cons m.beforeValue.2 hspace _

theorem readMember_some (draft : Draft) {f : Field}
    (hread : readHead (m.value ++ rest) = .ok (x, r)) :
    readMember draft (some f) (m.beforeValue.1 ++ (m.value ++ rest)) =
      liftMismatch ((draft.take f x).map fun draft => (draft, r)) := by
  simp only [readMember, skipSpace_value, hread]

theorem readMember_some_error (draft : Draft) {f : Field} {fault : Fault}
    (hread : readHead (m.value ++ rest) = .error fault) :
    readMember draft (some f) (m.beforeValue.1 ++ (m.value ++ rest)) = .error (.fault fault) := by
  simp only [readMember, skipSpace_value, hread]

theorem readMember_none (draft : Draft) (m : MemberText) (hrest : Ends rest) :
    readMember draft none (m.beforeValue.1 ++ (m.value ++ rest)) = .ok (draft, rest) := by
  have hskip : skipValue (m.beforeValue.1 ++ (m.value ++ rest)) = .ok rest := by
    rw [skipValue, skipIn_congr (skipSpace_append m.beforeValue.2 _),
      m.isText.passedOver [] rest hrest, skipOut]
  rw [readMember, hskip]
  rfl

/-- What has been read when a member has been read: the member, whose field had not been met. -/
theorem readKeyed_eq_ok (hrest : Follows rest)
    (h : readKeyed draft (skipSpace (m.text ++ rest)) = .ok (draft', r)) :
    skipSpace r = rest ∧ (∀ f ∈ draft.seen, m.key ≠ f.key) ∧
      ∀ f, f ∈ draft'.seen ↔ f ∈ draft.seen ∨ m.key = f.key := by
  have hspace := hrest.skipSpace_append m.behind
  cases hof : Field.ofKey? m.key with
  | none =>
    have hne := ofKey?_eq_none_iff.1 hof
    rw [readKeyed_of_fieldOf (fieldOf_of_none hof),
      readMember_none draft m (hrest.ends.gap_append m.behind.2)] at h
    cases h
    exact ⟨hspace, fun f _ => hne f, fun f => (or_iff_left (hne f)).symm⟩
  | some f =>
    have hkey := eq_key_of_ofKey? hof
    by_cases hseen : f ∈ draft.seen
    · rw [readKeyed_of_fieldOf_error (fieldOf_of_seen hkey hseen)] at h
      cases h
    rw [readKeyed_of_fieldOf (fieldOf_of_unseen hkey hseen)] at h
    cases hread : readHead (m.value ++ (m.behind.1 ++ rest)) with
    | error fault => rw [readMember_some_error draft hread] at h; cases h
    | ok p =>
      rw [readMember_some draft hread] at h
      cases haccept : f.kind.accept p.1 with
      | error mismatch => simp only [Draft.take, haccept] at h; cases h
      | ok y =>
        -- the field has taken the value, which is therefore no container that is still to be read
        simp only [Draft.take, haccept] at h
        cases h
        refine ⟨eq_of_accept m.isText hread haccept ▸ hspace, fun g hg hkey' => ?_, fun g => ?_⟩
        · exact hseen (key_inj (hkey.symm.trans hkey') ▸ hg)
        · rw [hkey, List.mem_cons, or_comm]
          exact or_congr_right ⟨fun hg => hg ▸ rfl, fun hg => (key_inj hg).symm⟩

/-- The fields that have been met are those of `d`, the others have their default. -/
def Keeps (d : Descriptor) (draft : Draft) : Prop :=
  ∀ f, draft.descriptor.get f = if f ∈ draft.seen then d.get f else f.kind.default

/-- A member that is admitted is read if its key has not been met. -/
theorem readKeyed_of_admits (h : d.Admits m) (hkeeps : Keeps d draft)
    (hunseen : ∀ f ∈ draft.seen, m.key ≠ f.key) (hrest : Follows rest) :
    ∃ draft' r, readKeyed draft (skipSpace (m.text ++ rest)) = .ok (draft', r) ∧
      Keeps d draft' := by
  cases hof : Field.ofKey? m.key with
  | none =>
    rw [readKeyed_of_fieldOf (fieldOf_of_none hof),
      readMember_none draft m (hrest.ends.gap_append m.behind.2)]
    exact ⟨draft, _, rfl, hkeeps⟩
  | some f =>
    have hkey := eq_key_of_ofKey? hof
    obtain ⟨x, hread, haccept⟩ := h.exists_readHead hkey (m.behind.1 ++ rest)
    have hseen : f ∉ draft.seen := fun hf => hunseen f hf hkey
    rw [readKeyed_of_fieldOf (fieldOf_of_unseen hkey hseen), readMember_some draft hread,
      Draft.take, haccept]
    refine ⟨_, _, rfl, fun g => ?_⟩
    by_cases hg : g = f
    · subst hg
      rw [get_set, if_pos List.mem_cons_self]
    · simp only [get_set_of_ne hg, List.mem_cons, hg, false_or, hkeeps g]

/-! ### All members -/

/-- The text behind a member: more members, or the end of the object. -/
def textBehind (rest : List Char) : List MemberText → List Char
  | [] => '\x7d' :: rest
  | m :: more => ',' :: (MemberText.joined (m :: more) ++ '\x7d' :: rest)

/-- Reads the members that are left, if there are any, up to the end of the object. -/
def readRest (rest : List Char) (draft : Draft) :
    List MemberText → Except ReadError (Descriptor × List Char)
  | [] => .ok (draft.descriptor, rest)
  | m :: more => readMembers draft (skipSpace (MemberText.joined (m :: more) ++ '\x7d' :: rest))

theorem follows_textBehind (rest : List Char) (ms : List MemberText) :
    Follows (textBehind rest ms) := by
  cases ms with
  | nil => exact ⟨_, _, rfl, .inr rfl⟩
  | cons m more => exact ⟨_, _, rfl, .inl rfl⟩

theorem joined_append (rest : List Char) (m : MemberText) (ms : List MemberText) :
    MemberText.joined (m :: ms) ++ '\x7d' :: rest = m.text ++ textBehind rest ms := by
  cases ms with
  | nil => rfl
  | cons next more =>
    rw [MemberText.joined, List.append_assoc]
    rfl

theorem readRest_of_error {e : ReadError}
    (h : readKeyed draft (skipSpace (m.text ++ textBehind rest ms)) = .error e) :
    readRest rest draft (m :: ms) = .error e := by
  rw [readRest, joined_append]
  exact readMembers_of_error h

theorem readRest_of_ok
    (h : readKeyed draft (skipSpace (m.text ++ textBehind rest ms)) = .ok (draft', r)) :
    readRest rest draft (m :: ms) = readRest rest draft' ms := by
  obtain ⟨hspace, -, -⟩ := readKeyed_eq_ok (follows_textBehind rest ms) h
  rw [readRest, joined_append]
  cases ms with
  | nil => exact readMembers_last h hspace
  | cons next more => exact readMembers_next h hspace

/-- How often the key of a field may still occur. -/
def room (draft : Draft) (f : Field) : Nat := if f ∈ draft.seen then 0 else 1

/-- A member uses up the room of its field. -/
theorem count_cons_le_room_iff {key : String} {keys : List String}
    (hunseen : ∀ f ∈ draft.seen, key ≠ f.key)
    (hseen : ∀ f, f ∈ draft'.seen ↔ f ∈ draft.seen ∨ key = f.key) (f : Field) :
    (key :: keys).count f.key ≤ room draft f ↔ keys.count f.key ≤ room draft' f := by
  by_cases hkey : key = f.key
  · have hnew : f ∉ draft.seen := fun hf => hunseen f hf hkey
    have hmet : f ∈ draft'.seen := (hseen f).2 (.inr hkey)
    rw [hkey, List.count_cons_self, room, room, if_neg hnew, if_pos hmet]
    omega
  · have hsame : f ∈ draft'.seen ↔ f ∈ draft.seen := (hseen f).trans (or_iff_left hkey)
    simp only [List.count_cons_of_ne hkey, room, hsame]

/-- No field occurs twice in an object that is read, whatever its members hold. -/
theorem count_keys_of_readRest {p : Descriptor × List Char} (h : readRest rest draft ms = .ok p)
    (f : Field) : (ms.map (·.key)).count f.key ≤ room draft f := by
  induction ms generalizing draft with
  | nil => exact Nat.zero_le _
  | cons m ms ih =>
    cases hread : readKeyed draft (skipSpace (m.text ++ textBehind rest ms)) with
    | error e => rw [readRest_of_error hread] at h; cases h
    | ok q =>
      -- the other members are read with a draft that has met the field of the first one
      obtain ⟨-, hunseen, hseen⟩ := readKeyed_eq_ok (follows_textBehind rest ms) hread
      rw [readRest_of_ok hread] at h
      exact (count_cons_le_room_iff hunseen hseen f).2 (ih h)

/-- Members that are admitted and do not repeat a field are read, in whatever order. -/
theorem readRest_of_admits (h : ∀ m ∈ ms, d.Admits m) (hkeeps : Keeps d draft)
    (hcount : ∀ f : Field, (ms.map (·.key)).count f.key ≤ room draft f) (rest : List Char) :
    ∃ e, readRest rest draft ms = .ok (e, rest) ∧ ∀ f, e.get f =
      if f ∈ draft.seen ∨ f.key ∈ ms.map (·.key) then d.get f else f.kind.default := by
  induction ms generalizing draft with
  | nil => exact ⟨draft.descriptor, rfl, fun f => by simpa using hkeeps f⟩
  | cons m ms ih =>
    have hunseen : ∀ f ∈ draft.seen, m.key ≠ f.key := fun f hf hkey => by
      have hroom := hcount f
      rw [room, if_pos hf, List.map_cons, hkey, List.count_cons_self] at hroom
      omega
    obtain ⟨draft', r, hread, hkeeps'⟩ :=
      readKeyed_of_admits (h m List.mem_cons_self) hkeeps hunseen (follows_textBehind rest ms)
    -- what the first member leaves of the room is what the others need
    obtain ⟨-, -, hseen⟩ := readKeyed_eq_ok (follows_textBehind rest ms) hread
    obtain ⟨e, he, hget⟩ := ih (fun m hm => h m (List.mem_cons_of_mem _ hm)) hkeeps'
      fun f => (count_cons_le_room_iff hunseen hseen f).1 (hcount f)
    refine ⟨e, (readRest_of_ok hread).trans he, fun f => ?_⟩
    have hmem : (f ∈ draft'.seen ∨ f.key ∈ ms.map (·.key)) ↔
        f ∈ draft.seen ∨ f.key ∈ (m :: ms).map (·.key) := by
      rw [hseen, List.map_cons, List.mem_cons, or_assoc, eq_comm (a := f.key)]
    simp only [hget, hmem]

/-! ### Whole objects -/

theorem readDescriptor_text (o : ObjectText) :
    readDescriptor o.text = readRest o.behind.1 {} o.members := by
  obtain ⟨members, before, inside, behind⟩ := o
  have hbrace (cs : List Char) : skipSpace (before.1 ++ '\x7b' :: cs) = '\x7b' :: cs :=
    skipSpace_gap_cons before.2 rfl cs
  simp only [ObjectText.text, readDescriptor, hbrace, readObject, skipSpace_append inside.2]
  cases members with
  | nil => rfl
  | cons m ms =>
    rw [joined_append, skipSpace_text_append, readRest, joined_append, skipSpace_text_append]
    rfl

theorem skipSpace_gap (g : Gap) : skipSpace g.1 = [] := by
  rw [← List.append_nil g.1, skipSpace_append g.2]
  rfl

theorem parse_text_of_ok {o : ObjectText} {e : Descriptor}
    (h : readRest o.behind.1 {} o.members = .ok (e, o.behind.1)) :
    parse (String.ofList o.text) = .ok e := by
  rw [parse, String.toList_ofList, readDescriptor_text, h]
  simp only [skipSpace_gap, List.isEmpty_nil, if_true]

theorem parse_text_of_error {o : ObjectText} {error : ReadError}
    (h : readRest o.behind.1 {} o.members = .error error) :
    parse (String.ofList o.text) = .error error := by
  rw [parse, String.toList_ofList, readDescriptor_text, h]

theorem keeps_default (d : Descriptor) : Keeps d {} := fun f => get_default f

theorem denotes_of_mem_members {member : String × Json} (h : member ∈ d.members) :
    Denotes (compactText member.2) member.2 := by
  obtain ⟨f, -, hmember⟩ := List.mem_filterMap.1 h
  obtain ⟨j, hj, rfl⟩ := Option.map_eq_some_iff.1 hmember
  exact Kind.denotes_of_toJson? hj

/-- The text of a descriptor. -/
def objectText (d : Descriptor) : ObjectText where
  members := d.members.pmap MemberText.compact fun _ => denotes_of_mem_members

theorem text_objectText (d : Descriptor) : String.ofList d.objectText.text = d.serialize := by
  have htext : d.objectText.text = compactText d.toJson := by
    rw [toJson, compactText, ← MemberText.joined_pmap_compact fun _ => denotes_of_mem_members]
    rfl
  rw [htext]
  rfl

theorem keys_objectText (d : Descriptor) : d.objectText.keys = d.members.map Prod.fst := by
  rw [ObjectText.keys, objectText, List.map_pmap]
  exact List.pmap_eq_map _

theorem admits_of_mem_objectText (h : m ∈ d.objectText.members) : d.Admits m := by
  obtain ⟨member, hmember, rfl⟩ := List.mem_pmap.1 h
  exact .written hmember (denotes_of_mem_members hmember)

/-- A descriptor is read from any object that holds some of its members, null for fields that are
not written, and members with unknown keys, in any order: the fields that occur are read back, the
others have their default. An object in which a field occurs twice is not read. The descriptor's own
text is such an object, with all of its members. -/
theorem parse_objectText (d : Descriptor) :
    (∃ o : ObjectText, String.ofList o.text = d.serialize ∧ o.keys = d.members.map Prod.fst ∧
      ∀ m ∈ o.members, d.Admits m) ∧
    (∀ o : ObjectText, (∀ m ∈ o.members, d.Admits m) → (∀ f : Field, o.keys.count f.key ≤ 1) →
      ∃ e, parse (String.ofList o.text) = .ok e ∧
        ∀ f, e.get f = if f.key ∈ o.keys then d.get f else f.kind.default) ∧
    ∀ (o : ObjectText) (f : Field), 2 ≤ o.keys.count f.key →
      ∃ error, parse (String.ofList o.text) = .error error := by
  refine ⟨⟨d.objectText, d.text_objectText, d.keys_objectText, fun _ => admits_of_mem_objectText⟩,
    fun o hadmits hcount => ?_, fun o f htwice => ?_⟩
  · obtain ⟨e, he, hget⟩ := readRest_of_admits hadmits d.keeps_default hcount o.behind.1
    refine ⟨e, parse_text_of_ok he, fun f => (hget f).trans ?_⟩
    simp only [List.not_mem_nil, false_or]
    rfl
  · cases hread : readRest o.behind.1 {} o.members with
    | error error => exact ⟨error, parse_text_of_error hread⟩
    | ok p =>
      have honce : o.keys.count f.key ≤ 1 := count_keys_of_readRest hread f
      omega

/-- A member with an unknown key, which is spelled with an escape, and a nested value. -/
def unknownMember : MemberText where
  key := "k"
  spelling := ['\\', 'u', '0', '0', '6', 'B']
  value := ['[', '1', 'e', '9', '9', '9', ',', ' ', '\x7b', '\x7d', ']']
  spells := by
    have hunit : IsUnit ['0', '0', '6', 'B'] 0x6b :=
      .mk (i := 0) (j := 0) (k := 6) (l := 11) (.inl rfl) (.inl rfl) (.inl rfl) (.inr rfl)
    exact .unit hunit (.inl (by decide)) .nil
  isText := by
    have hdigits : IsDigits ['9', '9', '9'] := ⟨List.cons_ne_nil _ _, List.all_eq_true.1 rfl⟩
    have hone : IsDigits ['1'] := ⟨List.cons_ne_nil _ _, List.all_eq_true.1 rfl⟩
    have hnumber : IsNumber ['1', 'e', '9', '9', '9'] :=
      .mk (.inl rfl) (.digits hone (by decide)) .absent (.present (.inl rfl) (.inl rfl) hdigits)
    have hnone : IsGap [] := List.forall_mem_nil _
    have hspace : IsGap [' '] := by simp [IsGap]
    exact .array (t := ['1', 'e', '9', '9', '9', ',', ' ', '\x7b', '\x7d'])
      (.moreElements (.element hnone (.number hnumber) hnone)
        (.lastElement (.element hspace (.emptyObject hnone) hnone)))
  before := ⟨[' '], by simp [IsGap]⟩

def describeVpcs : Descriptor :=
  { entity := "Vpcs", service := "ec2", callPrefix := "Describe", unpaginated := true }

/-- Two of the eight members of `describeVpcs` in reverse order, behind an unknown one and around
the null of a field that is not written. -/
def reordered : ObjectText where
  members := [unknownMember, .compact ("service_namespace", .string "ec2") (denotes_quote "ec2"),
    .compact ("singular_override", .null) .null,
    .compact ("entity", .string "Vpcs") (denotes_quote "Vpcs")]

def twice : ObjectText where
  members := [.compact ("entity", .string "Vpcs") (denotes_quote "Vpcs"),
    .compact ("entity", .null) .null]

theorem parse_objectText_reordered :
    (∃ e, parse ("\x7b \"\\u006B\":[1e999, \x7b\x7d],\"service_namespace\":\"ec2\"," ++
        "\"singular_override\":null,\"entity\":\"Vpcs\"\x7d") = .ok e ∧
      e.entity = "Vpcs" ∧ e.service = "ec2" ∧ e.callPrefix = "" ∧ e.unpaginated = false) ∧
    ∃ error, parse "\x7b\"entity\":\"Vpcs\",\"entity\":null\x7d" = .error error := by
  have hentity : ("entity", .string "Vpcs") ∈ describeVpcs.members :=
    List.mem_filterMap.2 ⟨.entity, Field.mem_all _, rfl⟩
  have hservice : ("service_namespace", .string "ec2") ∈ describeVpcs.members :=
    List.mem_filterMap.2 ⟨.service, Field.mem_all _, rfl⟩
  have hadmits : ∀ m ∈ reordered.members, describeVpcs.Admits m := by
    simp only [reordered, List.forall_mem_cons]
    exact ⟨.unknown (ofKey?_eq_none_iff.1 (by decide)), .written hservice (denotes_quote "ec2"),
      .null (f := .singular) rfl rfl rfl, .written hentity (denotes_quote "Vpcs"),
      List.forall_mem_nil _⟩
  have hcount (f : Field) : reordered.keys.count f.key ≤ 1 := by cases f <;> decide
  have htext : String.ofList reordered.text =
      "\x7b \"\\u006B\":[1e999, \x7b\x7d],\"service_namespace\":\"ec2\"," ++
        "\"singular_override\":null,\"entity\":\"Vpcs\"\x7d" := by decide +kernel
  have htwice : String.ofList twice.text = "\x7b\"entity\":\"Vpcs\",\"entity\":null\x7d" := by
    decide +kernel
  obtain ⟨-, hread, hfail⟩ := parse_objectText describeVpcs
  obtain ⟨e, he, hget⟩ := hread reordered hadmits hcount
  rw [htext] at he
  refine ⟨⟨e, he, ?_, ?_, ?_, ?_⟩, ?_⟩
  · exact hget .entity
  · exact hget .service
  · exact hget .callPrefix
  · exact hget .unpaginated
  · rw [← htwice]
    exact hfail twice .entity (by decide)

end CloudAccessors.Descriptor
