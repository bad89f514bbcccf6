import CloudAccessors.Proofs.PassedOver

/-!
# Spelled objects

Words and strings are what fields are read from: a text denotes one of them in any spelling
(`Denotes`), and is then read as that value, whatever follows (`readHead_of_denotes`). An object
is given with its spelling: each member has a key in some spelling, a text of the grammar as its
value, and white space around both (`MemberText`, `ObjectText`). What is written on one line is such
an object, without white space (`MemberText.joined_pmap_compact`).
-/

namespace CloudAccessors.Json

variable {c : Char} {s t v rest : List Char} {j : Json}

/-! ### Words and strings -/

/-- The text of a word, or that of a string in any spelling. -/
inductive Denotes : List Char → Json → Prop
  | null : Denotes "null".toList .null
  | true : Denotes "true".toList (.bool true)
  | false : Denotes "false".toList (.bool false)
  | string {t : List Char} {s : String} (h : Spells t s.toList) :
      Denotes ('"' :: (t ++ ['"'])) (.string s)

theorem Spells.isStringText (h : Spells t s) : IsStringText t := by
  induction h with
  | nil => exact .nil
  | plain hc _ ih => exact .plain hc ih
  | letter ha _ ih => exact .letter ha ih
  | unit hu _ _ ih => exact .unit hu ih
  | pair hu hv _ _ _ ih => exact .unit hu (.unit hv ih)

theorem Denotes.isText (h : Denotes v j) : IsText .value v := by
  cases h with
  | null => exact .null
  | true => exact .true
  | false => exact .false
  | string h => exact .string h.isStringText

theorem readHead_quote (cs : List Char) :
    readHead ('"' :: cs) = (readChars cs).map fun p => (.string (String.ofList p.1), p.2) := rfl

theorem readHead_of_denotes (h : Denotes v j) (rest : List Char) :
    readHead (v ++ rest) = .ok (j.head, rest) := by
  cases h with
  | null | true | false => rfl
  | @string t s h =>
    rw [List.cons_append, List.append_assoc, List.singleton_append, readHead_quote,
      readChars_of_spells h, Except.map, String.ofList_toList]
    rfl

theorem isHexDigit_hexDigit : ∀ n < 16, IsHexDigit (hexDigit n) n := by
  have hdigit : ∀ n < 16, "0123456789abcdef".toList[n]? = some (hexDigit n) := by decide
  exact fun n hn => .inl (hdigit n hn)

/-- A character is spelled by its escape. -/
theorem Spells.escape_append (c : Char) (h : Spells t s) : Spells (escape c ++ t) (c :: s) := by
  have hletter (a : Char) (ha : (a, c) ∈ letterEscapes) : Spells ('\\' :: a :: t) (c :: s) :=
    .letter ha h
  unfold escape
  split
  case isTrue hc => exact hletter '"' (by subst hc; decide)
  split
  case isTrue hc => exact hletter '\\' (by subst hc; decide)
  split
  case isTrue hc => exact hletter 'b' (by subst hc; decide)
  split
  case isTrue hc => exact hletter 'f' (by subst hc; decide)
  split
  case isTrue hc => exact hletter 'n' (by subst hc; decide)
  split
  case isTrue hc => exact hletter 'r' (by subst hc; decide)
  split
  case isTrue hc => exact hletter 't' (by subst hc; decide)
  split
  case isTrue hcontrol =>
    have hunit : IsUnit ['0', '0', hexDigit (c.toNat / 16), hexDigit (c.toNat % 16)] c.toNat := by
      have hvalue : ((0 * 16 + 0) * 16 + c.toNat / 16) * 16 + c.toNat % 16 = c.toNat := by omega
      have hzero : IsHexDigit '0' 0 := .inl rfl
      have hunit := IsUnit.mk hzero hzero (isHexDigit_hexDigit (c.toNat / 16) (by omega))
        (isHexDigit_hexDigit (c.toNat % 16) (by omega))
      rwa [hvalue] at hunit
    have hspells := Spells.unit hunit (.inl (by omega)) h
    rwa [Char.ofNat_toNat] at hspells
  case isFalse hquote hslash _ _ _ _ _ hcontrol =>
    exact .plain ⟨hquote, hslash, Nat.le_of_not_lt hcontrol⟩ h

theorem spells_flatMap_escape (s : List Char) : Spells (s.flatMap escape) s := by
  induction s with
  | nil => exact .nil
  | cons c s ih => exact ih.escape_append c

theorem denotes_quote (s : String) : Denotes (quote s) (.string s) :=
  .string (spells_flatMap_escape s.toList)

/-! ### Members and objects -/

/-- White space. -/
def Gap : Type := {cs : List Char // IsGap cs}

instance : EmptyCollection Gap := ⟨⟨[], List.forall_mem_nil _⟩⟩

/-- A member with its spelling: the text of its key, that of its value, and the white space around
them. -/
structure MemberText where
  key : String
  spelling : List Char
  value : List Char
  spells : Spells spelling key.toList
  isText : IsText .value value
  before : Gap := ∅
  behindKey : Gap := ∅
  beforeValue : Gap := ∅
  behind : Gap := ∅

namespace MemberText

def text (m : MemberText) : List Char :=
  m.before.1 ++ '"' :: (m.spelling ++ '"' :: (m.behindKey.1 ++ ':' ::
    (m.beforeValue.1 ++ (m.value ++ m.behind.1))))

def joined : List MemberText → List Char
  | [] => []
  | [m] => m.text
  | m :: next :: more => m.text ++ ',' :: joined (next :: more)

end MemberText

/-- A member without white space. -/
def MemberText.compact (member : String × Json) (h : Denotes (compactText member.2) member.2) :
    MemberText where
  key := member.1
  spelling := member.1.toList.flatMap escape
  value := compactText member.2
  spells := spells_flatMap_escape _
  isText := h.isText

theorem MemberText.text_compact {member : String × Json}
    (h : Denotes (compactText member.2) member.2) :
    (MemberText.compact member h).text = quote member.1 ++ ':' :: compactText member.2 := by
  rw [quote_append]
  show '"' :: (_ ++ '"' :: ':' :: (compactText member.2 ++ [])) = _
  rw [List.append_nil]
  rfl

theorem MemberText.joined_pmap_compact {members : List (String × Json)}
    (h : ∀ member ∈ members, Denotes (compactText member.2) member.2) :
    MemberText.joined (members.pmap MemberText.compact h) = compactMembers members := by
  induction members with
  | nil => rfl
  | cons member more ih =>
    have hmore := ih fun next hnext => h next (List.mem_cons_of_mem _ hnext)
    cases more with
    | nil => exact text_compact (h member List.mem_cons_self)
    | cons next more =>
      rw [compactMembers, ← hmore, ← text_compact (h member List.mem_cons_self)]
      rfl

/-- An object with its spelling. -/
structure ObjectText where
  members : List MemberText
  before : Gap := ∅
  inside : Gap := ∅
  behind : Gap := ∅

namespace ObjectText

def keys (o : ObjectText) : List String := o.members.map (·.key)

def text (o : ObjectText) : List Char :=
  o.before.1 ++ '\x7b' :: (o.inside.1 ++ (MemberText.joined o.members ++ '\x7d' :: o.behind.1))

end ObjectText

end CloudAccessors.Json
