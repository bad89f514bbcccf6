import CloudAccessors.Descriptor.Json
import CloudAccessors.Json.Skip

/-!
# Reading a descriptor from JSON text

The text is read from left to right, and the first thing that is wrong is reported: a fault of the
text, or a value that does not fit its field. Values of unknown keys are passed over.
-/

namespace CloudAccessors.Descriptor

open Json

/-- Why a text is no descriptor. -/
inductive ReadError where
  | fault (fault : Fault)
  | mismatch (mismatch : Mismatch)
deriving DecidableEq, Repr

def liftFault {α : Type} : Except Fault α → Except ReadError α
  | .ok a => .ok a
  | .error fault => .error (.fault fault)

def liftMismatch {α : Type} : Except Mismatch α → Except ReadError α
  | .ok a => .ok a
  | .error mismatch => .error (.mismatch mismatch)

/-- Reads the value of a member: a known field takes it, that of an unknown key is passed over. -/
def readMember (draft : Draft) (field? : Option Field) (cs : List Char) :
    Except ReadError (Draft × List Char) :=
  match field? with
  | none => liftFault ((skipValue cs).map fun rest => (draft, rest))
  | some f =>
    match readHead (skipSpace cs) with
    | .error fault => .error (.fault fault)
    | .ok (value, rest) => liftMismatch ((draft.take f value).map fun draft => (draft, rest))

/-- Reads a key, its colon and its value. -/
def readKeyed (draft : Draft) (cs : List Char) : Except ReadError (Draft × List Char) :=
  match cs with
  | [] => .error (.fault .truncated)
  | '"' :: cs =>
    match readChars cs with
    | .error fault => .error (.fault fault)
    | .ok (key, rest) =>
      match draft.fieldOf (String.ofList key) with
      | .error mismatch => .error (.mismatch mismatch)
      | .ok field? =>
        match skipColon rest with
        | .error fault => .error (.fault fault)
        | .ok rest => readMember draft field? rest
  | _ => .error (.fault .malformed)

theorem readMember_length {draft draft' : Draft} {field? : Option Field} {cs rest : List Char}
    (h : readMember draft field? cs = .ok (draft', rest)) : rest.length ≤ cs.length := by
  unfold readMember at h
  split at h
  · cases hs : skipValue cs with
    | error e => simp [hs, liftFault, Except.map] at h
    | ok r =>
      simp only [hs, liftFault, Except.map, Except.ok.injEq, Prod.mk.injEq] at h
      exact h.2 ▸ skipValue_length hs
  · rename_i f
    split at h
    · simp at h
    · rename_i value rest' hr
      have h1 := readHead_length hr
      have h2 := length_skipSpace_le cs
      cases ht : draft.take f value with
      | error e => simp [ht, liftMismatch, Except.map] at h
      | ok d =>
        simp only [ht, liftMismatch, Except.map, Except.ok.injEq, Prod.mk.injEq] at h
        obtain ⟨-, rfl⟩ := h
        omega

theorem readKeyed_length {draft draft' : Draft} {cs rest : List Char}
    (h : readKeyed draft cs = .ok (draft', rest)) : rest.length < cs.length := by
  unfold readKeyed at h
  split at h
  · simp at h
  · split at h
    · simp at h
    · rename_i hc
      have h1 := readChars_length hc
      split at h
      · simp at h
      · split at h
        · simp at h
        · rename_i hk
          have h2 := skipColon_length hk
          have h3 := readMember_length h
          simp only [List.length_cons]; omega
  · simp at h

/-- Reads the members of an object, at a key, up to the end of the object. -/
def readMembers (draft : Draft) (cs : List Char) : Except ReadError (Descriptor × List Char) :=
  match h : readKeyed draft cs with
  | .error e => .error e
  | .ok (draft', rest) =>
    match hs : skipSpace rest with
    | [] => .error (.fault .truncated)
    | '\x7d' :: rest => .ok (draft'.descriptor, rest)
    | ',' :: more =>
      have := readKeyed_length h
      have := length_lt_of_skipSpace hs
      have := length_skipSpace_le more
      readMembers draft' (skipSpace more)
    | _ => .error (.fault .malformed)
termination_by cs.length
decreasing_by omega

/-- Reads an object after its opening brace. -/
def readObject (cs : List Char) : Except ReadError (Descriptor × List Char) :=
  match skipSpace cs with
  | '\x7d' :: rest => .ok ({}, rest)
  | cs => readMembers {} cs

/-- Reads one item of an array into a field. -/
def readItem (f : Field) (d : Descriptor) (cs : List Char) :
    Except ReadError (Descriptor × List Char) :=
  match readHead cs with
  | .error fault => .error (.fault fault)
  | .ok (value, rest) => liftMismatch ((f.kind.accept value).map fun v => (d.set f v, rest))

/-- Reads the items of an array after the first one, up to the end of the array. -/
def readItems : List Field → Descriptor → List Char → Except ReadError (Descriptor × List Char)
  | [], d, cs =>
    match skipSpace cs with
    | [] => .error (.fault .truncated)
    | ']' :: rest => .ok (d, rest)
    | _ => .error (.fault .malformed)
  | f :: fields, d, cs =>
    match skipSpace cs with
    | [] => .error (.fault .truncated)
    | ']' :: rest => .ok (d, rest)
    | ',' :: more =>
      match readItem f d (skipSpace more) with
      | .error e => .error e
      | .ok (d, rest) => readItems fields d rest
    | _ => .error (.fault .malformed)

/-- Reads an array after its opening bracket. -/
def readArray (cs : List Char) : Except ReadError (Descriptor × List Char) :=
  match skipSpace cs with
  | ']' :: rest => .ok ({}, rest)
  | cs =>
    match readItem .entity {} cs with
    | .error e => .error e
    | .ok (d, rest) => readItems (Field.all.drop 1) d rest

/-- Reads a descriptor at the front of a text. -/
def readDescriptor (cs : List Char) : Except ReadError (Descriptor × List Char) :=
  match skipSpace cs with
  | '\x7b' :: rest => readObject rest
  | '[' :: rest => readArray rest
  | cs =>
    match readHead cs with
    | .error fault => .error (.fault fault)
    | .ok (found, _) => .error (.mismatch (.invalidType found "struct Descriptor"))

/-- Reads a text that holds a descriptor and nothing else. -/
def parse (s : String) : Except ReadError Descriptor :=
  match readDescriptor s.toList with
  | .error e => .error e
  | .ok (d, rest) => if (skipSpace rest).isEmpty then .ok d else .error (.fault .malformed)

end CloudAccessors.Descriptor
