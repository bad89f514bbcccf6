import CloudAccessors.Proofs.JsonStrings

/-!
# Printed values are self-delimiting

Among values without numbers, the printed text shows where a value ends: if two of them begin the
same text at the same level, they are equal and what follows them is equal
(`tellsApart_prettyText`). A number has no such end of its own, since more digits may follow it.

The induction is on the value. A scalar is told by its first character and a string by its quotes;
items and members are separated by commas and closed by a line break, so that a list of
self-delimiting texts is self-delimiting as well (`intercalate_append_inj`).
-/

namespace CloudAccessors.Json

variable {α : Type} {c sep : Char} {level : Nat} {r s : List Char}

/-! ### Separated texts -/

/-- Does `f` tell `x` and `y` apart, whatever stands behind their texts? -/
def TellsApart (f : α → List Char) (x y : α) : Prop :=
  ∀ ⦃r s : List Char⦄, f x ++ r = f y ++ s → x = y ∧ r = s

theorem TellsApart.append_left {f : α → List Char} {x y : α} (h : TellsApart f x y)
    (front : List Char) : TellsApart (fun x => front ++ f x) x y := fun r s hrs => by
  rw [List.append_assoc, List.append_assoc] at hrs
  exact h (List.append_cancel_left hrs)

/-- Texts that are self-delimiting one by one are so as a list, if the list is closed by another
character than the one that separates them. -/
theorem intercalate_append_inj {f : α → List Char} {xs ys : List α} (hc : c ≠ sep)
    (hxs : xs ≠ []) (hys : ys ≠ [])
    (hf : ∀ x ∈ xs, ∀ y ∈ ys, TellsApart f x y)
    (h : [sep].intercalate (xs.map f) ++ c :: r = [sep].intercalate (ys.map f) ++ c :: s) :
    xs = ys ∧ r = s := by
  induction xs generalizing ys with
  | nil => exact absurd rfl hxs
  | cons x xs ih =>
    obtain ⟨y, ys, rfl⟩ := List.exists_cons_of_ne_nil hys
    have hhead : TellsApart f x y := hf x (by simp) y (by simp)
    cases xs with
    | nil =>
      cases ys with
      | nil =>
        obtain ⟨rfl, htail⟩ := hhead (by simpa using h)
        exact ⟨rfl, (List.cons.inj htail).2⟩
      | cons y' ys =>
        rw [List.map_cons, List.map_cons, List.map_cons, List.intercalate_cons_cons] at h
        obtain ⟨-, htail⟩ := hhead (by simpa using h)
        exact absurd (List.cons.inj htail).1 hc
    | cons x' xs =>
      cases ys with
      | nil =>
        rw [List.map_cons, List.map_cons, List.map_cons, List.intercalate_cons_cons] at h
        obtain ⟨-, htail⟩ := hhead (by simpa using h)
        exact absurd (List.cons.inj htail).1.symm hc
      | cons y' ys =>
        simp only [List.map_cons, List.intercalate_cons_cons, List.append_assoc] at h ih
        obtain ⟨rfl, htail⟩ := hhead h
        have hrest : x' :: xs = y' :: ys ∧ r = s := ih (by simp) (by simp)
          (fun a ha b hb => hf a (by simp [ha]) b (by simp [hb])) (List.cons.inj htail).2
        exact ⟨by rw [hrest.1], hrest.2⟩

/-- Entries on lines of their own between two brackets. -/
def enclosed (start stop : Char) (level : Nat) : List (List Char) → List Char
  | [] => [start, stop]
  | entries =>
    start :: [','].intercalate (entries.map (newline (level + 1) ++ ·)) ++ newline level ++ [stop]

theorem enclosed_append {start stop : Char} {g : α → List Char} {xs : List α} (hne : xs ≠ []) :
    enclosed start stop level (xs.map g) ++ r =
      start :: ([','].intercalate (xs.map fun x => newline (level + 1) ++ g x) ++
        '\n' :: (List.replicate (2 * level) ' ' ++ stop :: r)) := by
  obtain ⟨x, xs, rfl⟩ := List.exists_cons_of_ne_nil hne
  simp [enclosed, newline, Function.comp_def]

/-- Behind the opening bracket stands the closing one, or the line break of the first entry. -/
theorem enclosed_nil_append_ne {start stop : Char} {g : α → List Char} {xs : List α}
    (hstop : stop ≠ '\n') (hne : xs ≠ []) :
    enclosed start stop level [] ++ r ≠ enclosed start stop level (xs.map g) ++ s := by
  obtain ⟨x, xs, rfl⟩ := List.exists_cons_of_ne_nil hne
  rw [enclosed_append hne]
  intro h
  cases xs <;> exact hstop (List.cons.inj (List.cons.inj h).2).1

theorem enclosed_append_inj {start stop : Char} {g : α → List Char} {xs ys : List α}
    (hstop : stop ≠ '\n') (hg : ∀ x ∈ xs, ∀ y ∈ ys, TellsApart g x y)
    (h : enclosed start stop level (xs.map g) ++ r = enclosed start stop level (ys.map g) ++ s) :
    xs = ys ∧ r = s := by
  by_cases hxs : xs = []
  · subst hxs
    by_cases hys : ys = []
    · subst hys
      exact ⟨rfl, List.append_cancel_left h⟩
    · exact absurd h (enclosed_nil_append_ne hstop hys)
  · by_cases hys : ys = []
    · subst hys
      exact absurd h.symm (enclosed_nil_append_ne hstop hxs)
    · rw [enclosed_append hxs, enclosed_append hys] at h
      obtain ⟨rfl, htail⟩ := intercalate_append_inj (by decide) hxs hys
        (fun x hx y hy => (hg x hx y hy).append_left _) (List.cons.inj h).2
      exact ⟨rfl, (List.cons.inj (List.append_cancel_left htail)).2⟩

theorem prettyItems_eq_intercalate (level : Nat) (items : List Json) :
    prettyItems level items =
      [','].intercalate ((items.map (prettyText level)).map (newline level ++ ·)) := by
  induction items with
  | nil => rfl
  | cons item more ih =>
    cases more with
    | nil => simp [prettyItems]
    | cons next more =>
      rw [prettyItems, ih]
      simp [List.intercalate_cons_cons]

def prettyMember (level : Nat) (member : String × Json) : List Char :=
  quote member.1 ++ ':' :: ' ' :: prettyText level member.2

theorem tellsApart_prettyMember {x y : String × Json}
    (hvalue : TellsApart (prettyText level) x.2 y.2) : TellsApart (prettyMember level) x y := by
  intro r s h
  simp only [prettyMember, List.append_assoc, List.cons_append] at h
  obtain ⟨hkey, h⟩ := quote_append_inj h
  obtain ⟨hvalue, hrs⟩ := hvalue (List.cons.inj (List.cons.inj h).2).2
  exact ⟨Prod.ext hkey hvalue, hrs⟩

theorem prettyMembers_eq_intercalate (level : Nat) (members : List (String × Json)) :
    prettyMembers level members =
      [','].intercalate ((members.map (prettyMember level)).map (newline level ++ ·)) := by
  induction members with
  | nil => rfl
  | cons member more ih =>
    cases more with
    | nil => simp [prettyMembers, prettyMember]
    | cons next more =>
      rw [prettyMembers, ih]
      simp [List.intercalate_cons_cons, prettyMember]

theorem prettyText_array (level : Nat) (items : List Json) :
    prettyText level (.array items) =
      enclosed '[' ']' level (items.map (prettyText (level + 1))) := by
  cases items with
  | nil => rfl
  | cons item more => rw [prettyText, prettyItems_eq_intercalate, List.map_cons, enclosed]; simp

theorem prettyText_object (level : Nat) (members : List (String × Json)) :
    prettyText level (.object members) =
      enclosed '\x7b' '\x7d' level (members.map (prettyMember (level + 1))) := by
  cases members with
  | nil => rfl
  | cons member more => rw [prettyText, prettyMembers_eq_intercalate, List.map_cons, enclosed]; simp

/-! ### Values -/

/-- There is no number in this value. -/
inductive Numberless : Json → Prop
  | null : Numberless .null
  | bool (b : Bool) : Numberless (.bool b)
  | string (s : String) : Numberless (.string s)
  | array {items : List Json} (h : ∀ item ∈ items, Numberless item) : Numberless (.array items)
  | object {members : List (String × Json)} (h : ∀ member ∈ members, Numberless member.2) :
    Numberless (.object members)

/-- The character that a value begins with. Numbers have several; theirs is left open. -/
def leading : Json → Option Char
  | .null => some 'n'
  | .bool true => some 't'
  | .bool false => some 'f'
  | .number _ => none
  | .string _ => some '"'
  | .array _ => some '['
  | .object _ => some '\x7b'

theorem head?_prettyText {a : Json} (ha : Numberless a) (level : Nat) (r : List Char) :
    (prettyText level a ++ r).head? = leading a := by
  cases ha with
  | null | string => rfl
  | bool b => cases b <;> rfl
  | @array items => cases items <;> rfl
  | @object members => cases members <;> rfl

theorem leading_eq {a b : Json} (ha : Numberless a) (hb : Numberless b)
    (h : prettyText level a ++ r = prettyText level b ++ s) : leading a = leading b := by
  rw [← head?_prettyText ha level r, h, head?_prettyText hb]

theorem tellsApart_prettyText {a b : Json} (ha : Numberless a) (hb : Numberless b) (level : Nat) :
    TellsApart (prettyText level) a b := by
  intro r s h
  induction ha generalizing b level r s with
  | null =>
    have hlead := leading_eq .null hb h
    cases hb with
    | null => exact ⟨rfl, List.append_cancel_left h⟩
    | bool v => cases v <;> simp [leading] at hlead
    | string | array | object => simp [leading] at hlead
  | bool v =>
    have hlead := leading_eq (.bool v) hb h
    cases hb with
    | bool w =>
      obtain rfl : v = w := by cases v <;> cases w <;> simp [leading] at hlead ⊢
      exact ⟨rfl, List.append_cancel_left h⟩
    | null | string | array | object => cases v <;> simp [leading] at hlead
  | string t =>
    have hlead := leading_eq (.string t) hb h
    cases hb with
    | string u =>
      obtain ⟨rfl, hrs⟩ := quote_append_inj h
      exact ⟨rfl, hrs⟩
    | bool v => cases v <;> simp [leading] at hlead
    | null | array | object => simp [leading] at hlead
  | array hitems ih =>
    have hlead := leading_eq (.array hitems) hb h
    cases hb with
    | array hother =>
      rw [prettyText_array, prettyText_array] at h
      obtain ⟨rfl, hrs⟩ := enclosed_append_inj (by decide)
        (fun x hx y hy => ih x hx (hother y hy) (level + 1)) h
      exact ⟨rfl, hrs⟩
    | bool v => cases v <;> simp [leading] at hlead
    | null | string | object => simp [leading] at hlead
  | object hmembers ih =>
    have hlead := leading_eq (.object hmembers) hb h
    cases hb with
    | object hother =>
      rw [prettyText_object, prettyText_object] at h
      obtain ⟨rfl, hrs⟩ := enclosed_append_inj (by decide) (fun x hx y hy =>
        tellsApart_prettyMember (ih x hx (hother y hy) (level + 1))) h
      exact ⟨rfl, hrs⟩
    | bool v => cases v <;> simp [leading] at hlead
    | null | string | array => simp [leading] at hlead

/-- Values without numbers are told apart by their printed text. -/
theorem eq_of_pretty_eq {a b : Json} (ha : Numberless a) (hb : Numberless b)
    (h : a.pretty = b.pretty) : a = b := by
  have htext : prettyText 0 a ++ [] = prettyText 0 b ++ [] := by
    rw [List.append_nil, List.append_nil]
    exact String.ofList_injective h
  exact (tellsApart_prettyText ha hb 0 htext).1

end CloudAccessors.Json
