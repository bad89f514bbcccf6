import CloudAccessors.Noun.Bytewise
import CloudAccessors.Proofs.CarriedCase
import Mathlib.Data.List.Basic

/-!
# Cuts between characters

A singular form is computed with byte offsets (`Bytewise.singularize`), and an offset that is found
in the lowercase form of a word is used to cut the word itself. Every letter has as many bytes in
lowercase as before (`utf8Size_toLower`), so that an ending of the lowercase form is as large as the
ending of the word with as many characters (`utf8ByteSize_back`). The walk through a name counts the
bytes of the characters that it has passed (`wordsFrom_eq_ok`). So each function gives what its
counterpart on characters gives and never ends with a fault (`singularize_eq_ok`).
-/

namespace CloudAccessors.Noun

open Text

theorem utf8Size_toLower (c : Char) : c.toLower.utf8Size = c.utf8Size := by
  cases hc : c.isUpper with
  | false => rw [toLower_of_not_isUpper hc]
  | true => exact forall_isUpper (P := fun c => c.toLower.utf8Size = c.utf8Size) (by decide) hc

theorem utf8ByteSize_ofList_lower (cs : List Char) :
    (String.ofList (lower cs)).utf8ByteSize = (String.ofList cs).utf8ByteSize := by
  induction cs with
  | nil => rfl
  | cons c cs ih =>
    have hcons : lower (c :: cs) = c.toLower :: lower cs := rfl
    rw [hcons, String.ofList_cons, String.ofList_cons, String.utf8ByteSize_append,
      String.utf8ByteSize_append, String.utf8ByteSize_singleton, String.utf8ByteSize_singleton,
      utf8Size_toLower, ih]

namespace Bytewise

variable {word ending : String} {stem : List Char}

/-! ### A word in two parts -/

/-- The first `n` characters of a word. -/
def front (word : String) (n : Nat) : String := String.ofList (word.toList.take n)

/-- The characters of a word behind the first `n`. -/
def back (word : String) (n : Nat) : String := String.ofList (word.toList.drop n)

theorem front_append_back (word : String) (n : Nat) : front word n ++ back word n = word := by
  rw [front, back, ← String.ofList_append, List.take_append_drop, String.ofList_toList]

theorem cut_front (word : String) (n : Nat) :
    cut word 0 (front word n).utf8ByteSize = .ok (front word n) :=
  cut_of_append_left (front_append_back word n)

theorem cut_back (word : String) (n : Nat) :
    cut word (front word n).utf8ByteSize word.utf8ByteSize = .ok (back word n) :=
  cut_of_append_right (front_append_back word n)

/-! ### An ending of the lowercase form -/

theorem toList_lowercase (word : String) : (lowercase word).toList = lower word.toList :=
  String.toList_ofList

theorem append_eq_lowercase (h : stem ++ ending.toList = lower word.toList) :
    String.ofList stem ++ ending = lowercase word := by
  rw [lowercase, ← h, String.ofList_append, String.ofList_toList]

theorem utf8ByteSize_front (h : stem ++ ending.toList = lower word.toList) :
    (front word stem.length).utf8ByteSize = (String.ofList stem).utf8ByteSize := by
  have hfront : lower (word.toList.take stem.length) = stem := by
    rw [lower, List.map_take, ← lower, ← h, List.take_left]
  rw [front, ← utf8ByteSize_ofList_lower, hfront]

theorem utf8ByteSize_back (h : stem ++ ending.toList = lower word.toList) :
    (back word stem.length).utf8ByteSize = ending.utf8ByteSize := by
  have hback : lower (word.toList.drop stem.length) = ending.toList := by
    rw [lower, List.map_drop, ← lower, ← h, List.drop_left]
  rw [back, ← utf8ByteSize_ofList_lower, hback, String.ofList_toList]

theorem offsetBefore_ending (h : stem ++ ending.toList = lower word.toList) :
    offsetBefore word.utf8ByteSize ending.utf8ByteSize =
      .ok (front word stem.length).utf8ByteSize := by
  rw [← utf8ByteSize_back h]
  exact offsetBefore_of_append (front_append_back word stem.length)

/-! ### A single word -/

theorem ok_bind {α β : Type} (a : α) (f : α → Except CutFault β) : (.ok a >>= f) = f a := rfl

theorem replaceEnding_eq_ok (h : stem ++ ending.toList = lower word.toList) (replacement : String) :
    replaceEnding word ending replacement =
      .ok (String.ofList (replaceAfter stem.length replacement word.toList)) := by
  rw [replaceEnding, offsetBefore_ending h, ok_bind, cut_front, ok_bind, cut_back, ok_bind,
    front, recase, back, String.toList_ofList, ← String.ofList_append, replaceAfter]
  rfl

/-- A search in which no step ends with a fault is the search without faults. -/
theorem findSomeM?_eq_ok {α : Type} {f : α → Except CutFault (Option String)}
    {g : α → Option (List Char)} {xs : List α} (h : ∀ x, f x = .ok ((g x).map String.ofList)) :
    xs.findSomeM? f = .ok ((xs.findSome? g).map String.ofList) := by
  obtain rfl : f = fun x => pure ((g x).map String.ofList) := funext h
  rw [List.findSomeM?_pure, List.map_findSome?]
  rfl

theorem rewritten?_eq_ok (word : String) (rule : EndingRule) :
    rewritten? word (lowercase word) rule =
      .ok ((rule.rewritten? word.toList).map String.ofList) := by
  rw [EndingRule.rewritten?, stem?, rewritten?, toList_lowercase,
    ← List.isSome_isSuffixOf?_eq_isSuffixOf]
  cases hstem : rule.plural.toList.isSuffixOf? (lower word.toList) with
  | none => rfl
  | some stem =>
    have h := List.isSuffixOf?_eq_some_iff_append_eq.1 hstem
    have hlower := append_eq_lowercase h
    simp only [offsetBefore_of_append hlower, cut_of_append_left hlower, replaceEnding_eq_ok h,
      ok_bind, String.toList_ofList, Option.isSome_some, Bool.not_true, Bool.false_eq_true,
      if_false]
    split
    · rfl
    split
    · rw [Option.map_some, String.ofList_toList]
      rfl
    · rfl

theorem fromRules?_eq_ok (rules : List EndingRule) (word : String) :
    fromRules? rules word (lowercase word) =
      .ok ((Noun.fromRules? rules word.toList).map String.ofList) :=
  findSomeM?_eq_ok (rewritten?_eq_ok word)

theorem fromSingularInS?_eq_ok (word : String) :
    fromSingularInS? word (lowercase word) =
      .ok ((Noun.fromSingularInS? word.toList).map String.ofList) := by
  refine findSomeM?_eq_ok fun singular => ?_
  have heq (s : String) : lowercase word = s ↔ lower word.toList = s.toList := by
    rw [← toList_lowercase, String.toList_inj]
  simp only [heq, String.toList_append]
  split
  · rw [Option.map_some, String.ofList_toList]
    rfl
  split
  · rename_i hes
    have hcut := cut_front word singular.toList.length
    rw [utf8ByteSize_front hes.symm, String.ofList_toList] at hcut
    rw [hcut, ok_bind, Option.map_some, ← String.length_toList]
    rfl
  · rfl

theorem fromSis?_eq_ok (word : String) :
    fromSis? word (lowercase word) = .ok ((Noun.fromSis? word.toList).map String.ofList) := by
  refine findSomeM?_eq_ok fun root => findSomeM?_eq_ok fun ending => ?_
  rw [stem?, toList_lowercase, ← List.isSome_isSuffixOf?_eq_isSuffixOf]
  cases hstem : ending.toList.isSuffixOf? (lower word.toList) with
  | none => rfl
  | some stem =>
    have h := List.isSuffixOf?_eq_some_iff_append_eq.1 hstem
    rw [replaceEnding_eq_ok h]
    rfl

theorem contains_invariantWords (word : String) :
    invariantWords.contains (lowercase word) =
      invariantWords.any (·.toList = lower word.toList) := by
  rw [List.contains_eq_any_beq, ← toList_lowercase]
  congr 1
  funext s
  rw [Bool.eq_iff_iff, beq_iff_eq, decide_eq_true_iff, String.toList_inj]
  exact eq_comm

theorem singularWord_eq_ok (word : String) :
    singularWord word = .ok (String.ofList (Noun.singularWord word.toList)) := by
  rw [singularWord, Noun.singularWord]
  simp only [contains_invariantWords, fromSingularInS?_eq_ok, fromRules?_eq_ok, fromSis?_eq_ok,
    ok_bind]
  split
  · rw [String.ofList_toList]
    rfl
  -- the first answer counts, in both chains
  cases Noun.fromSingularInS? word.toList with
  | some s => rfl
  | none =>
    cases fromIrregular? word.toList with
    | some s => rfl
    | none =>
      cases Noun.fromRules? leadingRules word.toList with
      | some s => rfl
      | none =>
        cases Noun.fromSis? word.toList with
        | some s => rfl
        | none =>
          cases Noun.fromRules? trailingRules word.toList with
          | some s => rfl
          | none => exact congrArg Except.ok String.ofList_toList.symm

/-! ### The words of a name -/

theorem foldr_joinFirst (u w : List Char) (ws : List (List Char)) :
    u.foldr joinFirst (w :: ws) = (u ++ w) :: ws := by
  induction u with
  | nil => rfl
  | cons c u ih => rw [List.foldr_cons, ih, joinFirst, List.cons_append]

theorem utf8ByteSize_append_concat (passed : String) (u : List Char) (c : Char) :
    (passed ++ String.ofList (u ++ [c])).utf8ByteSize =
      (passed ++ String.ofList u).utf8ByteSize + c.utf8Size := by
  rw [String.ofList_append, ← String.singleton_eq_ofList, ← String.append_assoc,
    String.utf8ByteSize_append, String.utf8ByteSize_singleton]

theorem wordBetween_append (passed : String) (u : List Char) (c : Char) (behind : String) :
    wordBetween (passed ++ String.ofList (u ++ [c]) ++ behind) passed.utf8ByteSize
        (passed ++ String.ofList (u ++ [c])).utf8ByteSize = .ok [String.ofList (u ++ [c])] := by
  have hlt : passed.utf8ByteSize < (passed ++ String.ofList (u ++ [c])).utf8ByteSize := by
    have hpos := c.utf8Size_pos
    rw [utf8ByteSize_append_concat, String.utf8ByteSize_append]
    omega
  rw [wordBetween, if_pos hlt, cut_append]
  rfl

/-- The walk has left the text `passed` behind, and of the word that it is in the characters `u` and
`before`. -/
theorem wordsFrom_eq_ok (passed : String) (u : List Char) (before : Char) (rest : List Char) :
    wordsFrom (passed ++ String.ofList (u ++ before :: rest)) passed.utf8ByteSize
        (passed ++ String.ofList (u ++ [before])).utf8ByteSize before rest =
      .ok ((u.foldr joinFirst (Noun.words (before :: rest))).map String.ofList) := by
  induction rest generalizing passed u before with
  | nil =>
    have hword := wordBetween_append passed u before ""
    rw [String.append_empty] at hword
    rw [wordsFrom, hword, Noun.words, foldr_joinFirst]
    rfl
  | cons c rest ih =>
    rw [wordsFrom, Noun.words]
    split
    · -- the word is passed as a whole, and `c` begins the next one
      have hname : passed ++ String.ofList (u ++ before :: c :: rest) =
          passed ++ String.ofList (u ++ [before]) ++ String.ofList ([] ++ c :: rest) := by
        rw [String.append_assoc, ← String.ofList_append, List.append_assoc]
        rfl
      have hhere := utf8ByteSize_append_concat (passed ++ String.ofList (u ++ [before])) [] c
      rw [String.ofList_nil, String.append_empty] at hhere
      rw [hname, wordBetween_append, ok_bind, ← hhere, ih, foldr_joinFirst]
      rfl
    · have hname : u ++ before :: c :: rest = (u ++ [before]) ++ c :: rest :=
        (List.append_assoc u [before] _).symm
      rw [hname, ← utf8ByteSize_append_concat, ih, List.foldr_append]
      rfl

theorem words_eq_ok (name : String) :
    words name = .ok ((Noun.words name.toList).map String.ofList) := by
  rw [words]
  cases hname : name.toList with
  | nil => rfl
  | cons c rest =>
    have hofList : "" ++ String.ofList ([] ++ c :: rest) = name := by
      rw [String.empty_append, List.nil_append, ← hname, String.ofList_toList]
    have hsize : ("" ++ String.ofList ([] ++ [c])).utf8ByteSize = c.utf8Size := by
      rw [utf8ByteSize_append_concat]
      exact Nat.zero_add _
    have hwalk := wordsFrom_eq_ok "" [] c rest
    rw [hofList, hsize] at hwalk
    exact hwalk

/-- Every cut that is made for the singular of a name is within its text and between characters, and
what comes out is the singular that is found character by character. -/
theorem singularize_eq_ok (name : String) : singularize name = .ok (Noun.singularize name) := by
  rw [singularize, words_eq_ok, ok_bind, List.getLast?_map, Noun.singularize, singularName]
  cases hlast : (Noun.words name.toList).getLast? with
  | none => rfl
  | some last =>
    have hname : String.ofList (Noun.words name.toList).dropLast.flatten ++ String.ofList last =
        name := by
      have hcut := flatten_dropLast_append_lastWord name.toList
      rw [lastWord, hlast, Option.getD_some] at hcut
      rw [← String.ofList_append, hcut, String.ofList_toList]
    simp only [Option.map_some, offsetBefore_of_append hname, cut_of_append_left hname, ok_bind,
      singularWord_eq_ok, String.toList_ofList, ← String.ofList_append]
    rfl

end Bytewise

end CloudAccessors.Noun
