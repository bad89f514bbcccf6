import CloudAccessors.Proofs.Outcome

/-!
# Files of joined lists

The text of a file is a header, the declarations up to a closing brace, and the bodies behind it.
Declarations and bodies are both made descriptor by descriptor, so that each of the two parts of
`xs ++ ys` is that of `xs` and then that of `ys` (`declarations_append`, `bodies_append`), and a
list fails exactly if one of its parts does (`exists_generate_eq_ok_append`).
-/

namespace CloudAccessors.Source

variable {c : Config} {xs ys : List Descriptor}

theorem declarations_append (xs ys : List Descriptor) :
    declarations (xs ++ ys) = declarations xs ++ declarations ys := by
  rw [declarations, List.map_append, String.join_append]
  rfl

theorem bodies_append (c : Config) (xs ys : List Descriptor) :
    bodies c (xs ++ ys) = bodies c xs ++ bodies c ys := by
  rw [bodies, List.map_append, String.join_append]
  rfl

theorem fileText_append (c : Config) (xs ys : List Descriptor) :
    fileText c (xs ++ ys) =
      fileHeader c ++ declarations xs ++ declarations ys ++ "\x7d\n" ++ bodies c xs ++
        bodies c ys := by
  rw [fileText, declarations_append, bodies_append]
  simp only [String.append_assoc]

theorem firstFailure?_append_eq_none_iff :
    firstFailure? c (xs ++ ys) = none ↔ firstFailure? c xs = none ∧ firstFailure? c ys = none := by
  simp only [firstFailure?_eq_none_iff, List.mem_append]
  constructor
  · rintro ⟨hc, h⟩
    exact ⟨⟨hc, fun d hd => h d (.inl hd)⟩, hc, fun d hd => h d (.inr hd)⟩
  · rintro ⟨⟨hc, hx⟩, -, hy⟩
    exact ⟨hc, fun d hd => hd.elim (hx d) (hy d)⟩

theorem exists_generate_eq_ok_iff {ds : List Descriptor} :
    (∃ src, generate c ds = .ok src) ↔ firstFailure? c ds = none := by
  simp only [generate_eq_ok_iff, exists_and_left, exists_eq', and_true]

theorem exists_generate_eq_ok_append :
    (∃ src, generate c (xs ++ ys) = .ok src) ↔
      (∃ src, generate c xs = .ok src) ∧ ∃ src, generate c ys = .ok src := by
  simp only [exists_generate_eq_ok_iff, firstFailure?_append_eq_none_iff]

/-- Joining two lists joins their declarations and their bodies, and changes nothing else. -/
theorem generate_append (c : Config) (xs ys : List Descriptor) :
    ((∃ src, generate c (xs ++ ys) = .ok src) ↔
      (∃ src, generate c xs = .ok src) ∧ ∃ src, generate c ys = .ok src) ∧
    (declarations [] = "" ∧ bodies c [] = "") ∧
    ∀ src, generate c (xs ++ ys) = .ok src →
      generate c xs = .ok (fileHeader c ++ declarations xs ++ "\x7d\n" ++ bodies c xs) ∧
      generate c ys = .ok (fileHeader c ++ declarations ys ++ "\x7d\n" ++ bodies c ys) ∧
      src = fileHeader c ++ declarations xs ++ declarations ys ++ "\x7d\n" ++ bodies c xs ++
        bodies c ys := by
  refine ⟨exists_generate_eq_ok_append, ⟨rfl, rfl⟩, fun src h => ?_⟩
  obtain ⟨hnone, htext⟩ := generate_eq_ok_iff.1 h
  obtain ⟨hx, hy⟩ := firstFailure?_append_eq_none_iff.1 hnone
  refine ⟨generate_eq_ok_iff.2 ⟨hx, rfl⟩, generate_eq_ok_iff.2 ⟨hy, rfl⟩, ?_⟩
  rw [← htext, fileText_append]

def generatedVpcs : List Descriptor :=
  [{ entity := "Vpcs", service := "ec2", callPrefix := "Describe" }]

def handWrittenTags : List Descriptor :=
  [{ entity := "Tags", service := "s3", callPrefix := "Get", handWritten := true }]

/-- Of two lists of which the second has no body, both can be generated and so can the whole. -/
theorem generate_append_vpcs_tags :
    generate {} generatedVpcs = .ok (fileHeader {} ++ declarations generatedVpcs ++ "\x7d\n" ++
        bodies {} generatedVpcs) ∧
      generate {} handWrittenTags = .ok (fileHeader {} ++ declarations handWrittenTags ++
        "\x7d\n" ++ bodies {} handWrittenTags) ∧
      generate {} (generatedVpcs ++ handWrittenTags) = .ok (fileHeader {} ++
        declarations generatedVpcs ++ declarations handWrittenTags ++ "\x7d\n" ++
        bodies {} generatedVpcs ++ bodies {} handWrittenTags) ∧
      bodies {} generatedVpcs ≠ "" ∧ bodies {} handWrittenTags = "" := by
  have hvpcs : firstFailure? {} generatedVpcs = none := by decide +kernel
  have htags : firstFailure? {} handWrittenTags = none := by decide +kernel
  obtain ⟨hiff, -, hparts⟩ := generate_append {} generatedVpcs handWrittenTags
  obtain ⟨src, hsrc⟩ := hiff.2
    ⟨exists_generate_eq_ok_iff.2 hvpcs, exists_generate_eq_ok_iff.2 htags⟩
  obtain ⟨hx, hy, rfl⟩ := hparts src hsrc
  exact ⟨hx, hy, hsrc, by decide +kernel, by decide +kernel⟩

end CloudAccessors.Source
