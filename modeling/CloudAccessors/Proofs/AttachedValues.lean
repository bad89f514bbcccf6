import CloudAccessors.CommandLine.Run
import Mathlib.Data.List.TakeWhile

/-!
# Values that are attached to their options

An argument `--name=value` gives the option its value at once, whatever the value is
(`take_attached`): it may be empty, begin with a dash or have an equals sign in it. So each three
names can be given to a run (`parse_attached_names`).
-/

namespace CloudAccessors.CommandLine

namespace Progress

variable {p : Progress} {given : Arguments}

/-- The name of an option goes up to the first equals sign. -/
theorem takeLong_attached (p : Progress) (s : Setting) (value : List Char) :
    p.takeLong (s.long.toList ++ '=' :: value) = p.attachValue s value := by
  have hname : ∀ c ∈ s.long.toList, decide (c ≠ '=') = true :=
    List.all_eq_true.1 (by cases s <;> rfl)
  have htake : (s.long.toList ++ '=' :: value).takeWhile (· ≠ '=') = s.long.toList := by
    rw [List.takeWhile_append_of_pos hname, List.takeWhile_cons_of_neg (by simp), List.append_nil]
  have hdrop : (s.long.toList ++ '=' :: value).dropWhile (· ≠ '=') = '=' :: value := by
    rw [List.dropWhile_append_of_pos hname, List.dropWhile_cons_of_neg (by simp)]
  have hcontains : (s.long.toList ++ '=' :: value).contains '=' = true := by simp
  have hfind : Setting.all.find? (·.long = s.long) = some s := by cases s <;> decide
  rw [takeLong, htake, hdrop, hcontains, String.ofList_toList, hfind]
  rfl

theorem take_attached (hp : p.endOfOptions = false) (s : Setting) (value : String) :
    p.take ("--" ++ s.long ++ "=" ++ value) = p.attachValue s value.toList := by
  have htext : ("--" ++ s.long ++ "=" ++ value).toList =
      '-' :: '-' :: (s.long.toList ++ '=' :: value.toList) := by simp
  rw [take, hp, if_neg Bool.false_ne_true, htext, ← takeLong_attached]
  -- behind the dashes the name begins, so that this is no end of options
  cases s <;> rfl

theorem attachValue_eq_ok (hp : p.pending = none) {s : Setting} {value : String}
    (hs : p.given.assign s value = .ok given) :
    p.attachValue s value.toList = .ok { p with given } := by
  have hsettle : p.settle = .ok p := by rw [settle, hp]
  have hpending : settle { p with pending := some (s, some value) } = .ok { p with given } := by
    simp only [settle, hs, hp]
  rw [attachValue, hsettle, String.ofList_toList]
  exact hpending

/-- An option that has not been given takes the value that is attached to it. -/
theorem take_attached_eq_ok (hp : p.endOfOptions = false) (hpending : p.pending = none)
    {s : Setting} {value : String} (hs : p.given.assign s value = .ok given) :
    p.take ("--" ++ s.long ++ "=" ++ value) = .ok { p with given } := by
  rw [take_attached hp, attachValue_eq_ok hpending hs]

theorem foldlM_take_cons {p q : Progress} {arg : String} (h : p.take arg = .ok q)
    (args : List String) : (arg :: args).foldlM take p = args.foldlM take q := by
  rw [List.foldlM_cons, h]
  rfl

end Progress

/-- Each three names can be given. -/
theorem parse_attached_names (package interface receiver : String) :
    Arguments.parse ["--package=" ++ package, "--interface=" ++ interface,
        "--receiver=" ++ receiver] =
      .ok { package := some package, interface := some interface, receiver := some receiver } := by
  have hpackage : Progress.take {} ("--package=" ++ package) =
      .ok { given := { package := some package } } :=
    Progress.take_attached_eq_ok (s := .package) rfl rfl rfl
  have hinterface : Progress.take { given := { package := some package } }
      ("--interface=" ++ interface) =
      .ok { given := { package := some package, interface := some interface } } :=
    Progress.take_attached_eq_ok (s := .interface) rfl rfl rfl
  have hreceiver : Progress.take
      { given := { package := some package, interface := some interface } }
      ("--receiver=" ++ receiver) =
      .ok { given := ⟨none, some package, some interface, some receiver, false, false, 0⟩ } :=
    Progress.take_attached_eq_ok (s := .receiver) rfl rfl rfl
  rw [Arguments.parse, Progress.foldlM_take_cons hpackage, Progress.foldlM_take_cons hinterface,
    Progress.foldlM_take_cons hreceiver]
  rfl

end CloudAccessors.CommandLine
