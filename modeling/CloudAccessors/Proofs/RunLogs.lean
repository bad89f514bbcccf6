import CloudAccessors.CommandLine.Run
import CloudAccessors.Proofs.MethodNames

/-!
# What the log says of a run

The generator logs as far as it comes. Its last event is logged exactly if the source is there
(`exists_bodies_mem_events_iff`), and then each plan has its events, and the numbers are those of
the declared methods and of the bodies (`events_eq_of_generate_eq_ok`). A run shows all that one
shows that asks for less (`log_sublist_of_le`), and nothing if it does not ask (`log_eq_nil`). What
is shown changes nothing else (`report_eq_of_verbosity`).
-/

namespace CloudAccessors

open Log (Event Level)

/-! ### The events of the generator -/

namespace Source

variable {c : Config} {ds : List Descriptor} {src : String}

section
variable {ε α : Type} {step : Except ε α} {es : List Event} {e : Event}

theorem mem_behind_iff : e ∈ behind step es ↔ (∃ a, step = .ok a) ∧ e ∈ es := by
  cases step <;> simp [behind, Except.isOk, Except.toBool]

theorem behind_eq_of_eq_ok {a : α} (h : step = .ok a) : behind step es = es := by
  rw [h]
  rfl

theorem isOk_okUnless {failure? : Option ε} {a : α} :
    (okUnless failure? a).isOk = failure?.isNone := by
  cases failure? <;> rfl

end

theorem exists_bind_eq_ok_iff {ε α β : Type} {step : Except ε α} {f : α → Except ε β} :
    (∃ b, step >>= f = .ok b) ↔ ∃ a, step = .ok a ∧ ∃ b, f a = .ok b := by
  cases step <;> simp [bind, Except.bind]

/-- The source is there if each step succeeds. -/
theorem exists_generate_eq_ok_iff_steps :
    (∃ src, generate c ds = .ok src) ↔ (∃ u, c.check = .ok u) ∧ (∃ head, preamble c = .ok head) ∧
      (∃ text, interface c (planAll ds) = .ok text) ∧
        ∃ made, (planAll ds).mapM (method c) = .ok made := by
  simp only [generate, exists_bind_eq_ok_iff, exists_and_right]
  simp [pure, Except.pure]

theorem exists_bodies_mem_events_iff :
    (∃ written skipped, .bodies written skipped ∈ events c ds) ↔
      ∃ src, generate c ds = .ok src := by
  have hbody (p : Plan) (w s : Nat) : bodyEvent p ≠ .bodies w s := by
    unfold bodyEvent
    split <;> simp
  rw [exists_generate_eq_ok_iff_steps]
  simp only [events, mem_behind_iff, List.mem_append, List.mem_cons, List.mem_map, derivedEvent,
    reduceCtorEq, and_false, exists_false, false_or, hbody, List.not_mem_nil, or_false]
  simp

/-- Of a run that succeeds, no plan stops a loop. -/
theorem isOk_of_generate_eq_ok (h : generate c ds = .ok src) {p : Plan} (hp : p ∈ planAll ds) :
    (checkDeclaration p).isOk ∧ (method c p).isOk := by
  obtain ⟨d, hd, rfl⟩ := List.mem_map.1 hp
  obtain ⟨hdeclaration, hbody⟩ :=
    (firstFailure?_eq_none_iff.1 (generate_eq_ok_iff.1 h).1).2 d hd
  rw [checkDeclaration_eq_okUnless, method_eq_okUnless, isOk_okUnless, isOk_okUnless,
    Option.isNone_iff_eq_none, Option.isNone_iff_eq_none, declarationFailure?_eq_none_iff,
    bodyFailure?_eq_none_iff]
  exact ⟨hdeclaration, fun hgenerate => hbody (by simpa [Descriptor.plan] using hgenerate)⟩

theorem countP_generateBody_planAll (ds : List Descriptor) :
    (planAll ds).countP (·.generateBody) = ds.countP (!·.handWritten) := by
  rw [planAll, List.countP_map]
  rfl

theorem length_planAll_sub_countP (ds : List Descriptor) :
    (planAll ds).length - ds.countP (!·.handWritten) = ds.countP (·.handWritten) := by
  have hsum : ds.length = ds.countP (·.handWritten) + ds.countP (!·.handWritten) := by
    simpa using List.length_eq_countP_add_countP (l := ds) (p := Descriptor.handWritten)
  rw [planAll, List.length_map, hsum, Nat.add_sub_cancel]

theorem length_planAll_add_length_fixedAccessors (ds : List Descriptor) :
    (planAll ds).length + fixedAccessors.length = (declaredNames ds).length := by
  simp [planAll, declaredNames, fixedMethods, Nat.add_comm]

/-- The events of a run that succeeds. -/
theorem events_eq_of_generate_eq_ok (h : generate c ds = .ok src) :
    events c ds =
      (planAll ds).map derivedEvent ++
      .preamble :: (planAll ds).map (.declared ·.name) ++
      .interface (declaredNames ds).length :: (planAll ds).map bodyEvent ++
      [.bodies (ds.countP (!·.handWritten)) (ds.countP (·.handWritten))] := by
  obtain ⟨⟨_, hcheck⟩, ⟨_, hpreamble⟩, ⟨_, hinterface⟩, _, hbodies⟩ :=
    exists_generate_eq_ok_iff_steps.1 ⟨src, h⟩
  have hdeclared : (planAll ds).takeWhile (fun p => (checkDeclaration p).isOk) = planAll ds :=
    List.takeWhile_eq_self_iff.2 fun _ hp => (isOk_of_generate_eq_ok h hp).1
  have hmade : (planAll ds).takeWhile (fun p => (method c p).isOk) = planAll ds :=
    List.takeWhile_eq_self_iff.2 fun _ hp => (isOk_of_generate_eq_ok h hp).2
  simp only [events, behind_eq_of_eq_ok hcheck, behind_eq_of_eq_ok hpreamble,
    behind_eq_of_eq_ok hinterface, behind_eq_of_eq_ok hbodies, hdeclared, hmade,
    countP_generateBody_planAll, length_planAll_sub_countP,
    length_planAll_add_length_fixedAccessors]
  simp

end Source

/-! ### What is shown -/

namespace Log

theorem Level.rank_ofVerbosity (n : Nat) : (Level.ofVerbosity n).rank = min n 3 := by
  match n with
  | 0 | 1 | 2 => rfl
  | n + 3 =>
    show 3 = min (n + 3) 3
    omega

theorem Event.rank_level_pos (e : Event) : 0 < e.level.rank := by
  cases e <;> exact Nat.succ_pos _

theorem Event.isShown_mono {v w : Nat} (h : v ≤ w) {e : Event}
    (he : e.isShown (.ofVerbosity v)) : e.isShown (.ofVerbosity w) := by
  simp only [isShown, Level.rank_ofVerbosity, decide_eq_true_eq] at he ⊢
  omega

end Log

namespace CommandLine.Arguments

variable {a : Arguments} {v w : Nat}

/-- Without being asked for it a run shows nothing of its log. -/
theorem log_eq_nil (h : a.verbosity = 0) : a.log = [] := by
  refine List.filter_eq_nil_iff.2 fun e _ => ?_
  have hpos := e.event.rank_level_pos
  rw [h, Event.isShown, Level.rank_ofVerbosity, decide_eq_true_eq]
  omega

/-- Asking for more shows what was shown before, and maybe more. -/
theorem log_sublist_of_le (h : v ≤ w) :
    ({ a with verbosity := v } : Arguments).log.Sublist
      ({ a with verbosity := w } : Arguments).log :=
  List.monotone_filter_right _ fun _ => Event.isShown_mono h

theorem report_eq_of_verbosity :
    ({ a with verbosity := v } : Arguments).report =
      { a.report with log := ({ a with verbosity := v } : Arguments).log } := by
  have houtput : ({ a with verbosity := v } : Arguments).output = a.output := rfl
  rw [report, report, houtput]
  cases a.output <;> rfl

/-- The last event of the generator is logged exactly if the run succeeds. -/
theorem exists_bodies_mem_entries_iff (h : a.inspect = false) :
    (∃ scope written skipped, ⟨scope, .bodies written skipped⟩ ∈ a.entries) ↔
      a.report.exitCode = 0 := by
  have hexit : a.report.exitCode = 0 ↔ ∃ stdout, a.output = .ok stdout := by
    rw [report]
    cases a.output <;> simp
  have hentries (scope : Option Log.Scope) (w s : Nat) :
      ⟨scope, .bodies w s⟩ ∈ a.entries ↔ ⟨scope, .bodies w s⟩ ∈ a.outputEntries := by
    simp [entries]
  have hgenerate (scope : Log.Scope) :
      (∃ (sc : Option Log.Scope) (w s : Nat), (⟨sc, .bodies w s⟩ : Log.Entry) ∈
        (Source.events a.config a.descriptors).map fun event => ⟨scope, event⟩) ↔
      ∃ stdout, Source.generate a.config a.descriptors = .ok stdout := by
    simp [← Source.exists_bodies_mem_events_iff]
  simp only [hexit, hentries, outputEntries, output, h, checkAll]
  cases a.strict with
  | false => exact hgenerate _
  | true =>
    cases lint a.descriptors with
    | nil => exact hgenerate _
    | cons issue issues => exact iff_of_false (by simp) (fun ⟨_, hout⟩ => nomatch hout)

end CommandLine.Arguments

end CloudAccessors
