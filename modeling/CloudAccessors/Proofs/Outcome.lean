import CloudAccessors.Proofs.Checks

/-!
# Which failure a run reports

A run of `generate` goes through the configuration, all declarations and all bodies in this order,
and reports the first failure that it meets: `generate_eq_okUnless` puts the whole run into the form
"this text, unless there is a failure". The failures are those of `declarationFailure?` and
`bodyFailure?` for single plans, and two loops over the list are two searches through it
(`forM_okUnless`, `mapM_okUnless`).
-/

namespace CloudAccessors

/-! ### Runs that end at the first failure -/

section
variable {ε α β : Type}

/-- `a`, unless there is a failure. -/
def okUnless (failure? : Option ε) (a : α) : Except ε α :=
  match failure? with
  | none => .ok a
  | some failure => .error failure

variable {failure? : Option ε} {a b : α}

theorem okUnless_bind (f : α → Option ε) (g : α → β) :
    (okUnless failure? a >>= fun x => okUnless (f x) (g x)) =
      okUnless (failure?.or (f a)) (g a) := by
  cases failure? <;> rfl

theorem okUnless_bind_pure (g : α → β) :
    (okUnless failure? a >>= fun x => pure (g x)) = okUnless failure? (g a) := by
  cases failure? <;> rfl

theorem okUnless_eq_ok_iff : okUnless failure? a = .ok b ↔ failure? = none ∧ a = b := by
  cases failure? <;> simp [okUnless]

theorem okUnless_eq_error_iff {failure : ε} :
    okUnless failure? a = .error failure ↔ failure? = some failure := by
  cases failure? <;> simp [okUnless]

theorem forM_okUnless (f : α → Option ε) (xs : List α) :
    xs.forM (fun x => okUnless (f x) ()) = okUnless (xs.findSome? f) () := by
  induction xs with
  | nil => rfl
  | cons x xs ih =>
    show (okUnless (f x) () >>= fun _ => xs.forM fun x => okUnless (f x) ()) = _
    rw [ih, okUnless_bind, List.findSome?_cons]
    cases f x <;> rfl

theorem mapM_okUnless (f : α → Option ε) (g : α → β) (xs : List α) :
    xs.mapM (fun x => okUnless (f x) (g x)) = okUnless (xs.findSome? f) (xs.map g) := by
  induction xs with
  | nil => rfl
  | cons x xs ih =>
    rw [List.mapM_cons, ih, List.findSome?_cons]
    cases f x with
    | none => cases xs.findSome? f <;> rfl
    | some failure => rfl

end

theorem Config.check_eq_okUnless (c : Config) : c.check = okUnless (c.fault?.map .config) () := by
  unfold check; cases c.fault? <;> rfl

namespace Source

open Text (blank trimmed)

/-! ### The failures of one plan -/

def declarationFailure? (p : Plan) : Option Failure :=
  (declarationFault? p).map (.render .interface p.entity)

/-- A body that is written by hand has no failure. -/
def bodyFailure? (p : Plan) : Option Failure :=
  if p.generateBody then (bodyFault? p).map (.render .function p.entity) else none

variable {p : Plan} {d : Descriptor} {c : Config} {ds : List Descriptor}

theorem declarationFailure?_eq_none_iff : declarationFailure? p = none ↔ DeclarationOk p := by
  rw [declarationFailure?, Option.map_eq_none_iff, declarationFault?_eq_none_iff]

theorem bodyFailure?_eq_none_iff : bodyFailure? p = none ↔ (p.generateBody → BodyOk p) := by
  unfold bodyFailure?
  split
  · rename_i h
    rw [Option.map_eq_none_iff, bodyFault?_eq_none_iff]
    exact ⟨fun hb _ => hb, fun hb => hb h⟩
  · rename_i h
    exact ⟨fun _ hp => absurd hp h, fun _ => rfl⟩

theorem checkDeclaration_eq_okUnless (p : Plan) :
    checkDeclaration p = okUnless (declarationFailure? p) () := by
  unfold checkDeclaration declarationFailure?; cases declarationFault? p <;> rfl

theorem method_eq_okUnless (c : Config) (p : Plan) :
    method c p =
      okUnless (bodyFailure? p) (if p.generateBody then some (methodText c p) else none) := by
  unfold method bodyFailure?
  cases p.generateBody with
  | false => rfl
  | true => cases bodyFault? p <;> rfl

theorem method_eq_ok_some_iff {c : Config} {p : Plan} {text : String} :
    method c p = .ok (some text) ↔ p.generateBody = true ∧ BodyOk p ∧ methodText c p = text := by
  rw [method_eq_okUnless, okUnless_eq_ok_iff, bodyFailure?_eq_none_iff]
  cases p.generateBody <;> simp

/-! ### The text of a file -/

/-- Everything in front of the declarations of the descriptors. -/
def fileHeader (c : Config) : String := preambleText c ++ "\n" ++ interfaceHeader c

def declarations (ds : List Descriptor) : String := String.join (ds.map fun d => declaration d.plan)

/-- The method of a descriptor with the empty line in front of it, if it is not written by hand. -/
def bodyText (c : Config) (d : Descriptor) : String :=
  if d.handWritten then "" else "\n" ++ methodText c d.plan

def bodies (c : Config) (ds : List Descriptor) : String := String.join (ds.map (bodyText c))

def fileText (c : Config) (ds : List Descriptor) : String :=
  fileHeader c ++ declarations ds ++ "\x7d\n" ++ bodies c ds

theorem join_bodies (c : Config) (ds : List Descriptor) :
    String.join ((((planAll ds).map fun p =>
      if p.generateBody then some (methodText c p) else none).filterMap id).map ("\n" ++ ·)) =
      bodies c ds := by
  induction ds with
  | nil => rfl
  | cons d ds ih =>
    have hgen : d.plan.generateBody = !d.handWritten := rfl
    rw [bodies, List.map_cons, String.join_cons, ← bodies, ← ih]
    cases h : d.handWritten with
    | true => simp [planAll, bodyText, hgen, h]
    | false => simp [planAll, bodyText, hgen, h]

/-! ### The run as a whole -/

/-- The first failure of a run. -/
def firstFailure? (c : Config) (ds : List Descriptor) : Option Failure :=
  c.fault?.map .config <|> ds.findSome? (declarationFailure? ·.plan) <|>
    ds.findSome? (bodyFailure? ·.plan)

theorem firstFailure?_eq_none_iff :
    firstFailure? c ds = none ↔ c.fault? = none ∧
      ∀ d ∈ ds, DeclarationOk d.plan ∧ (d.handWritten = false → BodyOk d.plan) := by
  have hgen : ∀ d : Descriptor, d.plan.generateBody = true ↔ d.handWritten = false := fun d => by
    simp [Descriptor.plan]
  simp only [firstFailure?, Option.orElse_eq_orElse, Option.orElse_eq_or, Option.or_eq_none_iff,
    Option.map_eq_none_iff, List.findSome?_eq_none_iff, declarationFailure?_eq_none_iff,
    bodyFailure?_eq_none_iff, hgen]
  constructor
  · rintro ⟨hc, hdecl, hbody⟩
    exact ⟨hc, fun d hd => ⟨hdecl d hd, hbody d hd⟩⟩
  · rintro ⟨hc, h⟩
    exact ⟨hc, fun d hd => (h d hd).1, fun d hd => (h d hd).2⟩

/-- The preamble of a checked configuration never fails. -/
theorem preamble_eq_ok (h : c.fault? = none) : preamble c = .ok (preambleText c) := by
  rw [preamble, if_pos (Config.fault?_eq_none_iff.1 h).1]

theorem interface_eq_okUnless (c : Config) (ps : List Plan) :
    interface c ps = okUnless (ps.findSome? declarationFailure?)
      (interfaceHeader c ++ String.join (ps.map declaration) ++ "\x7d\n") := by
  show (ps.forM checkDeclaration >>= fun _ => pure _) = _
  rw [funext checkDeclaration_eq_okUnless, forM_okUnless, okUnless_bind_pure]

theorem generate_eq_okUnless (c : Config) (ds : List Descriptor) :
    generate c ds = okUnless (firstFailure? c ds) (fileText c ds) := by
  unfold generate firstFailure?
  rw [Config.check_eq_okUnless]
  cases hc : c.fault? with
  | some fault => rfl
  | none =>
    rw [preamble_eq_ok hc]
    show (interface c (planAll ds) >>= fun declared => (planAll ds).mapM (method c) >>= fun made =>
      pure (preambleText c ++ "\n" ++ declared ++
        String.join ((made.filterMap id).map ("\n" ++ ·)))) = _
    simp only [interface_eq_okUnless, funext (method_eq_okUnless c), mapM_okUnless,
      okUnless_bind_pure, okUnless_bind, join_bodies]
    simp only [planAll, List.findSome?_map, List.map_map, Option.map_none, Option.orElse_eq_orElse,
      Option.orElse_eq_or, Option.none_or, fileText, fileHeader, declarations, String.append_assoc,
      Function.comp_def]

theorem generate_eq_ok_iff {src : String} :
    generate c ds = .ok src ↔ firstFailure? c ds = none ∧ fileText c ds = src := by
  rw [generate_eq_okUnless, okUnless_eq_ok_iff]

/-! ### Failures that never show -/

theorem eq_of_declarationFailure? {failure : Failure} (h : declarationFailure? p = some failure) :
    ∃ fault, declarationFault? p = some fault ∧ failure = .render .interface p.entity fault := by
  obtain ⟨fault, hfault, rfl⟩ := Option.map_eq_some_iff.1 h
  exact ⟨fault, hfault, rfl⟩

theorem eq_of_bodyFailure? {failure : Failure} (h : bodyFailure? p = some failure) :
    ∃ fault, bodyFault? p = some fault ∧ failure = .render .function p.entity fault := by
  unfold bodyFailure? at h
  split at h
  · obtain ⟨fault, hfault, rfl⟩ := Option.map_eq_some_iff.1 h
    exact ⟨fault, hfault, rfl⟩
  · cases h

/-- A failure of a run comes from the configuration, from a declaration, or from a body in a list
whose descriptors can all be declared. -/
theorem firstFailure?_cases {failure : Failure} (h : firstFailure? c ds = some failure) :
    (∃ fault, failure = .config fault) ∨
    (∃ entity fault, failure = .render .interface entity fault) ∨
    ∃ entity fault, failure = .render .function entity fault ∧ fault.inBody := by
  simp only [firstFailure?, Option.orElse_eq_orElse, Option.orElse_eq_or,
    Option.or_eq_some_iff] at h
  rcases h with h | ⟨-, h | ⟨hdecl, h⟩⟩
  · obtain ⟨fault, -, rfl⟩ := Option.map_eq_some_iff.1 h
    exact .inl ⟨fault, rfl⟩
  · obtain ⟨d, -, h⟩ := List.exists_of_findSome?_eq_some h
    obtain ⟨fault, -, rfl⟩ := eq_of_declarationFailure? h
    exact .inr (.inl ⟨_, fault, rfl⟩)
  · obtain ⟨d, hd, h⟩ := List.exists_of_findSome?_eq_some h
    obtain ⟨fault, hfault, rfl⟩ := eq_of_bodyFailure? h
    have hok : DeclarationOk d.plan :=
      declarationFailure?_eq_none_iff.1 (List.findSome?_eq_none_iff.1 hdecl d hd)
    exact .inr (.inr ⟨_, fault, rfl, inBody_of_bodyFault? hok hfault⟩)

/-- How the messages of these faults begin. -/
theorem message_of_inBody {fault : RenderFault} (h : fault.inBody) :
    ∃ start rest, fault.message = start ++ rest ∧
      start ∈ ["service '", "service call '", "owner filter '", "attribute path '",
        "attribute path segment '", "pagination field '"] := by
  cases fault with
  | service name => exact ⟨"service '", _, String.append_assoc .., by simp⟩
  | call name => exact ⟨"service call '", _, String.append_assoc .., by simp⟩
  | ownerFilter field => exact ⟨"owner filter '", _, String.append_assoc .., by simp⟩
  | segmentCount path => exact ⟨"attribute path '", _, String.append_assoc .., by simp⟩
  | segment name => exact ⟨"attribute path segment '", _, String.append_assoc .., by simp⟩
  | tokenField field => exact ⟨"pagination field '", _, String.append_assoc .., by simp⟩
  | package | emptyEntity | emptySignature | multilineSignature | inputType | stated => cases h

/-- No fault of a body reads like one of the checks that are made before. -/
theorem message_ne_of_inBody {fault : RenderFault} (h : fault.inBody) :
    fault.message ≠ "entity is empty" ∧ fault.message ≠ "signature is empty" ∧
      ∀ name, fault.message ≠ "input type '" ++ name ++ "' is not a Go type name" := by
  obtain ⟨start, rest, heq, hstart⟩ := message_of_inBody h
  simp only [List.mem_cons, List.not_mem_nil, or_false] at hstart
  rw [heq]
  simp only [ne_eq, ← String.toList_inj, String.toList_append]
  rcases hstart with rfl | rfl | rfl | rfl | rfl | rfl <;> simp

/-- The configuration is checked first, then all declarations in list order, then all bodies. -/
theorem generate_eq_first_failure (c : Config) (ds : List Descriptor) :
    (generate c ds =
      match c.check, ds.findSome? (declarationFailure? ·.plan),
        ds.findSome? (bodyFailure? ·.plan) with
      | .error failure, _, _ => .error failure
      | .ok (), some failure, _ => .error failure
      | .ok (), none, some failure => .error failure
      | .ok (), none, none => .ok (fileText c ds)) ∧
    (∀ d : Descriptor, declarationFailure? d.plan ≠ none ↔
      blank d.entity ∨ blank d.signatureOrDefault ∨
        '\n' ∈ (trimmed d.signatureOrDefault).toList) ∧
    (∀ entity fault, generate c ds ≠ .error (.render .preamble entity fault)) ∧
    ∀ entity fault, generate c ds = .error (.render .function entity fault) →
      fault.message ≠ "entity is empty" ∧ fault.message ≠ "signature is empty" ∧
        ∀ name, fault.message ≠ "input type '" ++ name ++ "' is not a Go type name" := by
  refine ⟨?_, fun d => ?_, fun entity fault h => ?_, fun entity fault h => ?_⟩
  · rw [generate_eq_okUnless, Config.check_eq_okUnless, firstFailure?]
    cases c.fault? with
    | some fault => rfl
    | none =>
      cases ds.findSome? (declarationFailure? ·.plan) with
      | some failure => rfl
      | none => cases ds.findSome? (bodyFailure? ·.plan) <;> rfl
  · have hok : DeclarationOk d.plan ↔ ¬ (blank d.entity ∨ blank d.signatureOrDefault ∨
        '\n' ∈ (trimmed d.signatureOrDefault).toList) := by
      simp only [not_or, Bool.not_eq_true]
      exact ⟨fun h => ⟨h.entity, h.signature, h.line⟩, fun ⟨h1, h2, h3⟩ => ⟨h1, h2, h3⟩⟩
    rw [ne_eq, declarationFailure?_eq_none_iff, hok, Decidable.not_not]
  · rw [generate_eq_okUnless, okUnless_eq_error_iff] at h
    rcases firstFailure?_cases h with ⟨_, h⟩ | ⟨_, _, h⟩ | ⟨_, _, h, -⟩ <;> cases h
  · rw [generate_eq_okUnless, okUnless_eq_error_iff] at h
    rcases firstFailure?_cases h with ⟨_, h⟩ | ⟨_, _, h⟩ | ⟨_, _, h, hbody⟩
    · cases h
    · cases h
    · cases h; exact message_ne_of_inBody hbody

end Source

end CloudAccessors
