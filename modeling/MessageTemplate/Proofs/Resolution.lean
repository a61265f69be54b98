import MessageTemplate.Expansion
import MessageTemplate.Proofs.LowercaseTwice
import MessageTemplate.Proofs.Scripts

/-!
One step of an expansion, said once for each function.

Expanding a message and checking it are two loops over its segments with the same step: resolving a
token. What the step can do is said here, as equations over the world in which it is taken. A token
is refused by the gates and nothing happens, or its placeholder is invoked, which writes the
invocation down and runs the handler; then either the handler fails, or its value is expanded. Later
proofs follow these equations and do not open the loops again.
-/

namespace MessageTemplate

variable {σ C : Type}

/-! ## Gates -/

/-- Looking up lowers an identifier by itself, so one that is in lower case already finds the same. -/
theorem Registry.lookup?_lowercase (registry : Registry σ C) (identifier : String) :
    registry.lookup? (Text.lowercase identifier) = registry.lookup? identifier := by
  rw [lookup?, lookup?, Text.lowercase_lowercase]

/-- A token that names nothing is unknown. -/
theorem Registry.gate_of_none {registry : Registry σ C} {t : Token}
    (h : registry.lookup? t.identifier = none) (context : Option C) :
    registry.gate context t = .error ⟨Text.lowercase t.identifier, .unknownIdentifier⟩ := by
  rw [gate]
  simp only [lookup?_lowercase, h]

/-- A token that names a placeholder is asked for a context first, and then for its parameters. -/
theorem Registry.gate_of_some {registry : Registry σ C} {t : Token} {p : Placeholder σ C}
    (h : registry.lookup? t.identifier = some p) (context : Option C) :
    registry.gate context t
      = if p.requiresContext && context.isNone then
          .error ⟨Text.lowercase t.identifier, .missingRequiredContext⟩
        else if t.params.isSome && !p.supportsParameters then
          .error ⟨Text.lowercase t.identifier, .unsupportedParameters⟩
        else .ok p := by
  rw [gate]
  simp only [lookup?_lowercase, h]

/-- The placeholder is the one that the token names, and its gates let the token pass. -/
structure Registry.Admits (registry : Registry σ C) (context : Option C) (t : Token)
    (p : Placeholder σ C) : Prop where
  stored : registry.lookup? t.identifier = some p
  context_present : p.requiresContext = true → context.isSome = true
  params_supported : t.params.isSome = true → p.supportsParameters = true

theorem Registry.Admits.gate_eq {registry : Registry σ C} {context : Option C} {t : Token}
    {p : Placeholder σ C} (h : registry.Admits context t p) : registry.gate context t = .ok p := by
  have hcontext : (p.requiresContext && context.isNone) = false := by
    cases hreq : p.requiresContext with
    | false => rfl
    | true => rw [Bool.true_and, Option.isNone_eq_false_iff, h.context_present hreq]
  have hparams : (t.params.isSome && !p.supportsParameters) = false := by
    cases hsome : t.params.isSome with
    | false => rfl
    | true => rw [Bool.true_and, h.params_supported hsome, Bool.not_true]
  rw [Registry.gate_of_some h.stored]
  simp only [hcontext, hparams, Bool.false_eq_true, if_false]

theorem Registry.admits_of_gate_eq {registry : Registry σ C} {context : Option C} {t : Token}
    {p : Placeholder σ C} (h : registry.gate context t = .ok p) : registry.Admits context t p := by
  cases hlookup : registry.lookup? t.identifier with
  | none =>
    rw [Registry.gate_of_none hlookup] at h
    cases h
  | some q =>
    rw [Registry.gate_of_some hlookup] at h
    split at h
    · cases h
    next hcontext =>
      split at h
      · cases h
      next hparams =>
        obtain rfl : q = p := Except.ok.inj h
        refine ⟨hlookup, fun hreq => ?_, fun hsome => ?_⟩
        · rwa [hreq, Bool.true_and, Bool.not_eq_true, Option.isNone_eq_false_iff] at hcontext
        · rwa [hsome, Bool.true_and, Bool.not_eq_true, Bool.not_eq_false'] at hparams

/-- At most one placeholder is admitted for a token. -/
theorem Registry.Admits.unique {registry : Registry σ C} {context : Option C} {t : Token}
    {p p' : Placeholder σ C} (h : registry.Admits context t p) (h' : registry.Admits context t p') :
    p = p' :=
  Option.some.inj (h.stored.symm.trans h'.stored)

/-- The gates look at the placeholder and the parameters. A placeholder that they let pass is admitted
wherever it is stored. -/
theorem Registry.Admits.of_stored {registry registry' : Registry σ C} {context : Option C}
    {t t' : Token} {p : Placeholder σ C} (h : registry.Admits context t p)
    (hstored : registry'.lookup? t'.identifier = some p) (hparams : t'.params = t.params) :
    registry'.Admits context t' p where
  stored := hstored
  context_present := h.context_present
  params_supported := by
    rw [hparams]
    exact h.params_supported

/-- Tokens with the same parameters that name the same placeholder are answered alike. -/
theorem Registry.admits_congr {registry registry' : Registry σ C} {t t' : Token}
    (hlookup : registry.lookup? t.identifier = registry'.lookup? t'.identifier)
    (hparams : t'.params = t.params) (context : Option C) (p : Placeholder σ C) :
    registry.Admits context t p ↔ registry'.Admits context t' p := by
  constructor
  · intro h
    exact h.of_stored (hlookup ▸ h.stored) hparams
  · intro h
    exact h.of_stored (hlookup.trans h.stored) hparams.symm

/-- A token that the gates refuse has no placeholder that would be admitted. -/
theorem Registry.not_admits_of_gate_error {registry : Registry σ C} {context : Option C} {t : Token}
    {u : Unresolved} (h : registry.gate context t = .error u) (p : Placeholder σ C) :
    ¬ registry.Admits context t p := by
  intro hadmits
  rw [hadmits.gate_eq] at h
  cases h

/-- What is wrong with a token is said of the identifier that was looked up. -/
theorem Registry.identifier_of_gate_error {registry : Registry σ C} {context : Option C} {t : Token}
    {u : Unresolved} (h : registry.gate context t = .error u) :
    u.identifier = Text.lowercase t.identifier := by
  rw [Registry.gate] at h
  split at h
  · exact congrArg Unresolved.identifier (Except.error.inj h).symm
  · split at h
    · exact congrArg Unresolved.identifier (Except.error.inj h).symm
    · split at h
      · exact congrArg Unresolved.identifier (Except.error.inj h).symm
      · cases h

/-! ## Invocations -/

/-- The invocation of a placeholder for a token, whose value may be expanded by so many levels. -/
def World.invocation (world : World σ C) (context : Option C) (levels : Nat) (t : Token)
    (p : Placeholder σ C) : Invocation σ C where
  identifier := Text.lowercase t.identifier
  placeholder := p
  context := context
  params := t.params
  levels := levels
  registry := world.registry

/-- The world with an invocation written down. -/
def World.noting (world : World σ C) (call : Invocation σ C) : World σ C :=
  { world with invocations := world.invocations.push call }

/-- Writes an invocation down and carries out what the handler does, given what was written down. -/
def World.perform (world : World σ C) (call : Invocation σ C) : Outcome × World σ C :=
  (call.placeholder.handler call.context call.params).run.run
    { world with invocations := world.invocations.push call }

/-- Invoking a placeholder performs its invocation. -/
theorem invoke_run (context : Option C) (levels : Nat) (t : Token) (p : Placeholder σ C)
    (world : World σ C) :
    (invoke context levels t p).run world
      = ((world.perform (world.invocation context levels t p)).1.result,
        (world.perform (world.invocation context levels t p)).2) := rfl

/-- Performing an invocation adds it to the record, and nothing else. -/
theorem invocations_perform (world : World σ C) (call : Invocation σ C) :
    (world.perform call).2.invocations = world.invocations.push call :=
  Script.invocations_run _ _

/-! ## Resolving a token -/

section Resolve

variable {expandValue : String → Run σ C String} {context : Option C} {levels : Nat} {t : Token}
  {p : Placeholder σ C} {world : World σ C}

/-- A token that the gates refuse changes nothing. -/
theorem resolve_refused {u : Unresolved} (h : world.registry.gate context t = .error u) :
    (resolve expandValue context levels t).run world = (.error u, world) := by
  rw [resolve, run_bind, run_get]
  simp only [h]
  rfl

/-- A handler that fails leaves what it did, and the token stays. -/
theorem resolve_failed (h : world.registry.Admits context t p) {failure : String}
    (hcall : (world.perform (world.invocation context levels t p)).1.result = .error failure) :
    (resolve expandValue context levels t).run world
      = (.error ⟨Text.lowercase t.identifier, .handlerFailure failure⟩,
        (world.perform (world.invocation context levels t p)).2) := by
  rw [resolve, run_bind, run_get]
  simp only [h.gate_eq]
  rw [run_bind, invoke_run]
  simp only [hcall]
  rfl

/-- The value of a handler is expanded in the world that the handler leaves. -/
theorem resolve_value (h : world.registry.Admits context t p) {value : String}
    (hcall : (world.perform (world.invocation context levels t p)).1.result = .ok value) :
    (resolve expandValue context levels t).run world
      = (.ok ((expandValue value).run (world.perform (world.invocation context levels t p)).2).1,
        ((expandValue value).run (world.perform (world.invocation context levels t p)).2).2) := by
  rw [resolve, run_bind, run_get]
  simp only [h.gate_eq]
  rw [run_bind, invoke_run]
  simp only [hcall]
  rfl

/-- A constant is invoked for a token without parameters, which is written down, and its value is
expanded. -/
theorem resolve_constant {name value : String}
    (hlookup : world.registry.lookup? t.identifier = some (.constant name value))
    (hparams : t.params = none) :
    (resolve expandValue context levels t).run world
      = (.ok ((expandValue value).run
            (world.noting (world.invocation context levels t (.constant name value)))).1,
          ((expandValue value).run
            (world.noting (world.invocation context levels t (.constant name value)))).2) := by
  have hadmits : world.registry.Admits context t (.constant name value) :=
    { stored := hlookup
      context_present := fun hrequires => nomatch hrequires
      params_supported := fun hsome => by rw [hparams] at hsome; exact nomatch hsome }
  exact resolve_value hadmits rfl

/-- All that resolving a token can do: the gates refuse it, or its placeholder is invoked and fails,
or the value is expanded. -/
theorem resolve_cases (expandValue : String → Run σ C String) (context : Option C) (levels : Nat)
    (t : Token) (world : World σ C) :
    (∃ u, world.registry.gate context t = .error u
      ∧ (resolve expandValue context levels t).run world = (.error u, world))
    ∨ (∃ p failure, world.registry.Admits context t p
      ∧ (world.perform (world.invocation context levels t p)).1.result = .error failure
      ∧ (resolve expandValue context levels t).run world
        = (.error ⟨Text.lowercase t.identifier, .handlerFailure failure⟩,
          (world.perform (world.invocation context levels t p)).2))
    ∨ (∃ p value, world.registry.Admits context t p
      ∧ (world.perform (world.invocation context levels t p)).1.result = .ok value
      ∧ (resolve expandValue context levels t).run world
        = (.ok ((expandValue value).run (world.perform (world.invocation context levels t p)).2).1,
          ((expandValue value).run (world.perform (world.invocation context levels t p)).2).2)) := by
  cases hgate : world.registry.gate context t with
  | error u => exact Or.inl ⟨u, rfl, resolve_refused hgate⟩
  | ok p =>
    have hadmits : world.registry.Admits context t p := Registry.admits_of_gate_eq hgate
    cases hcall : (world.perform (world.invocation context levels t p)).1.result with
    | error failure =>
      exact Or.inr (Or.inl ⟨p, failure, hadmits, hcall, resolve_failed hadmits hcall⟩)
    | ok value => exact Or.inr (Or.inr ⟨p, value, hadmits, hcall, resolve_value hadmits hcall⟩)

/-- A token that stays is reported under the identifier that was looked up. -/
theorem identifier_of_resolve_error {u : Unresolved}
    (h : ((resolve expandValue context levels t).run world).1 = .error u) :
    u.identifier = Text.lowercase t.identifier := by
  rcases resolve_cases expandValue context levels t world with
    ⟨u', hgate, hrun⟩ | ⟨p, failure, -, -, hrun⟩ | ⟨p, value, -, -, hrun⟩
  · rw [hrun] at h
    obtain rfl : u' = u := Except.error.inj h
    exact Registry.identifier_of_gate_error hgate
  · rw [hrun] at h
    exact congrArg Unresolved.identifier (Except.error.inj h).symm
  · rw [hrun] at h
    cases h

end Resolve

/-! ## The two loops over segments -/

section Loops

variable (resolveToken : Token → Run σ C (Except Unresolved String)) (rest : List Segment)
  (world : World σ C)

theorem substitute_text (s : String) :
    (substitute resolveToken (.text s :: rest)).run world
      = (s ++ ((substitute resolveToken rest).run world).1,
        ((substitute resolveToken rest).run world).2) := rfl

theorem substitute_kept {t : Token} (span : Span) {u : Unresolved} {mid : World σ C}
    (h : (resolveToken t).run world = (.error u, mid)) :
    (substitute resolveToken (.token t span :: rest)).run world
      = (t.raw ++ ((substitute resolveToken rest).run mid).1,
        ((substitute resolveToken rest).run mid).2) := by
  rw [substitute, run_bind, h]
  rfl

theorem substitute_replaced {t : Token} (span : Span) {value : String} {mid : World σ C}
    (h : (resolveToken t).run world = (.ok value, mid)) :
    (substitute resolveToken (.token t span :: rest)).run world
      = (value ++ ((substitute resolveToken rest).run mid).1,
        ((substitute resolveToken rest).run mid).2) := by
  rw [substitute, run_bind, h]
  rfl

theorem diagnose_text (s : String) :
    diagnose resolveToken (.text s :: rest) = diagnose resolveToken rest := rfl

theorem diagnose_kept {t : Token} (span : Span) {u : Unresolved} {mid : World σ C}
    (h : (resolveToken t).run world = (.error u, mid)) :
    (diagnose resolveToken (.token t span :: rest)).run world
      = (⟨span, u⟩ :: ((diagnose resolveToken rest).run mid).1,
        ((diagnose resolveToken rest).run mid).2) := by
  rw [diagnose, run_bind, h]
  rfl

theorem diagnose_replaced {t : Token} (span : Span) {value : String} {mid : World σ C}
    (h : (resolveToken t).run world = (.ok value, mid)) :
    (diagnose resolveToken (.token t span :: rest)).run world
      = (diagnose resolveToken rest).run mid := by
  rw [diagnose, run_bind, h]

end Loops

/-- Both loops take the same steps, so they leave the same world. -/
theorem diagnose_world (resolveToken : Token → Run σ C (Except Unresolved String))
    (segments : List Segment) (world : World σ C) :
    ((diagnose resolveToken segments).run world).2
      = ((substitute resolveToken segments).run world).2 := by
  induction segments generalizing world with
  | nil => rfl
  | cons segment rest ih =>
    cases segment with
    | text s => rw [diagnose_text, substitute_text, ih]
    | token t span =>
      rcases hstep : (resolveToken t).run world with ⟨result, mid⟩
      cases result with
      | error u => rw [diagnose_kept _ _ _ _ hstep, substitute_kept _ _ _ _ hstep, ih]
      | ok value => rw [diagnose_replaced _ _ _ _ hstep, substitute_replaced _ _ _ _ hstep, ih]

/-! ## Levels -/

/-- The step that resolves the tokens of a message that is reached at a depth. -/
abbrev resolveAt (context : Option C) (maxDepth depth : Nat) :
    Token → Run σ C (Except Unresolved String) :=
  resolve (expandAt context maxDepth (depth + 1)) context (maxDepth - (depth + 1))

/-- Below the bound a message is substituted, and its values are expanded one level deeper. -/
theorem expandAt_of_lt {context : Option C} {maxDepth depth : Nat} (h : depth < maxDepth)
    (message : String) :
    (expandAt context maxDepth depth message : Run σ C String)
      = substitute (resolveAt context maxDepth depth) (scan message) := by
  rw [expandAt, if_pos h]

/-- At the bound a message stays as it is. -/
theorem expandAt_of_le {context : Option C} {maxDepth depth : Nat} (h : maxDepth ≤ depth)
    (message : String) :
    (expandAt context maxDepth depth message : Run σ C String) = pure message := by
  rw [expandAt, if_neg (Nat.not_lt.mpr h)]

/-- Without a level to expand, a message stays as it is and nothing happens. -/
theorem expand_zero (context : Option C) (message : String) :
    (expand context 0 message : Run σ C String) = pure message :=
  expandAt_of_le (Nat.le_refl 0) message

/-- With a level to expand, a message is substituted. -/
theorem expand_of_pos {context : Option C} {maxDepth : Nat} (h : 0 < maxDepth) (message : String) :
    (expand context maxDepth message : Run σ C String)
      = substitute (resolveAt context maxDepth 0) (scan message) :=
  expandAt_of_lt h message

/-- Without a level to expand, every token is beyond the bound. -/
theorem check_zero (context : Option C) (message : String) :
    (check context 0 message : Run σ C (List Diagnostic))
      = pure ((tokens message).map fun (t, span) =>
          ⟨span, Text.lowercase t.identifier, .recursionLimit⟩) := by
  rw [check, if_pos rfl]

/-- With a level to expand, the segments are gone through with the step that substitutes them. -/
theorem check_of_pos {context : Option C} {maxDepth : Nat} (h : 0 < maxDepth) (message : String) :
    (check context maxDepth message : Run σ C (List Diagnostic))
      = diagnose (resolveAt context maxDepth 0) (scan message) := by
  rw [check, if_neg (Nat.ne_of_gt h)]

/-- Checking a message leaves the world that expanding it leaves. -/
theorem check_world (context : Option C) (maxDepth : Nat) (message : String) (world : World σ C) :
    ((check context maxDepth message).run world).2
      = ((expand context maxDepth message).run world).2 := by
  rcases Nat.eq_zero_or_pos maxDepth with rfl | hpos
  · rw [check_zero, expand_zero]
    rfl
  · rw [check_of_pos hpos, expand_of_pos hpos, diagnose_world]

end MessageTemplate
