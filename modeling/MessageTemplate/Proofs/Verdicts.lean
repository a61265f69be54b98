import MessageTemplate.Proofs.Values

/-!
What checking reports, where failing is not a matter of state.

A placeholder is decided if it can be told beforehand whether its handler fails, and how, and if the handler
leaves the registry as it is; what text it gives may be another one each time (`Placeholder.IsDecided`).
Where all that tokens can name are decided, whether a token can be resolved is decided by the token alone:
handlers that ran before it, at whatever depth, make no difference. So each token has a verdict
(`World.verdict?`), and checking a message gives the verdicts on its tokens in order (`check_decided`).

Stateless placeholders are decided. With them, a verdict against a token and a value for it exclude one
another, and one of the two is always there (`World.verdict?_eq_none_iff`): what checking reports is what
expanding leaves as it is written.
-/

namespace MessageTemplate

variable {σ C : Type}

/-! ## Decided handlers -/

/-- What went wrong in an invocation, in words, if something did. -/
def Outcome.failure? (outcome : Outcome) : Option String :=
  match outcome.result with
  | .ok _ => none
  | .error message => some message

theorem Outcome.failure?_of_ok {outcome : Outcome} {value : String} (h : outcome.result = .ok value) :
    outcome.failure? = none := by
  rw [failure?, h]

theorem Outcome.failure?_of_error {outcome : Outcome} {failure : String}
    (h : outcome.result = .error failure) : outcome.failure? = some failure := by
  rw [failure?, h]

/-- Whether the handler fails, and how, is determined by the context and the parameters, and the registry
stays. -/
def Placeholder.IsDecided (p : Placeholder σ C) : Prop :=
  ∀ context params, ∃ failure?, ∀ world : World σ C,
    ((p.handler context params).run.run world).1.failure? = failure?
      ∧ ((p.handler context params).run.run world).2.registry = world.registry

/-- All placeholders that are admitted for some token in this context are decided. -/
def Registry.IsDecided (registry : Registry σ C) (context : Option C) : Prop :=
  ∀ t p, registry.Admits context t p → p.IsDecided

/-- What has one outcome has one way to fail or none. -/
theorem Placeholder.IsStateless.isDecided {p : Placeholder σ C} (h : p.IsStateless) : p.IsDecided := by
  intro context params
  obtain ⟨outcome, houtcome⟩ := h context params
  exact ⟨outcome.failure?, fun world =>
    ⟨congrArg Outcome.failure? (houtcome world).1, (houtcome world).2⟩⟩

theorem Registry.IsStateless.isDecided {registry : Registry σ C} {context : Option C}
    (h : registry.IsStateless context) : registry.IsDecided context :=
  fun t p hadmits => (h t p hadmits).isDecided

/-- In whatever world a decided handler fails, it fails in every other, and alike. -/
theorem Placeholder.IsDecided.failure?_eq {p : Placeholder σ C} (h : p.IsDecided)
    (context : Option C) (params : Option String) (world world' : World σ C) :
    ((p.handler context params).run.run world).1.failure?
      = ((p.handler context params).run.run world').1.failure? := by
  obtain ⟨failure?, hfailure⟩ := h context params
  rw [(hfailure world).1, (hfailure world').1]

/-- Performing an invocation of a decided placeholder fails as its handler does anywhere, and keeps the
registry. -/
theorem World.perform_decided {call : Invocation σ C} (h : call.placeholder.IsDecided)
    (world : World σ C) :
    (world.perform call).1.failure?
        = ((call.placeholder.handler call.context call.params).run.run world).1.failure?
      ∧ (world.perform call).2.registry = world.registry := by
  obtain ⟨failure?, hfailure⟩ := h call.context call.params
  exact ⟨h.failure?_eq _ _ _ _, (hfailure _).2⟩

/-! ## Verdicts -/

/-- Why a token stays as it is written when its turn comes in this world, if it does: the gates refuse
it, or its handler fails. -/
def World.refusal? (world : World σ C) (context : Option C) (t : Token) : Option Unresolved :=
  match world.registry.gate context t with
  | .error u => some u
  | .ok p =>
    match ((p.handler context t.params).run.run world).1.result with
    | .error failure => some ⟨Text.lowercase t.identifier, .handlerFailure failure⟩
    | .ok _ => none

/-- Why a token of a message stays as it is written if values are expanded so many levels deep. Without
levels, every token does. -/
def World.verdict? (world : World σ C) (context : Option C) (levels : Nat) (t : Token) :
    Option Unresolved :=
  if levels = 0 then some ⟨Text.lowercase t.identifier, .recursionLimit⟩
  else world.refusal? context t

section Refusal

variable {world : World σ C} {context : Option C} {t : Token} {p : Placeholder σ C}

theorem World.refusal?_refused {u : Unresolved} (h : world.registry.gate context t = .error u) :
    world.refusal? context t = some u := by
  rw [refusal?, h]

theorem World.refusal?_failed (h : world.registry.Admits context t p) {failure : String}
    (hfailure : ((p.handler context t.params).run.run world).1.result = .error failure) :
    world.refusal? context t = some ⟨Text.lowercase t.identifier, .handlerFailure failure⟩ := by
  rw [refusal?, h.gate_eq]
  simp only [hfailure]

theorem World.refusal?_value (h : world.registry.Admits context t p) {value : String}
    (hvalue : ((p.handler context t.params).run.run world).1.result = .ok value) :
    world.refusal? context t = none := by
  rw [refusal?, h.gate_eq]
  simp only [hvalue]

/-- Where a placeholder is admitted, only its handler's failure is against the token. -/
theorem World.refusal?_admitted (h : world.registry.Admits context t p) :
    world.refusal? context t
      = ((p.handler context t.params).run.run world).1.failure?.map fun failure =>
          ⟨Text.lowercase t.identifier, .handlerFailure failure⟩ := by
  cases hresult : ((p.handler context t.params).run.run world).1.result with
  | error failure =>
    rw [refusal?_failed h hresult, Outcome.failure?_of_error hresult, Option.map_some]
  | ok value => rw [refusal?_value h hresult, Outcome.failure?_of_ok hresult, Option.map_none]

/-- Nothing is against a token whose placeholder is admitted and gives a value. -/
theorem World.refusal?_eq_none_iff :
    world.refusal? context t = none
      ↔ ∃ p, world.registry.Admits context t p
        ∧ ∃ value, ((p.handler context t.params).run.run world).1.result = .ok value := by
  constructor
  · intro h
    cases hgate : world.registry.gate context t with
    | error u =>
      rw [refusal?_refused hgate] at h
      cases h
    | ok p =>
      have hadmits := Registry.admits_of_gate_eq hgate
      cases hresult : ((p.handler context t.params).run.run world).1.result with
      | error failure =>
        rw [refusal?_failed hadmits hresult] at h
        cases h
      | ok value => exact ⟨p, hadmits, value, hresult⟩
  · rintro ⟨p, hadmits, value, hvalue⟩
    exact refusal?_value hadmits hvalue

end Refusal

/-! ## Reports by verdicts -/

/-- What is reported of tokens by such verdicts, in the order of the tokens. -/
def reportBy (verdict? : Token → Option Unresolved) (found : List (Token × Span)) :
    List Diagnostic :=
  found.filterMap fun found => (verdict? found.1).map (Diagnostic.mk found.2)

theorem reportBy_of_some {verdict? : Token → Option Unresolved} {t : Token} {u : Unresolved}
    (h : verdict? t = some u) (span : Span) (rest : List (Token × Span)) :
    reportBy verdict? ((t, span) :: rest) = ⟨span, u⟩ :: reportBy verdict? rest :=
  List.filterMap_cons_some (congrArg (Option.map (Diagnostic.mk span)) h)

theorem reportBy_of_none {verdict? : Token → Option Unresolved} {t : Token}
    (h : verdict? t = none) (span : Span) (rest : List (Token × Span)) :
    reportBy verdict? ((t, span) :: rest) = reportBy verdict? rest :=
  List.filterMap_cons_none (congrArg (Option.map (Diagnostic.mk span)) h)

/-- Only the verdicts on the tokens that were found matter. -/
theorem reportBy_congr {verdict? verdict?' : Token → Option Unresolved}
    {found : List (Token × Span)} (h : ∀ t span, (t, span) ∈ found → verdict? t = verdict?' t) :
    reportBy verdict? found = reportBy verdict?' found := by
  refine List.filterMap_congr ?_
  rintro ⟨t, span⟩ hmem
  rw [h t span hmem]

/-- Reported are the tokens with a verdict against them. -/
theorem map_span_reportBy (verdict? : Token → Option Unresolved) (found : List (Token × Span)) :
    (reportBy verdict? found).map (·.span)
      = (found.filter fun found => (verdict? found.1).isSome).map (·.2) := by
  induction found with
  | nil => rfl
  | cons first rest ih =>
    obtain ⟨t, span⟩ := first
    cases h : verdict? t with
    | some u =>
      rw [reportBy_of_some h, List.map_cons, ih, List.filter_cons_of_pos (by rw [h]; rfl),
        List.map_cons]
    | none => rw [reportBy_of_none h, ih, List.filter_cons_of_neg (by rw [h]; exact Bool.noConfusion)]

section Decided

variable {context : Option C} {world : World σ C}

/-- The verdict is the registry's. -/
theorem World.refusal?_of_registry_eq (hdecided : world.registry.IsDecided context)
    {mid : World σ C} (hregistry : mid.registry = world.registry) (t : Token) :
    mid.refusal? context t = world.refusal? context t := by
  cases hgate : world.registry.gate context t with
  | error u =>
    have hgate' : mid.registry.gate context t = .error u := by rw [hregistry, hgate]
    rw [refusal?_refused hgate, refusal?_refused hgate']
  | ok p =>
    have hadmits := Registry.admits_of_gate_eq hgate
    have hadmits' : mid.registry.Admits context t p := by rwa [hregistry]
    rw [refusal?_admitted hadmits, refusal?_admitted hadmits',
      (hdecided t p hadmits).failure?_eq context t.params mid world]

theorem World.verdict?_of_registry_eq (hdecided : world.registry.IsDecided context)
    {mid : World σ C} (hregistry : mid.registry = world.registry) (levels : Nat) :
    mid.verdict? context levels = world.verdict? context levels := by
  funext t
  rw [World.verdict?, World.verdict?, World.refusal?_of_registry_eq hdecided hregistry]

/-- All that resolving a token can do where handlers are decided, by the verdict on it. The registry is the
same throughout. -/
theorem resolve_refusal (hdecided : world.registry.IsDecided context)
    (expandValue : String → Run σ C String) (levels : Nat) (t : Token) :
    (∃ u after, world.refusal? context t = some u
        ∧ (resolve expandValue context levels t).run world = (.error u, after)
        ∧ after.registry = world.registry)
      ∨ ∃ value mid, world.refusal? context t = none ∧ mid.registry = world.registry
        ∧ (resolve expandValue context levels t).run world
          = (.ok ((expandValue value).run mid).1, ((expandValue value).run mid).2) := by
  -- how the handler ends is how it would end without the record of its invocation
  have hperform : ∀ {p : Placeholder σ C}, world.registry.Admits context t p →
      (world.perform (world.invocation context levels t p)).1.failure?
          = ((p.handler context t.params).run.run world).1.failure?
        ∧ (world.perform (world.invocation context levels t p)).2.registry = world.registry :=
    fun {p} hadmits => World.perform_decided (hdecided t p hadmits) world
  rcases resolve_cases expandValue context levels t world with
    ⟨u, hgate, hrun⟩ | ⟨p, failure, hadmits, hcall, hrun⟩ | ⟨p, value, hadmits, hcall, hrun⟩
  · exact Or.inl ⟨u, world, World.refusal?_refused hgate, hrun, rfl⟩
  · refine Or.inl ⟨_, _, ?_, hrun, (hperform hadmits).2⟩
    rw [World.refusal?_admitted hadmits, ← (hperform hadmits).1, Outcome.failure?_of_error hcall,
      Option.map_some]
  · refine Or.inr ⟨value, _, ?_, (hperform hadmits).2, hrun⟩
    rw [World.refusal?_admitted hadmits, ← (hperform hadmits).1, Outcome.failure?_of_ok hcall,
      Option.map_none]

/-- Writing the segments keeps the registry if expanding the values does. -/
theorem substitute_decided {expandValue : String → Run σ C String} {levels : Nat}
    (hdecided : world.registry.IsDecided context)
    (hexpand : ∀ value (mid : World σ C), mid.registry = world.registry →
      ((expandValue value).run mid).2.registry = world.registry) (segments : List Segment) :
    ((substitute (resolve expandValue context levels) segments).run world).2.registry
      = world.registry := by
  induction segments generalizing world with
  | nil => rfl
  | cons segment rest ih =>
    have hrest : ∀ mid : World σ C, mid.registry = world.registry →
        ((substitute (resolve expandValue context levels) rest).run mid).2.registry
          = world.registry := by
      intro mid hmid
      rw [@ih mid (by rwa [hmid]) (by rwa [hmid]), hmid]
    cases segment with
    | text s =>
      rw [substitute_text]
      exact hrest world rfl
    | token t span =>
      rcases resolve_refusal hdecided expandValue levels t with
        ⟨u, after, -, hrun, hafter⟩ | ⟨value, mid, -, hmid, hrun⟩
      · rw [substitute_kept _ _ _ _ hrun]
        exact hrest after hafter
      · rw [substitute_replaced _ _ _ _ hrun]
        exact hrest _ (hexpand value mid hmid)

/-- Expanding a message keeps the registry. -/
theorem expand_decided (hdecided : world.registry.IsDecided context) (levels : Nat)
    (message : String) :
    ((expand context levels message).run world).2.registry = world.registry := by
  induction levels generalizing message world with
  | zero => rw [expand_zero, run_pure]
  | succ levels ih =>
    rw [expand_succ]
    refine substitute_decided hdecided (fun value mid hmid => ?_) (scan message)
    rw [@ih mid (by rwa [hmid]) value, hmid]

/-- The tokens among the segments are reported that have a verdict against them. The induction is on the
segments; each token keeps the registry, and with it the verdicts on the rest. -/
theorem diagnose_decided {expandValue : String → Run σ C String} {levels : Nat}
    (hdecided : world.registry.IsDecided context)
    (hexpand : ∀ value (mid : World σ C), mid.registry = world.registry →
      ((expandValue value).run mid).2.registry = world.registry) (segments : List Segment) :
    ((diagnose (resolve expandValue context levels) segments).run world).1
      = reportBy (world.refusal? context) (Segment.tokens segments) := by
  induction segments generalizing world with
  | nil => rfl
  | cons segment rest ih =>
    have hrest : ∀ mid : World σ C, mid.registry = world.registry →
        ((diagnose (resolve expandValue context levels) rest).run mid).1
          = reportBy (world.refusal? context) (Segment.tokens rest) := by
      intro mid hmid
      rw [@ih mid (by rwa [hmid]) (by rwa [hmid])]
      exact reportBy_congr fun t _ _ => World.refusal?_of_registry_eq hdecided hmid t
    cases segment with
    | text s =>
      rw [diagnose_text, Segment.tokens]
      exact hrest world rfl
    | token t span =>
      rcases resolve_refusal hdecided expandValue levels t with
        ⟨u, after, hsome, hrun, hafter⟩ | ⟨value, mid, hnone, hmid, hrun⟩
      · rw [diagnose_kept _ _ _ _ hrun, Segment.tokens, hrest after hafter, reportBy_of_some hsome]
      · rw [diagnose_replaced _ _ _ _ hrun, Segment.tokens, hrest _ (hexpand value mid hmid),
          reportBy_of_none hnone]

/-- Checking a message gives the verdicts on its tokens, and keeps the registry. -/
theorem check_decided (hdecided : world.registry.IsDecided context) (levels : Nat)
    (message : String) :
    ((check context levels message).run world).1
        = reportBy (world.verdict? context levels) (tokens message)
      ∧ ((check context levels message).run world).2.registry = world.registry := by
  refine ⟨?_, ?_⟩
  · cases levels with
    | zero =>
      rw [check_zero, run_pure, reportBy]
      exact (congrFun List.filterMap_eq_map' _).symm
    | succ levels =>
      rw [check_of_pos (Nat.succ_pos levels)]
      refine diagnose_decided hdecided (fun value mid hmid => ?_) (scan message)
      have hvalue := expandAt_add (σ := σ) context 1 levels value
      rw [Nat.add_comm 1 levels] at hvalue
      rw [Nat.succ_eq_add_one, hvalue, ← hmid]
      exact expand_decided (by rwa [hmid]) levels value
  · rw [check_world]
    exact expand_decided hdecided levels message

end Decided

/-! ## What stands in the place of tokens -/

namespace Values

/-- What stands for a token in a message that is expanded so many levels deep: its value, expanded one
level less. Nothing does if it has no value, or if there are no levels. -/
def replacement? (values : Values) : Nat → Token → Option String
  | 0, _ => none
  | levels + 1, t =>
    (values (Text.lowercase t.identifier) t.params).map (values.expand levels)

/-- What is written for a segment. A token that nothing stands for is left as it is written. -/
def written (values : Values) (levels : Nat) : Segment → String
  | .text s => s
  | .token t _ => (values.replacement? levels t).getD t.raw

theorem fill_eq_join (values : Values) (levels : Nat) (segments : List Segment) :
    values.fill (values.expand levels) segments
      = String.join (segments.map (values.written (levels + 1))) := by
  induction segments with
  | nil => exact String.join_nil.symm
  | cons segment rest ih =>
    rw [List.map_cons, String.join_cons]
    cases segment with
    | text s => rw [fill, ih, written]
    | token t span =>
      rw [fill, ih, written, replacement?]
      cases values (Text.lowercase t.identifier) t.params with
      | none => rfl
      | some value => rfl

/-- A message is expanded segment by segment. -/
theorem expand_eq_join (values : Values) (levels : Nat) (message : String) :
    values.expand levels message = String.join ((scan message).map (values.written levels)) := by
  cases levels with
  | zero =>
    have hraw : values.written 0 = Segment.raw := by
      funext segment
      cases segment with
      | text s => rfl
      | token t span => rfl
    rw [hraw, ← render, render_scan, expand]
  | succ levels => rw [expand, fill_eq_join]

end Values

/-- A verdict against a token is that nothing stands for it. -/
theorem World.verdict?_eq_none_iff {world : World σ C} {context : Option C} {t : Token}
    (ht : t.WellFormed) (levels : Nat) :
    world.verdict? context levels t = none
      ↔ ((world.value? context).replacement? levels t).isSome = true := by
  cases levels with
  | zero => simp [World.verdict?, Values.replacement?]
  | succ levels =>
    rw [World.verdict?, if_neg (Nat.succ_ne_zero levels), World.refusal?_eq_none_iff,
      Values.replacement?, Option.isSome_map, Option.isSome_iff_exists]
    simp only [World.value?_eq_some_iff, Registry.admits_lowercase_iff ht]
    constructor
    · rintro ⟨p, hadmits, value, hvalue⟩
      exact ⟨value, p, hadmits, hvalue⟩
    · rintro ⟨value, p, hadmits, hvalue⟩
      exact ⟨p, hadmits, value, hvalue⟩

end MessageTemplate
