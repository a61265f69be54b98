import MessageTemplate.Proofs.Levels
import MessageTemplate.Proofs.Lowercase
import MessageTemplate.Proofs.Registrations
import MessageTemplate.Proofs.Segmentation

/-!
What tokens stand for, where handlers keep no state.

A stateless handler gives the same outcome whenever it is asked, and leaves the registry as it is. Then
each identifier has one value for the parameters of its token, or none: no value if it is unknown, if a
gate refuses it, or if its handler fails or crashes (`World.value?`). With the values fixed, expanding a
message is a function of texts (`Values.expand`) in which no world occurs, and the expander computes it
(`expand_stateless`). So two worlds in which identifiers have the same values expand every message to
the same text, whatever else they hold; that a placeholder is missing, and that it never gives a value,
is the same.
-/

namespace MessageTemplate

variable {σ C : Type}

/-! ## Stateless handlers -/

/-- The outcome is determined by the context and the parameters, and the registry stays. -/
def Placeholder.IsStateless (p : Placeholder σ C) : Prop :=
  ∀ context params, ∃ outcome, ∀ world : World σ C,
    ((p.handler context params).run.run world).1 = outcome
      ∧ ((p.handler context params).run.run world).2.registry = world.registry

/-- All placeholders that are admitted for some token in this context are stateless. -/
def Registry.IsStateless (registry : Registry σ C) (context : Option C) : Prop :=
  ∀ t p, registry.Admits context t p → p.IsStateless

/-- A handler that ends at once is stateless. -/
theorem Placeholder.isStateless_of_done {p : Placeholder σ C}
    (h : ∀ context params, ∃ outcome, p.handler context params = .done outcome) :
    p.IsStateless := by
  intro context params
  obtain ⟨outcome, houtcome⟩ := h context params
  refine ⟨outcome, fun world => ?_⟩
  rw [houtcome]
  exact ⟨rfl, rfl⟩

theorem Placeholder.isStateless_constant (identifier value : String) :
    (Placeholder.constant identifier value : Placeholder σ C).IsStateless :=
  isStateless_of_done fun _ _ => ⟨.value value, rfl⟩

/-- A registry of stateless placeholders. -/
theorem Registry.isStateless_of_forall {registry : Registry σ C}
    (h : ∀ entry ∈ registry.table.entries, entry.2.IsStateless) (context : Option C) :
    registry.IsStateless context :=
  fun _ _ hadmits => h _ (Table.mem_entries_of_get?_eq hadmits.stored)

/-- What a stateless handler does in one world, it does in every other. -/
theorem Placeholder.IsStateless.outcome_eq {p : Placeholder σ C} (h : p.IsStateless)
    (context : Option C) (params : Option String) (world world' : World σ C) :
    ((p.handler context params).run.run world).1 = ((p.handler context params).run.run world').1 := by
  obtain ⟨outcome, houtcome⟩ := h context params
  rw [(houtcome world).1, (houtcome world').1]

/-- Performing an invocation of a stateless placeholder keeps the registry, and its outcome is the one
that the handler has anywhere. -/
theorem World.perform_stateless {call : Invocation σ C} (h : call.placeholder.IsStateless)
    (world : World σ C) :
    (world.perform call).1
        = ((call.placeholder.handler call.context call.params).run.run world).1
      ∧ (world.perform call).2.registry = world.registry := by
  obtain ⟨outcome, houtcome⟩ := h call.context call.params
  exact ⟨h.outcome_eq _ _ _ _, (houtcome _).2⟩

/-! ## Values -/

/-- What identifiers in lower case stand for, by the parameters of their token. -/
abbrev Values := String → Option String → Option String

/-- The value that a token with this identifier and these parameters has in the world: what the handler
gives, if the identifier is registered, the gates let the token pass, and the handler succeeds. -/
def World.value? (world : World σ C) (context : Option C) : Values := fun identifier params =>
  match world.registry.gate context ⟨identifier, params⟩ with
  | .error _ => none
  | .ok p => ((p.handler context params).run.run world).1.result.toOption

theorem World.value?_eq_some_iff {world : World σ C} {context : Option C} {identifier : String}
    {params : Option String} {value : String} :
    world.value? context identifier params = some value
      ↔ ∃ p, world.registry.Admits context ⟨identifier, params⟩ p
        ∧ ((p.handler context params).run.run world).1.result = .ok value := by
  rw [World.value?]
  cases hgate : world.registry.gate context ⟨identifier, params⟩ with
  | error u =>
    constructor
    · intro h
      cases h
    · rintro ⟨p, hadmits, -⟩
      exact absurd hadmits (Registry.not_admits_of_gate_error hgate p)
  | ok p =>
    have hadmits := Registry.admits_of_gate_eq hgate
    constructor
    · intro h
      refine ⟨p, hadmits, ?_⟩
      cases hresult : ((p.handler context params).run.run world).1.result with
      | error failure =>
        simp only [hresult] at h
        cases h
      | ok found =>
        simp only [hresult] at h
        exact congrArg Except.ok (Option.some.inj h)
    · rintro ⟨q, hadmits', hresult⟩
      obtain rfl := hadmits.unique hadmits'
      simp only [hresult]
      rfl

/-- A constant has its value where a token comes without parameters. -/
theorem World.value?_constant {world : World σ C} {identifier name value : String}
    (h : world.registry.lookup? identifier = some (.constant name value)) (context : Option C)
    (params : Option String) :
    world.value? context identifier params = if params.isSome then none else some value := by
  rw [World.value?, Registry.gate_of_some (t := ⟨identifier, params⟩) h]
  cases params with
  | none => rfl
  | some text => rfl

/-- Two worlds that admit the same placeholders have the same values, if these are stateless. -/
theorem World.value?_congr {world world' : World σ C} {context : Option C}
    (hstateless : world.registry.IsStateless context)
    (h : ∀ t p, world.registry.Admits context t p ↔ world'.registry.Admits context t p) :
    world.value? context = world'.value? context := by
  funext identifier params
  refine Option.ext fun value => ?_
  rw [World.value?_eq_some_iff, World.value?_eq_some_iff]
  refine exists_congr fun p => ?_
  rw [← h]
  refine and_congr_right fun hadmits => ?_
  rw [(hstateless _ _ hadmits).outcome_eq context params world world']

/-- The values are those of the registry. -/
theorem World.value?_of_registry_eq {world world' : World σ C} {context : Option C}
    (hstateless : world.registry.IsStateless context)
    (hregistry : world'.registry = world.registry) :
    world'.value? context = world.value? context :=
  (World.value?_congr hstateless fun t p => by rw [hregistry]).symm

/-- A token is looked up under its identifier in lower case. -/
theorem Registry.admits_lowercase_iff {registry : Registry σ C} {context : Option C} {t : Token}
    {p : Placeholder σ C} (ht : t.WellFormed) :
    registry.Admits context ⟨Text.lowercase t.identifier, t.params⟩ p
      ↔ registry.Admits context t p := by
  apply Registry.admits_congr
  · rw [Registry.lookup?, Registry.lookup?, ht.isName.lowercase.2]
  · rfl

/-! ## Expansion as a function of texts -/

namespace Values

/-- The segments written with what comes of its value in the place of every token that has one. -/
def fill (values : Values) (expandValue : String → String) : List Segment → String
  | [] => ""
  | .text s :: rest => s ++ values.fill expandValue rest
  | .token t _ :: rest =>
    (values (Text.lowercase t.identifier) t.params).elim t.raw expandValue
      ++ values.fill expandValue rest

/-- A message expanded by the values, so many levels deep. -/
def expand (values : Values) : Nat → String → String
  | 0, message => message
  | levels + 1, message => values.fill (values.expand levels) (scan message)

/-- Only the values of names in lower case matter to segments with well-formed tokens. -/
theorem fill_congr {values values' : Values} {expandValue expandValue' : String → String}
    (h : ∀ identifier, IsLowerName identifier.toList → ∀ params,
      values identifier params = values' identifier params)
    (hexpand : ∀ value, expandValue value = expandValue' value) {segments : List Segment}
    (hsegments : ∀ t span, .token t span ∈ segments → t.WellFormed) :
    values.fill expandValue segments = values'.fill expandValue' segments := by
  obtain rfl : expandValue = expandValue' := funext hexpand
  induction segments with
  | nil => rfl
  | cons segment rest ih =>
    have hrest := ih fun t span hmem => hsegments t span (List.mem_cons_of_mem _ hmem)
    cases segment with
    | text s => rw [fill, fill, hrest]
    | token t span =>
      have ht : t.WellFormed := hsegments t span List.mem_cons_self
      rw [fill, fill, hrest, h _ ht.isName.isLowerName_lowercase]

/-- Only the values of names in lower case matter to a message. -/
theorem expand_congr {values values' : Values}
    (h : ∀ identifier, IsLowerName identifier.toList → ∀ params,
      values identifier params = values' identifier params) (levels : Nat) (message : String) :
    values.expand levels message = values'.expand levels message := by
  induction levels generalizing message with
  | zero => rfl
  | succ levels ih =>
    exact fill_congr h ih fun t span hmem =>
      wellFormed_of_mem_tokens (mem_segment_tokens_iff.mpr hmem)

end Values

section Stateless

variable {context : Option C}

/-- All that resolving a token can do where handlers are stateless: either the token has no value and
stays, or its value is expanded. The registry is the same throughout. -/
theorem resolve_stateless {world : World σ C} (hstateless : world.registry.IsStateless context)
    {t : Token} (ht : t.WellFormed) (expandValue : String → Run σ C String) (levels : Nat) :
    (world.value? context (Text.lowercase t.identifier) t.params = none
        ∧ ∃ u after, (resolve expandValue context levels t).run world = (.error u, after)
          ∧ after.registry = world.registry)
      ∨ ∃ value mid, world.value? context (Text.lowercase t.identifier) t.params = some value
        ∧ mid.registry = world.registry
        ∧ (resolve expandValue context levels t).run world
          = (.ok ((expandValue value).run mid).1, ((expandValue value).run mid).2) := by
  -- whoever has a value for the token is the one that is admitted
  have hvalue : ∀ {p : Placeholder σ C} {value : String}, world.registry.Admits context t p →
      (world.value? context (Text.lowercase t.identifier) t.params = some value
        ↔ (world.perform (world.invocation context levels t p)).1.result = .ok value) := by
    intro p value hadmits
    rw [World.value?_eq_some_iff, (World.perform_stateless (hstateless t p hadmits) world).1]
    constructor
    · rintro ⟨q, hadmits', hresult⟩
      obtain rfl := hadmits.unique ((Registry.admits_lowercase_iff ht).mp hadmits')
      exact hresult
    · intro hresult
      exact ⟨p, (Registry.admits_lowercase_iff ht).mpr hadmits, hresult⟩
  rcases resolve_cases expandValue context levels t world with
    ⟨u, hgate, hrun⟩ | ⟨p, failure, hadmits, hcall, hrun⟩ | ⟨p, value, hadmits, hcall, hrun⟩
  · refine Or.inl ⟨?_, u, world, hrun, rfl⟩
    rw [Option.eq_none_iff_forall_not_mem]
    intro value hmem
    obtain ⟨p, hadmits, -⟩ := World.value?_eq_some_iff.mp hmem
    exact Registry.not_admits_of_gate_error hgate p ((Registry.admits_lowercase_iff ht).mp hadmits)
  · refine Or.inl ⟨?_, _, _, hrun, (World.perform_stateless (hstateless t p hadmits) world).2⟩
    rw [Option.eq_none_iff_forall_not_mem]
    intro value hmem
    have hok := (hvalue hadmits).mp hmem
    rw [hcall] at hok
    cases hok
  · exact Or.inr ⟨value, _, (hvalue hadmits).mpr hcall,
      (World.perform_stateless (hstateless t p hadmits) world).2, hrun⟩

/-- Segments are filled with the values, if values are expanded as `expanded` says. The induction is on
the segments; each token keeps the registry, and with it the values for the rest. -/
theorem substitute_stateless {expandValue : String → Run σ C String} {expanded : String → String}
    {levels : Nat} {world : World σ C} (hstateless : world.registry.IsStateless context)
    (hexpand : ∀ value (mid : World σ C), mid.registry = world.registry →
      ((expandValue value).run mid).1 = expanded value
        ∧ ((expandValue value).run mid).2.registry = world.registry)
    {segments : List Segment} (hsegments : ∀ t span, .token t span ∈ segments → t.WellFormed) :
    ((substitute (resolve expandValue context levels) segments).run world).1
        = Values.fill (world.value? context) expanded segments
      ∧ ((substitute (resolve expandValue context levels) segments).run world).2.registry
        = world.registry := by
  induction segments generalizing world with
  | nil => exact ⟨rfl, rfl⟩
  | cons segment rest ih =>
    have hwf : ∀ t span, .token t span ∈ rest → t.WellFormed :=
      fun t span hmem => hsegments t span (List.mem_cons_of_mem _ hmem)
    have hrest : ∀ mid : World σ C, mid.registry = world.registry →
        ((substitute (resolve expandValue context levels) rest).run mid).1
            = Values.fill (world.value? context) expanded rest
          ∧ ((substitute (resolve expandValue context levels) rest).run mid).2.registry
            = world.registry := by
      intro mid hmid
      have hmid' := @ih mid (by rwa [hmid]) (by rwa [hmid]) hwf
      rwa [World.value?_of_registry_eq hstateless hmid, hmid] at hmid'
    cases segment with
    | text s =>
      obtain ⟨hout, hregistry⟩ := hrest world rfl
      rw [substitute_text, Values.fill, hout]
      exact ⟨rfl, hregistry⟩
    | token t span =>
      have ht : t.WellFormed := hsegments t span List.mem_cons_self
      rcases resolve_stateless hstateless ht expandValue levels with
        ⟨hnone, u, after, hrun, hafter⟩ | ⟨value, mid, hsome, hmid, hrun⟩
      · obtain ⟨hout, hregistry⟩ := hrest after hafter
        rw [substitute_kept _ _ _ _ hrun, Values.fill, hnone, hout]
        exact ⟨rfl, hregistry⟩
      · obtain ⟨hvalue, hkept⟩ := hexpand value mid hmid
        obtain ⟨hout, hregistry⟩ := hrest _ hkept
        rw [substitute_replaced _ _ _ _ hrun, Values.fill, hsome, hout, hvalue]
        exact ⟨rfl, hregistry⟩

/-- Where handlers are stateless, a message is expanded by the values, and the registry stays. -/
theorem expand_stateless {world : World σ C} (hstateless : world.registry.IsStateless context)
    (levels : Nat) (message : String) :
    ((expand context levels message).run world).1
        = Values.expand (world.value? context) levels message
      ∧ ((expand context levels message).run world).2.registry = world.registry := by
  induction levels generalizing message world with
  | zero =>
    rw [expand_zero, run_pure]
    exact ⟨rfl, rfl⟩
  | succ levels ih =>
    rw [expand_succ, Values.expand]
    refine substitute_stateless hstateless (fun value mid hmid => ?_) fun t span hmem =>
      wellFormed_of_mem_tokens (mem_segment_tokens_iff.mpr hmem)
    have hvalue := @ih mid (by rwa [hmid]) value
    rwa [World.value?_of_registry_eq hstateless hmid, hmid] at hvalue

/-- Messages that are expanded one after the other are each expanded by the values, and the registry
stays. -/
theorem expandAll_stateless {world : World σ C} (hstateless : world.registry.IsStateless context)
    (levels : Nat) (messages : List String) :
    ((expandAll context levels messages).run world).1
        = messages.map ((world.value? context).expand levels)
      ∧ ((expandAll context levels messages).run world).2.registry = world.registry := by
  induction messages generalizing world with
  | nil => exact ⟨rfl, rfl⟩
  | cons message rest ih =>
    obtain ⟨hfirst, hkept⟩ := expand_stateless hstateless levels message
    obtain ⟨hrest, hregistry⟩ := @ih ((expand context levels message).run world).2 (by rwa [hkept])
    have hstep : (expandAll context levels (message :: rest)).run world
        = (((expand context levels message).run world).1
            :: ((expandAll context levels rest).run ((expand context levels message).run world).2).1,
          ((expandAll context levels rest).run ((expand context levels message).run world).2).2) := rfl
    rw [hstep, hrest, hregistry, hfirst, World.value?_of_registry_eq hstateless hkept]
    exact ⟨rfl, hkept⟩

end Stateless

end MessageTemplate
