import MessageTemplate.Proofs.Initialization
import MessageTemplate.Proofs.Values

/-!
Registries that expand messages alike.

A message sees of a registry only the values of names. So a registry can be exchanged for another one
with the same values, and the context along with it. Three exchanges are of this kind whatever the
message is: taking out placeholders that never give a value, changing placeholders that need a context
where there is none, and changing the order of the entries. The last two leave the admitted placeholders
as they are, and with them their values; the first one takes admitted placeholders out, but none whose
value could be missed.
-/

namespace MessageTemplate

variable {σ C : Type}

/-! ## Taking out placeholders -/

/-- Takes out placeholders one after the other. -/
def unregisterAll : List String → Run σ C Unit
  | [] => return ()
  | identifier :: rest => do
    let _ ← unregister identifier
    unregisterAll rest

theorem lookup?_unregister (identifier other : String) (world : World σ C) :
    ((unregister identifier).run world).2.registry.lookup? other
      = if Text.lowercase other = Text.lowercase identifier then none
        else world.registry.lookup? other := by
  by_cases hmem : Text.lowercase identifier ∈ world.registry.identifiers
  · rw [unregister_of_mem hmem]
    exact Table.get?_erase _ _ _
  · rw [unregister_of_not_mem hmem]
    by_cases hkey : Text.lowercase other = Text.lowercase identifier
    · rw [if_pos hkey, Registry.lookup?, hkey]
      exact Table.get?_eq_none_iff.mpr hmem
    · rw [if_neg hkey]

/-- What is found after placeholders were taken out is what was found before and is none of them. -/
theorem lookup?_unregisterAll {identifiers : List String} {other : String} {world : World σ C}
    {p : Placeholder σ C} :
    ((unregisterAll identifiers).run world).2.registry.lookup? other = some p
      ↔ Text.lowercase other ∉ identifiers.map Text.lowercase
        ∧ world.registry.lookup? other = some p := by
  induction identifiers generalizing world with
  | nil =>
    rw [List.map_nil]
    exact ⟨fun h => ⟨List.not_mem_nil, h⟩, fun h => h.2⟩
  | cons identifier rest ih =>
    have hrest : ((unregisterAll (identifier :: rest)).run world).2.registry.lookup? other
        = ((unregisterAll rest).run ((unregister identifier).run world).2).2.registry.lookup? other := by
      rw [unregisterAll, run_bind]
    rw [hrest, ih, lookup?_unregister, List.map_cons, List.mem_cons]
    by_cases hkey : Text.lowercase other = Text.lowercase identifier
    · simp [hkey]
    · simp [hkey]

/-- The placeholder never gives a value in this context: it needs a context that is not there, or its
handler fails or crashes whatever the parameters are. -/
def Placeholder.IsFutile (p : Placeholder σ C) (context : Option C) : Prop :=
  (p.requiresContext = true ∧ context = none)
    ∨ ∀ params (world : World σ C), ∃ failure,
      ((p.handler context params).run.run world).1.result = .error failure

theorem Placeholder.IsFutile.false_of_value {p : Placeholder σ C} {context : Option C}
    (h : p.IsFutile context) {world : World σ C} {t : Token}
    (hadmits : world.registry.Admits context t p) {params : Option String} {value : String}
    (hvalue : ((p.handler context params).run.run world).1.result = .ok value) : False := by
  rcases h with ⟨hrequires, rfl⟩ | hfails
  · have hpresent := hadmits.context_present hrequires
    cases hpresent
  · obtain ⟨failure, hfailure⟩ := hfails params world
    rw [hfailure] at hvalue
    cases hvalue

section Unregister

variable {context : Option C} {identifiers : List String} {world : World σ C}

theorem admits_unregisterAll {t : Token} {p : Placeholder σ C} :
    ((unregisterAll identifiers).run world).2.registry.Admits context t p
      ↔ Text.lowercase t.identifier ∉ identifiers.map Text.lowercase
        ∧ world.registry.Admits context t p := by
  constructor
  · intro h
    obtain ⟨hmem, hstored⟩ := lookup?_unregisterAll.mp h.stored
    exact ⟨hmem, h.of_stored hstored rfl⟩
  · rintro ⟨hmem, h⟩
    exact h.of_stored (lookup?_unregisterAll.mpr ⟨hmem, h.stored⟩) rfl

/-- Placeholders that never give a value can be taken out without a value missing. -/
theorem value?_unregisterAll (hstateless : world.registry.IsStateless context)
    (hfutile : ∀ identifier ∈ identifiers, ∀ p, world.registry.lookup? identifier = some p →
      p.IsFutile context) :
    ((unregisterAll identifiers).run world).2.value? context = world.value? context := by
  funext identifier params
  refine Option.ext fun value => ?_
  rw [World.value?_eq_some_iff, World.value?_eq_some_iff]
  constructor
  · rintro ⟨p, hadmits, hvalue⟩
    have hbefore := (admits_unregisterAll.mp hadmits).2
    rw [(hstateless _ p hbefore).outcome_eq context params _ world] at hvalue
    exact ⟨p, hbefore, hvalue⟩
  · rintro ⟨p, hadmits, hvalue⟩
    refine ⟨p, admits_unregisterAll.mpr ⟨fun hmem => ?_, hadmits⟩, ?_⟩
    · -- the placeholder would be one of those that were taken out, and never give a value
      obtain ⟨removed, hremoved, hkey⟩ := List.mem_map.mp hmem
      have hstored : world.registry.lookup? removed = some p := by
        rw [Registry.lookup?, hkey]
        exact hadmits.stored
      exact (hfutile removed hremoved p hstored).false_of_value hadmits hvalue
    · rwa [(hstateless _ p hadmits).outcome_eq context params _ world]

end Unregister

/-! ## The same admitted placeholders -/

theorem Registry.IsStateless.of_admits {registry registry' : Registry σ C} {context : Option C}
    (hstateless : registry.IsStateless context)
    (h : ∀ t p, registry'.Admits context t p → registry.Admits context t p) :
    registry'.IsStateless context :=
  fun t p hadmits => hstateless t p (h t p hadmits)

/-- Without a context, only placeholders that need none are admitted. -/
theorem Registry.admits_none_iff {registry registry' : Registry σ C}
    (h : ∀ identifier p, p.requiresContext = false →
      (registry.lookup? identifier = some p ↔ registry'.lookup? identifier = some p))
    (t : Token) (p : Placeholder σ C) :
    registry.Admits none t p ↔ registry'.Admits none t p := by
  have hfree : ∀ {r : Registry σ C}, r.Admits none t p → p.requiresContext = false := by
    intro r hadmits
    rw [← Bool.not_eq_true]
    intro hrequires
    have hpresent := hadmits.context_present hrequires
    cases hpresent
  constructor
  · intro hadmits
    exact hadmits.of_stored ((h _ p (hfree hadmits)).mp hadmits.stored) rfl
  · intro hadmits
    exact hadmits.of_stored ((h _ p (hfree hadmits)).mpr hadmits.stored) rfl

/-- The order of the entries does not matter to who is admitted. -/
theorem Registry.admits_perm_iff {registry registry' : Registry σ C}
    (hdistinct : registry.identifiers.Nodup)
    (h : registry.table.entries.Perm registry'.table.entries) (context : Option C) (t : Token)
    (p : Placeholder σ C) :
    registry.Admits context t p ↔ registry'.Admits context t p := by
  exact Registry.admits_congr (Table.get?_eq_of_perm hdistinct h _) rfl context p

/-- After placeholders were registered, whoever is admitted was admitted before or is one of them. -/
theorem Registry.admits_addAll {registry : Registry σ C} {ps : List (Placeholder σ C)}
    {context : Option C} {t : Token} {p : Placeholder σ C}
    (h : (registry.addAll ps).Admits context t p) : registry.Admits context t p ∨ p ∈ ps := by
  have hstored := h.stored
  rw [Registry.lookup?, Registry.get?_addAll, Option.or_eq_some_iff] at hstored
  rcases hstored with hold | ⟨-, hnew⟩
  · exact Or.inl (h.of_stored hold rfl)
  · have hentry := @Table.mem_entries_of_get?_eq _ ⟨ps.map Placeholder.entry⟩ _ _ hnew
    obtain ⟨q, hq, heq⟩ := List.mem_map.mp hentry
    obtain rfl : q = p := (Prod.mk.inj heq).2
    exact Or.inr hq

theorem Registry.IsStateless.addAll {registry : Registry σ C} {context : Option C}
    (hstateless : registry.IsStateless context) {ps : List (Placeholder σ C)}
    (hps : ∀ p ∈ ps, p.IsStateless) : (registry.addAll ps).IsStateless context :=
  fun t p hadmits => (Registry.admits_addAll hadmits).elim (hstateless t p) (hps p)

/-- Where nothing but stateless placeholders was registered. -/
theorem Registry.isStateless_registerAll {ps : List (Placeholder σ C)}
    (hps : ∀ p ∈ ps, p.IsStateless) (context : Option C) (state : σ) :
    ((registerAll ps).run (.initial state)).2.registry.IsStateless context := by
  have hempty : (World.initial state : World σ C).registry.IsStateless context :=
    Registry.isStateless_of_forall (fun _ hentry => absurd hentry List.not_mem_nil) context
  rw [registry_registerAll]
  exact hempty.addAll hps

/-- Placeholders with different identifiers can be registered in any order. -/
theorem Registry.admits_addAll_perm_iff (registry : Registry σ C) {ps qs : List (Placeholder σ C)}
    (hdistinct : (ps.map fun p => Text.lowercase p.identifier).Nodup) (h : ps.Perm qs)
    (context : Option C) (t : Token) (p : Placeholder σ C) :
    (registry.addAll ps).Admits context t p ↔ (registry.addAll qs).Admits context t p := by
  have hnames : (ps.map Placeholder.entry).map (·.1)
      = ps.map fun p => Text.lowercase p.identifier := by
    rw [List.map_map]
    rfl
  refine Registry.admits_congr ?_ rfl context p
  rw [Registry.lookup?, Registry.lookup?, Registry.get?_addAll, Registry.get?_addAll]
  refine congrArg _ (@Table.get?_eq_of_perm _ ⟨_⟩ ⟨_⟩ ?_ (h.map Placeholder.entry) _)
  rwa [Table.keys, hnames]

/-! ## Only values matter -/

/-- Both worlds expand the message to the same text, each for its own context. -/
def SameText (maxDepth : Nat) (message : String) (context : Option C) (world : World σ C)
    (context' : Option C) (world' : World σ C) : Prop :=
  ((expand context maxDepth message).run world).1
    = ((expand context' maxDepth message).run world').1

section SameText

variable {maxDepth : Nat} {message : String} {context context' : Option C}
  {world world' : World σ C}

theorem sameText_of_values (hstateless : world.registry.IsStateless context)
    (hstateless' : world'.registry.IsStateless context')
    (h : ∀ identifier, IsLowerName identifier.toList → ∀ params,
      world.value? context identifier params = world'.value? context' identifier params) :
    SameText maxDepth message context world context' world' := by
  rw [SameText, (expand_stateless hstateless _ _).1, (expand_stateless hstateless' _ _).1]
  exact Values.expand_congr h maxDepth message

theorem sameText_of_admits (hstateless : world.registry.IsStateless context)
    (h : ∀ t p, world.registry.Admits context t p ↔ world'.registry.Admits context t p) :
    SameText maxDepth message context world context world' := by
  have hvalues := World.value?_congr hstateless h
  exact sameText_of_values hstateless (hstateless.of_admits fun t p => (h t p).mpr)
    fun identifier _ params => congrFun (congrFun hvalues identifier) params

end SameText

/-- Where handlers are stateless, only the values of names matter to what a message becomes. Worlds with
the same values expand it to the same text, whatever their contexts are. In particular nothing changes
when placeholders that never give a value are taken out; when, without a context, the placeholders that
need one are others, or none; or when the entries stand in another order, be it that placeholders were
registered in that order. -/
theorem only_values_matter (maxDepth : Nat) (message : String) {context : Option C}
    {world : World σ C} (hstateless : world.registry.IsStateless context) :
    (∀ (context' : Option C) (world' : World σ C), world'.registry.IsStateless context' →
        (∀ identifier, IsLowerName identifier.toList → ∀ params,
          world.value? context identifier params = world'.value? context' identifier params) →
        SameText maxDepth message context world context' world')
      ∧ (∀ identifiers : List String,
        (∀ identifier ∈ identifiers, ∀ p, world.registry.lookup? identifier = some p →
          p.IsFutile context) →
        SameText maxDepth message context world context
          ((unregisterAll identifiers).run world).2)
      ∧ (context = none → ∀ world' : World σ C,
        (∀ identifier p, p.requiresContext = false →
          (world.registry.lookup? identifier = some p
            ↔ world'.registry.lookup? identifier = some p)) →
        SameText maxDepth message none world none world')
      ∧ (∀ world' : World σ C, world.registry.identifiers.Nodup →
        world.registry.table.entries.Perm world'.registry.table.entries →
        SameText maxDepth message context world context world')
      ∧ ∀ ps qs : List (Placeholder σ C), (∀ p ∈ ps, p.IsStateless) → ps.Perm qs →
        (ps.map fun p => Text.lowercase p.identifier).Nodup →
        SameText maxDepth message context ((registerAll ps).run world).2 context
          ((registerAll qs).run world).2 := by
  refine ⟨fun context' world' hstateless' => sameText_of_values hstateless hstateless', ?_, ?_, ?_, ?_⟩
  · intro identifiers hfutile
    have hvalues := value?_unregisterAll hstateless hfutile
    refine sameText_of_values hstateless ?_ fun identifier _ params => ?_
    · exact hstateless.of_admits fun t p hadmits => (admits_unregisterAll.mp hadmits).2
    · rw [hvalues]
  · rintro rfl world' h
    exact sameText_of_admits hstateless (Registry.admits_none_iff h)
  · intro world' hdistinct hperm
    exact sameText_of_admits hstateless (Registry.admits_perm_iff hdistinct hperm context)
  · intro ps qs hps hperm hdistinct
    refine sameText_of_admits ?_ ?_
    · rw [registry_registerAll]
      exact hstateless.addAll hps
    · rw [registry_registerAll, registry_registerAll]
      exact Registry.admits_addAll_perm_iff _ hdistinct hperm context

/-- Two constants, one of which holds the other, beside a handler that crashes and one that needs a
context. -/
theorem only_values_matter_constants :
    let crash : Placeholder Unit Nat := ⟨"f", false, true, fun _ _ => .done (.crash none)⟩
    let who : Placeholder Unit Nat := .contextual "who" fun n _ => .done (.value (toString n))
    let ps := [.constant "a" "<\x7bb\x7d>", crash, .constant "b" "x", who]
    let world : World Unit Nat := ((registerAll ps).run (.initial ())).2
    let constants : World Unit Nat :=
      ((registerAll [.constant "B" "x", .constant "A" "<\x7bb\x7d>"]).run (.initial ())).2
    let reversed : World Unit Nat :=
      { world with registry := ⟨⟨world.registry.table.entries.reverse⟩⟩ }
    let message := "\x7ba\x7d \x7bf:1\x7d \x7bwho\x7d"
    SameText 3 message none world (some 7) constants
      ∧ SameText 3 message none world none ((unregisterAll ["F", "who"]).run world).2
      ∧ SameText 3 message none world none ((unregister "who").run world).2
      ∧ SameText 3 message none world none reversed
      ∧ SameText 3 message none world none ((registerAll ps.reverse).run (.initial ())).2 := by
  intro crash who ps world constants reversed message
  have hcrash : crash.IsStateless := Placeholder.isStateless_of_done fun _ _ => ⟨.crash none, rfl⟩
  have hwho : who.IsStateless := by
    refine Placeholder.isStateless_of_done fun context _ => ?_
    cases context with
    | none => exact ⟨.value "", rfl⟩
    | some n => exact ⟨.value (toString n), rfl⟩
  have hps : ∀ p ∈ ps, p.IsStateless := by
    simp only [ps, List.forall_mem_cons]
    exact ⟨Placeholder.isStateless_constant _ _, hcrash, Placeholder.isStateless_constant _ _, hwho,
      fun _ hp => absurd hp List.not_mem_nil⟩
  have hempty : ∀ context, (World.initial () : World Unit Nat).registry.IsStateless context :=
    Registry.isStateless_of_forall fun _ hentry => absurd hentry List.not_mem_nil
  have hdistinct : (ps.map fun p => Text.lowercase p.identifier).Nodup := by decide
  -- what the two registries hold, under the names by which it is found
  have hregistry : world.registry = Registry.empty.addAll ps := registry_registerAll ps _
  have hentries : world.registry.table.entries = ["a", "f", "b", "who"].zip ps := by
    rw [hregistry]
    exact Registry.entries_addAll_empty (by decide) (by decide)
  have hregistry' : constants.registry
      = Registry.empty.addAll [.constant "B" "x", .constant "A" "<\x7bb\x7d>"] :=
    registry_registerAll _ _
  have hentries' : constants.registry.table.entries
      = ["b", "a"].zip [.constant "B" "x", .constant "A" "<\x7bb\x7d>"] := by
    rw [hregistry']
    exact Registry.entries_addAll_empty (by decide) (by decide)
  have hworld : world.registry.IsStateless none := by
    rw [hregistry]
    exact (hempty none).addAll hps
  have hconstants : constants.registry.IsStateless (some 7) := by
    rw [hregistry']
    refine (hempty _).addAll ?_
    simp only [List.forall_mem_cons]
    exact ⟨Placeholder.isStateless_constant _ _, Placeholder.isStateless_constant _ _,
      fun _ hp => absurd hp List.not_mem_nil⟩
  have hidentifiers : world.registry.identifiers.Nodup := by
    rw [Registry.identifiers, Table.keys, hentries]
    decide
  have hregister : SameText 3 message none world none
      ((registerAll ps.reverse).run (.initial ())).2 :=
    (only_values_matter 3 message (hempty none)).2.2.2.2 ps ps.reverse hps (List.reverse_perm ps).symm
      hdistinct
  clear_value world constants
  have hreversed : world.registry.table.entries.Perm reversed.registry.table.entries :=
    (List.reverse_perm world.registry.table.entries).symm
  obtain ⟨hvalues, hfutile, hcontext, horder, -⟩ := only_values_matter 3 message hworld
  refine ⟨hvalues (some 7) constants hconstants ?_, hfutile ["F", "who"] ?_, hcontext rfl _ ?_,
    horder reversed hidentifiers hreversed, hregister⟩
  · intro identifier _ params
    have hlookup : world.registry.lookup? identifier
        = (["a", "f", "b", "who"].zip ps).lookup (Text.lowercase identifier) := by
      rw [Registry.lookup?, Table.get?, hentries]
    have hlookup' : constants.registry.lookup? identifier
        = (["b", "a"].zip [.constant "B" "x", .constant "A" "<\x7bb\x7d>"]).lookup
          (Text.lowercase identifier) := by
      rw [Registry.lookup?, Table.get?, hentries']
    generalize Text.lowercase identifier = key at hlookup hlookup'
    by_cases ha : key = "a"
    · subst ha
      rw [World.value?_constant hlookup, World.value?_constant hlookup']
    by_cases hb : key = "b"
    · subst hb
      rw [World.value?_constant hlookup, World.value?_constant hlookup']
    have hnone : constants.registry.lookup? identifier = none := by
      rw [hlookup']
      simp [List.lookup_cons, beq_false_of_ne ha, beq_false_of_ne hb]
    rw [World.value?, World.value?, Registry.gate_of_none (t := ⟨identifier, params⟩) hnone]
    by_cases hf : key = "f"
    · subst hf
      rw [Registry.gate_of_some (t := ⟨identifier, params⟩) hlookup]
      cases params with
      | none => rfl
      | some text => rfl
    by_cases hwho : key = "who"
    · subst hwho
      rw [Registry.gate_of_some (t := ⟨identifier, params⟩) hlookup]
      rfl
    have hunknown : world.registry.lookup? identifier = none := by
      rw [hlookup]
      simp [ps, List.lookup_cons, beq_false_of_ne ha, beq_false_of_ne hb, beq_false_of_ne hf,
        beq_false_of_ne hwho]
    rw [Registry.gate_of_none (t := ⟨identifier, params⟩) hunknown]
  · intro identifier hidentifier p hp
    rw [Registry.lookup?, Table.get?, hentries] at hp
    simp only [List.mem_cons, List.not_mem_nil, or_false] at hidentifier
    rcases hidentifier with rfl | rfl
    · obtain rfl : crash = p := Option.some.inj hp
      exact Or.inr fun _ _ => ⟨_, rfl⟩
    · obtain rfl : who = p := Option.some.inj hp
      exact Or.inl ⟨rfl, rfl⟩
  · intro identifier p hfree
    rw [lookup?_unregister]
    by_cases hkey : Text.lowercase identifier = Text.lowercase "who"
    · have hstored : world.registry.lookup? identifier = some who := by
        rw [Registry.lookup?, hkey, Table.get?, hentries]
        rfl
      rw [if_pos hkey, hstored]
      constructor
      · rintro hp
        obtain rfl : who = p := Option.some.inj hp
        cases hfree
      · intro hp
        cases hp
    · rw [if_neg hkey]

end MessageTemplate
