import MessageTemplate.World

/-!
What handlers can do to a world.

A script reaches the world by four steps only: it reads or replaces the shared state, and registers
or unregisters a placeholder. Each step is one equation here, and `Script.run_related` turns a
relation between worlds that all steps keep into one that every script keeps, whatever it branches
on. The first use is the record of invocations, which no handler can touch.
-/

namespace MessageTemplate

variable {σ C α β : Type}

/-! ## Running in a world -/

theorem run_pure (a : α) (world : World σ C) : (pure a : Run σ C α).run world = (a, world) := rfl

theorem run_bind (m : Run σ C α) (f : α → Run σ C β) (world : World σ C) :
    (m >>= f).run world = (f (m.run world).1).run (m.run world).2 := rfl

theorem run_get (world : World σ C) :
    (get : Run σ C (World σ C)).run world = (world, world) := rfl

/-! ## Registering and unregistering -/

theorem tryRegister_duplicate {p : Placeholder σ C} {world : World σ C} {key : String}
    (h : world.registry.register p = .error (.duplicate key)) :
    (tryRegister p).run world
      = (.error (.duplicate key), { world with log := world.log.push (.rejected key) }) := by
  rw [tryRegister, run_bind, run_get]
  simp only [h]
  rfl

theorem tryRegister_ok {p : Placeholder σ C} {world : World σ C} {registry : Registry σ C}
    (h : world.registry.register p = .ok registry) :
    (tryRegister p).run world
      = (.ok (), { world with
          registry, log := world.log.push (.registered (Text.lowercase p.identifier)) }) := by
  rw [tryRegister, run_bind, run_get]
  simp only [h]
  rfl

theorem register_run (p : Placeholder σ C) (world : World σ C) :
    (register p).run world
      = (((tryRegister p).run world).1.isOk, ((tryRegister p).run world).2) := rfl

theorem unregister_absent {identifier : String} {world : World σ C}
    (h : world.registry.unregister? identifier = none) :
    (unregister identifier).run world = (false, world) := by
  rw [unregister, run_bind, run_get]
  simp only [h]
  rfl

theorem unregister_present {identifier : String} {world : World σ C} {registry : Registry σ C}
    (h : world.registry.unregister? identifier = some registry) :
    (unregister identifier).run world
      = (true, { world with
          registry, log := world.log.push (.unregistered (Text.lowercase identifier)) }) := by
  rw [unregister, run_bind, run_get]
  simp only [h]
  rfl

/-! ## Scripts -/

/-- A relation between the world before and after that each step of a script keeps is kept by the
script. The induction is on the script; what comes next is a script for every answer. -/
theorem Script.run_related {R : World σ C → World σ C → Prop} (hrefl : ∀ world, R world world)
    (htrans : ∀ world mid after, R world mid → R mid after → R world after)
    (hwrite : ∀ world state, R world { world with state })
    (hregister : ∀ p world, R world ((MessageTemplate.register p).run world).2)
    (hunregister : ∀ identifier world,
      R world ((MessageTemplate.unregister identifier).run world).2)
    (script : Script σ C) (world : World σ C) : R world (script.run.run world).2 := by
  induction script generalizing world with
  | done outcome => exact hrefl world
  | read next ih =>
    rw [Script.run]
    exact ih world.state world
  | write state next ih =>
    rw [Script.run]
    exact htrans _ _ _ (hwrite world state) (ih { world with state })
  | list next ih =>
    rw [Script.run]
    exact ih world.registry.identifiers world
  | register identifier requiresContext supportsParameters handler next _ ih =>
    rw [Script.run]
    exact htrans _ _ _ (hregister _ world) (ih _ _)
  | unregister identifier next ih =>
    rw [Script.run]
    exact htrans _ _ _ (hunregister _ world) (ih _ _)

/-! ## The record of invocations -/

theorem invocations_register (p : Placeholder σ C) (world : World σ C) :
    ((register p).run world).2.invocations = world.invocations := by
  rw [register_run]
  cases h : world.registry.register p with
  | error e =>
    obtain ⟨key⟩ := e
    rw [tryRegister_duplicate h]
  | ok registry => rw [tryRegister_ok h]

theorem invocations_unregister (identifier : String) (world : World σ C) :
    ((unregister identifier).run world).2.invocations = world.invocations := by
  cases h : world.registry.unregister? identifier with
  | none => rw [unregister_absent h]
  | some registry => rw [unregister_present h]

/-- No script touches the record of invocations. -/
theorem Script.invocations_run (script : Script σ C) (world : World σ C) :
    (script.run.run world).2.invocations = world.invocations := by
  refine Script.run_related (R := fun world after => after.invocations = world.invocations)
    (fun _ => rfl) ?_ (fun _ _ => rfl) invocations_register invocations_unregister script world
  intro world mid after hmid hafter
  exact hafter.trans hmid

end MessageTemplate
