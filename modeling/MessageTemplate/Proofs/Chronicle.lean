import Mathlib.Data.List.Nodup
import MessageTemplate.Proofs.Registrations

/-!
The log as a chronicle of the registry.

Read in order, from no identifiers at all, the log says what is registered: each registration adds an
identifier at the end, and each removal takes one out (`replay`). And what an event says is so at its
place: what was registered was missing there, what was refused or taken out was there (`Chronicles`).
Each of the steps that a session is made of adds to the log what it does to the registry, no more and no
less (`World.IsOrderedMap.logs_step`), so the same holds from any moment of a session to any later one, be
they in the middle of a message or of a handler.

What fails on the way leaves no trace of its own. A handler may register and unregister before it fails,
and these are logged; `Script.events` reads off a script what they are, and a failing handler logs nothing
else.
-/

namespace MessageTemplate

variable {σ C : Type}

/-! ## Reading the log -/

/-- What an event makes of the registered identifiers. -/
def Event.applyTo (keys : List String) : Event → List String
  | .registered key => keys ++ [key]
  | .unregistered key => keys.erase key
  | _ => keys

/-- What the events, read in order, make of the registered identifiers. -/
def replay (keys : List String) (events : List Event) : List String :=
  events.foldl Event.applyTo keys

/-- Whether what the event says of its identifier is so where these are registered. -/
def Event.IsTrueAt (keys : List String) : Event → Prop
  | .registered key => key ∉ keys
  | .rejected key => key ∈ keys
  | .unregistered key => key ∈ keys
  | _ => True

/-- The events lead from the first identifiers to the last ones, and each of them is true at its place. -/
structure Chronicles (before : List String) (events : List Event) (after : List String) : Prop where
  replayed : replay before events = after
  truthful : ∀ front event back, events = front ++ event :: back →
    event.IsTrueAt (replay before front)

theorem replay_append (keys : List String) (events more : List Event) :
    replay keys (events ++ more) = replay (replay keys events) more :=
  List.foldl_append

namespace Chronicles

variable {before mid after : List String} {events more : List Event} {event : Event}

theorem nil (keys : List String) : Chronicles keys [] keys where
  replayed := rfl
  truthful := fun _ _ _ h => absurd h (by simp)

theorem singleton (h : event.IsTrueAt before) : Chronicles before [event] (event.applyTo before) where
  replayed := rfl
  truthful := by
    intro front event' back hevents
    obtain ⟨rfl, hback⟩ | ⟨rest, -, hrest⟩ := List.cons_eq_append_iff.mp hevents
    · obtain ⟨rfl, -⟩ := List.cons.inj hback
      exact h
    · exact absurd hrest (by simp)

/-- What happens first and what happens then. An event of the second part stands behind the whole first
part, and there the identifiers are those that the first part leads to. -/
theorem append (h : Chronicles before events mid) (hmore : Chronicles mid more after) :
    Chronicles before (events ++ more) after where
  replayed := by rw [replay_append, h.replayed, hmore.replayed]
  truthful := by
    intro front event back hsplit
    rcases List.append_eq_append_iff.mp hsplit with ⟨rest, rfl, hrest⟩ | ⟨rest, hevents, hrest⟩
    · rw [replay_append, h.replayed]
      exact hmore.truthful rest event back hrest
    · cases rest with
      | nil =>
        rw [List.append_nil] at hevents
        rw [← hevents, h.replayed]
        exact hmore.truthful [] event back hrest.symm
      | cons first rest =>
        obtain ⟨rfl, -⟩ := List.cons.inj hrest
        exact h.truthful front event rest hevents

end Chronicles

/-! ## What steps log -/

/-- The log of the second world goes on from the log of the first one, and what was added chronicles how
the identifiers of the one became those of the other. -/
def World.LogsTo (world after : World σ C) : Prop :=
  ∃ events, after.log.toList = world.log.toList ++ events
    ∧ Chronicles world.registry.identifiers events after.registry.identifiers

namespace World.LogsTo

variable {world mid after : World σ C}

theorem refl (world : World σ C) : world.LogsTo world :=
  ⟨[], (List.append_nil _).symm, .nil _⟩

theorem trans (h : world.LogsTo mid) (h' : mid.LogsTo after) : world.LogsTo after := by
  obtain ⟨events, hlog, hevents⟩ := h
  obtain ⟨more, hlog', hmore⟩ := h'
  exact ⟨events ++ more, by rw [hlog', hlog, List.append_assoc], hevents.append hmore⟩

/-- One more event, which is true and says what became of the identifiers. -/
theorem of_event {event : Event} (hlog : after.log = world.log.push event)
    (htrue : event.IsTrueAt world.registry.identifiers)
    (hkeys : after.registry.identifiers = event.applyTo world.registry.identifiers) :
    world.LogsTo after := by
  refine ⟨[event], ?_, ?_⟩
  · rw [hlog, Array.toList_push]
  · rw [hkeys]
    exact .singleton htrue

/-- Nothing that concerns the log or the identifiers. -/
theorem of_eq (hlog : after.log = world.log)
    (hkeys : after.registry.identifiers = world.registry.identifiers) : world.LogsTo after := by
  refine ⟨[], ?_, ?_⟩
  · rw [hlog, List.append_nil]
  · rw [hkeys]
    exact .nil _

end World.LogsTo

/-- A note says nothing of identifiers, and changes none. -/
theorem Event.isTrueAt_of_isNote {event : Event} (h : event.isNote = true) (keys : List String) :
    event.IsTrueAt keys ∧ event.applyTo keys = keys := by
  cases event with
  | registered => cases h
  | rejected => cases h
  | unregistered => cases h
  | defaultsSkipped => exact ⟨trivial, rfl⟩
  | textsRegistered => exact ⟨trivial, rfl⟩
  | defaultsRegistered => exact ⟨trivial, rfl⟩

namespace World.IsOrderedMap

variable {world after : World σ C}

/-- Where the keys are distinct, each step logs what it does to the registry. -/
theorem logs_step (h : world.IsOrderedMap) (hstep : World.Step world after) : world.LogsTo after := by
  cases hstep with
  | register p =>
    rw [register_run]
    by_cases htaken : Text.lowercase p.identifier ∈ world.registry.identifiers
    · rw [tryRegister_taken htaken]
      exact .of_event rfl htaken rfl
    · rw [tryRegister_free htaken]
      exact .of_event rfl htaken (Table.keys_push _ _ _)
  | unregister identifier =>
    by_cases hmem : Text.lowercase identifier ∈ world.registry.identifiers
    · rw [unregister_of_mem hmem]
      -- all entries with the key are taken out, and by distinctness that is one
      refine .of_event rfl hmem ?_
      rw [Event.applyTo]
      exact h.isMap.identifiers_erase _
    · rw [unregister_of_not_mem hmem]
      exact .refl world
  | write state => exact .of_eq rfl rfl
  | invoke call hregistry => exact .of_eq rfl rfl
  | note event hnote =>
    obtain ⟨htrue, hkeys⟩ := Event.isTrueAt_of_isNote hnote world.registry.identifiers
    exact .of_event rfl htrue hkeys.symm

/-- So does every chain of steps. -/
theorem logs_reaches (h : world.IsOrderedMap) (hreaches : World.Reaches world after) :
    world.LogsTo after := by
  induction hreaches with
  | refl => exact .refl world
  | tail hbefore hstep ih => exact ih.trans ((h.reaches hbefore).logs_step hstep)

end World.IsOrderedMap

/-! ## What scripts log -/

/-- The events of a script that meets this registry and this state: those of its registrations and
removals, one after the other. -/
def Script.events : Script σ C → Registry σ C → σ → List Event
  | .done _, _, _ => []
  | .read next, registry, state => (next state).events registry state
  | .write state next, registry, _ => next.events registry state
  | .list next, registry, state => (next registry.identifiers).events registry state
  | .register identifier requiresContext supportsParameters handler next, registry, state =>
    match registry.register ⟨identifier, requiresContext, supportsParameters, handler⟩ with
    | .error (.duplicate key) => .rejected key :: (next false).events registry state
    | .ok registry =>
      .registered (Text.lowercase identifier) :: (next true).events registry state
  | .unregister identifier next, registry, state =>
    match registry.unregister? identifier with
    | none => (next false).events registry state
    | some registry =>
      .unregistered (Text.lowercase identifier) :: (next true).events registry state

/-- Running a script logs its events and nothing else, however it ends. -/
theorem Script.log_run (script : Script σ C) (world : World σ C) :
    (script.run.run world).2.log.toList
      = world.log.toList ++ script.events world.registry world.state := by
  induction script generalizing world with
  | done outcome => exact (List.append_nil _).symm
  | read next ih => exact ih world.state world
  | write state next ih => exact ih { world with state }
  | list next ih => exact ih world.registry.identifiers world
  | register identifier requiresContext supportsParameters handler next _ ih =>
    rw [Script.run, Script.events, run_bind, register_run]
    split
    next key hregister =>
      rw [tryRegister_duplicate hregister, ih]
      simp only [Array.toList_push, List.append_assoc, List.singleton_append]
      rfl
    next registry hregister =>
      rw [tryRegister_ok hregister, ih]
      simp only [Array.toList_push, List.append_assoc, List.singleton_append]
      rfl
  | unregister identifier next ih =>
    rw [Script.run, Script.events, run_bind]
    split
    next hunregister => rw [unregister_absent hunregister, ih]
    next registry hunregister =>
      rw [unregister_present hunregister, ih]
      simp only [Array.toList_push, List.append_assoc, List.singleton_append]

/-! ## Failures -/

/-- What fails in this world is not logged. A removal of what is not there and a token that the gates
refuse change nothing at all. A handler that fails leaves in the log what it registered and took out
before, and its token adds nothing to that. -/
structure World.FailsSilently (world : World σ C) : Prop where
  unregister : ∀ identifier, ((MessageTemplate.unregister identifier).run world).1 = false →
    ((MessageTemplate.unregister identifier).run world).2 = world
  refused : ∀ (expandValue : String → Run σ C String) context levels t u,
    world.registry.gate context t = .error u →
    ((resolve expandValue context levels t).run world).2 = world
  failed : ∀ (expandValue : String → Run σ C String) context levels t p failure,
    world.registry.Admits context t p →
    (world.perform (world.invocation context levels t p)).1.result = .error failure →
    ((resolve expandValue context levels t).run world).2.log.toList
      = world.log.toList ++ (p.handler context t.params).events world.registry world.state

theorem World.failsSilently (world : World σ C) : world.FailsSilently where
  unregister := by
    intro identifier hfalse
    cases h : world.registry.unregister? identifier with
    | none => rw [unregister_absent h]
    | some registry =>
      rw [unregister_present h] at hfalse
      cases hfalse
  refused := by
    intro expandValue context levels t u hgate
    rw [resolve_refused hgate]
  failed := by
    intro expandValue context levels t p failure hadmits hfailure
    rw [resolve_failed hadmits hfailure]
    exact Script.log_run _ _

/-! ## Sessions -/

/-- The log is faithful. After every session it leads from no identifiers to the registered ones, and
from any moment of a session to any later one what was logged in between leads from the identifiers of
the one to those of the other; each event is true where it stands. What fails is not logged. -/
theorem log_chronicles_registry [PlayerSource σ C] (settings : Settings) (state : σ) :
    (∀ requests : List (Request σ C),
        let world := ((serveAll requests).run (.ofSettings settings state)).2.world
        World.Reaches (.initial state) world
          ∧ Chronicles [] world.log.toList world.registry.identifiers)
      ∧ (∀ world after : World σ C, World.Reaches (.initial state) world →
        World.Reaches world after → world.LogsTo after)
      ∧ ∀ world : World σ C, world.FailsSilently := by
  have hstart : (World.initial state : World σ C).IsOrderedMap := World.isOrderedMap_initial state
  refine ⟨fun requests => ?_, ?_, World.failsSilently⟩
  · have hreaches : World.Reaches (.initial state)
        ((serveAll requests).run (.ofSettings settings state)).2.world :=
      (serveAll_follows requests (.ofSettings settings state)).reaches
    obtain ⟨events, hlog, hevents⟩ := hstart.logs_reaches hreaches
    refine ⟨hreaches, ?_⟩
    rw [hlog]
    exact hevents
  · intro world after hbefore hafter
    exact (hstart.reaches hbefore).logs_reaches hafter

/-- A message in whose middle one placeholder is registered and another one is taken out. -/
theorem log_chronicles_registry_mid_message :
    let swap : Handler Unit Player := fun _ _ =>
      .register "fresh" false false (fun _ _ => .done (.value "new")) fun _ =>
        .unregister "OLD" fun _ => .unregister "old" fun _ => .done (.failure (.failed "swapped"))
    let world : World Unit Player := ((serveAll [.register (.constant "Old" "o"),
      .register ⟨"swap", false, false, swap⟩,
      .parse "\x7bold\x7d\x7bswap\x7d\x7bold\x7d\x7bfresh\x7d" none none,
      .register (.constant "FRESH" "f")]).run (.ofSettings {} ())).2.world
    Chronicles [] world.log.toList world.registry.identifiers ∧ world.FailsSilently
      ∧ (World.initial () : World Unit Player).LogsTo world
      ∧ world.log.toList = [.registered "old", .registered "swap", .registered "fresh",
        .unregistered "old", .rejected "fresh"]
      ∧ world.registry.identifiers = ["swap", "fresh"] := by
  intro swap world
  obtain ⟨hsessions, hmoments, hfailures⟩ := log_chronicles_registry (C := Player) {} ()
  obtain ⟨hreaches, hchronicles⟩ := hsessions _
  refine ⟨hchronicles, hfailures world, hmoments _ world .refl hreaches, ?_, ?_⟩
  · decide +kernel
  · decide +kernel

end MessageTemplate
