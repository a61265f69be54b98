import Mathlib.Logic.Relation
import MessageTemplate.Engine.Request
import MessageTemplate.Proofs.Resolution

/-!
What can happen to a world while a session is served.

However deep handlers call one another, a session changes its world by five kinds of steps only: a
placeholder is registered or taken out, a handler writes the shared state, an invocation is written
down, or a note is added to the log (`World.Step`). Every computation of the library is shown to be a
chain of these steps, from handlers up to whole sessions (`serveAll_follows`). A property that each
step keeps therefore holds in every world that a session comes through, also between two tokens of a
message and in the middle of a handler.
-/

namespace MessageTemplate

variable {σ C α β : Type}

/-! ## Steps -/

/-- A note that sums up what was done, and concerns no single identifier. -/
def Event.isNote : Event → Bool
  | .defaultsSkipped => true
  | .textsRegistered .. => true
  | .defaultsRegistered .. => true
  | _ => false

/-- One thing that can happen to a world. -/
inductive World.Step (world : World σ C) : World σ C → Prop where
  | register (p : Placeholder σ C) : World.Step world ((MessageTemplate.register p).run world).2
  | unregister (identifier : String) :
      World.Step world ((MessageTemplate.unregister identifier).run world).2
  | write (state : σ) : World.Step world { world with state }
  | invoke (call : Invocation σ C) (hregistry : call.registry = world.registry) :
      World.Step world { world with invocations := world.invocations.push call }
  | note (event : Event) (hnote : event.isNote = true) :
      World.Step world { world with log := world.log.push event }

/-- The second world comes from the first one by steps. -/
abbrev World.Reaches : World σ C → World σ C → Prop :=
  Relation.ReflTransGen World.Step

/-- Wherever it is started, the computation changes the world by steps. -/
def BySteps (run : Run σ C α) : Prop :=
  ∀ world, World.Reaches world (run.run world).2

theorem World.Step.reaches {world after : World σ C} (h : World.Step world after) :
    World.Reaches world after :=
  Relation.ReflTransGen.single h

/-! ## Registering and unregistering -/

theorem bySteps_pure (a : α) : BySteps (pure a : Run σ C α) :=
  fun _ => Relation.ReflTransGen.refl

theorem bySteps_get : BySteps (get : Run σ C (World σ C)) :=
  fun _ => Relation.ReflTransGen.refl

theorem bySteps_bind {run : Run σ C α} {next : α → Run σ C β} (h : BySteps run)
    (hnext : ∀ a, BySteps (next a)) : BySteps (run >>= next) := by
  intro world
  rw [run_bind]
  exact (h world).trans (hnext _ _)

theorem bySteps_register (p : Placeholder σ C) : BySteps (register p) :=
  fun _ => (World.Step.register p).reaches

/-- Registering with the reason for a refusal takes the same step. -/
theorem bySteps_tryRegister (p : Placeholder σ C) : BySteps (tryRegister p) := by
  intro world
  have hstep : World.Reaches world ((register p).run world).2 := bySteps_register p world
  rwa [register_run] at hstep

theorem bySteps_unregister (identifier : String) :
    BySteps (unregister identifier : Run σ C Bool) :=
  fun _ => (World.Step.unregister identifier).reaches

theorem bySteps_logEvent {event : Event} (h : event.isNote = true) :
    BySteps (logEvent event : Run σ C Unit) :=
  fun _ => (World.Step.note event h).reaches

theorem bySteps_registerAll (ps : List (Placeholder σ C)) : BySteps (registerAll ps) := by
  induction ps with
  | nil => exact bySteps_pure 0
  | cons p rest ih =>
    rw [registerAll]
    exact bySteps_bind (bySteps_register p) fun _ => bySteps_bind ih fun _ => bySteps_pure _

/-! ## Handlers -/

theorem Script.bySteps_run (script : Script σ C) : BySteps script.run := by
  intro world
  refine Script.run_related (R := World.Reaches) ?_ ?_ ?_ ?_ ?_ script world
  · intro world
    exact Relation.ReflTransGen.refl
  · intro world mid after hmid hafter
    exact hmid.trans hafter
  · intro world state
    exact (World.Step.write state).reaches
  · intro p world
    exact bySteps_register p world
  · intro identifier world
    exact bySteps_unregister identifier world

/-- An invocation is written down, and then its handler takes its steps. -/
theorem World.reaches_perform {world : World σ C} {call : Invocation σ C}
    (h : call.registry = world.registry) : World.Reaches world (world.perform call).2 :=
  Relation.ReflTransGen.head (World.Step.invoke call h) (Script.bySteps_run _ _)

/-! ## Expansion -/

section Expansion

variable {context : Option C}

theorem bySteps_resolve {expandValue : String → Run σ C String}
    (hexpand : ∀ value, BySteps (expandValue value)) (levels : Nat) (t : Token) :
    BySteps (resolve expandValue context levels t) := by
  intro world
  rcases resolve_cases expandValue context levels t world with
    ⟨u, -, hrun⟩ | ⟨p, failure, -, -, hrun⟩ | ⟨p, value, -, -, hrun⟩
  · rw [hrun]
  · rw [hrun]
    exact World.reaches_perform rfl
  · rw [hrun]
    exact (World.reaches_perform rfl).trans (hexpand value _)

theorem bySteps_substitute {resolveToken : Token → Run σ C (Except Unresolved String)}
    (hresolve : ∀ t, BySteps (resolveToken t)) (segments : List Segment) :
    BySteps (substitute resolveToken segments) := by
  induction segments with
  | nil => exact bySteps_pure ""
  | cons segment rest ih =>
    cases segment with
    | text s =>
      rw [substitute]
      exact bySteps_bind ih fun _ => bySteps_pure _
    | token t span =>
      rw [substitute]
      exact bySteps_bind (hresolve t) fun _ => bySteps_bind ih fun _ => bySteps_pure _

/-- Expanding a message takes steps only. The induction is on the levels that are left. -/
theorem bySteps_expandAt (maxDepth depth : Nat) (message : String) :
    BySteps (expandAt context maxDepth depth message : Run σ C String) := by
  induction hlevels : maxDepth - depth generalizing depth message with
  | zero =>
    have hle : maxDepth ≤ depth := Nat.sub_eq_zero_iff_le.mp hlevels
    rw [expandAt_of_le hle]
    exact bySteps_pure message
  | succ levels ih =>
    have hlt : depth < maxDepth := by omega
    rw [expandAt_of_lt hlt]
    refine bySteps_substitute (fun t => bySteps_resolve ?_ _ t) _
    intro value
    exact ih (depth + 1) value (by omega)

theorem bySteps_expand (maxDepth : Nat) (message : String) :
    BySteps (expand context maxDepth message : Run σ C String) :=
  bySteps_expandAt maxDepth 0 message

theorem bySteps_expandAll (maxDepth : Nat) (messages : List String) :
    BySteps (expandAll context maxDepth messages : Run σ C (List String)) := by
  induction messages with
  | nil => exact bySteps_pure []
  | cons message rest ih =>
    rw [expandAll]
    exact bySteps_bind (bySteps_expand maxDepth message) fun _ =>
      bySteps_bind ih fun _ => bySteps_pure _

theorem bySteps_check (maxDepth : Nat) (message : String) :
    BySteps (check context maxDepth message : Run σ C (List Diagnostic)) := by
  intro world
  rw [check_world]
  exact bySteps_expand maxDepth message world

end Expansion

/-! ## Sessions -/

/-- The second engine comes from the first one by what a session does: steps in its world, and at most
once the mark that it is initialized. What the engine was made with stays. -/
structure Engine.Follows (engine after : Engine σ C) : Prop where
  reaches : World.Reaches engine.world after.world
  palette_eq : after.palette = engine.palette
  texts_eq : after.texts = engine.texts
  maxDepth_eq : after.maxDepth = engine.maxDepth
  initialized : engine.initialized = true → after.initialized = true

theorem Engine.Follows.refl (engine : Engine σ C) : engine.Follows engine where
  reaches := Relation.ReflTransGen.refl
  palette_eq := rfl
  texts_eq := rfl
  maxDepth_eq := rfl
  initialized := id

theorem Engine.Follows.trans {engine mid after : Engine σ C} (h : engine.Follows mid)
    (h' : mid.Follows after) : engine.Follows after where
  reaches := h.reaches.trans h'.reaches
  palette_eq := h'.palette_eq.trans h.palette_eq
  texts_eq := h'.texts_eq.trans h.texts_eq
  maxDepth_eq := h'.maxDepth_eq.trans h.maxDepth_eq
  initialized := fun hinit => h'.initialized (h.initialized hinit)

/-! ### Computations of a session -/

theorem session_bind (run : Session σ C α) (next : α → Session σ C β) (engine : Engine σ C) :
    (run >>= next).run engine = (next (run.run engine).1).run (run.run engine).2 := rfl

theorem session_pure (a : α) (engine : Engine σ C) :
    (pure a : Session σ C α).run engine = (a, engine) := rfl

theorem session_get (engine : Engine σ C) :
    (get : Session σ C (Engine σ C)).run engine = (engine, engine) := rfl

theorem follows_bind {run : Session σ C α} {next : α → Session σ C β} {engine : Engine σ C}
    (h : engine.Follows (run.run engine).2)
    (hnext : ∀ a (mid : Engine σ C), mid.Follows ((next a).run mid).2) :
    engine.Follows ((run >>= next).run engine).2 := by
  rw [session_bind]
  exact h.trans (hnext _ _)

/-- A computation in the engine's world leaves the rest of the engine. -/
theorem follows_inWorld {run : Run σ C α} (h : BySteps run) (engine : Engine σ C) :
    engine.Follows ((Session.inWorld run).run engine).2 where
  reaches := h engine.world
  palette_eq := rfl
  texts_eq := rfl
  maxDepth_eq := rfl
  initialized := id

/-- A reply that is computed in the engine's world. -/
theorem follows_reply {run : Run σ C α} (h : BySteps run) (reply : α → Reply σ C)
    (engine : Engine σ C) :
    engine.Follows ((do return reply (← Session.inWorld run) : Session σ C (Reply σ C)).run engine).2 :=
  follows_bind (follows_inWorld h engine) fun _ after => Engine.Follows.refl after

/-! ### Initialization -/

/-- The first call to claim the defaults succeeds, and marks the engine. -/
theorem claimDefaults_first {engine : Engine σ C} (h : engine.initialized = false) :
    Session.claimDefaults.run engine = (true, { engine with initialized := true }) := by
  rw [Session.claimDefaults, session_bind, session_get]
  simp only [h]
  rfl

/-- Later calls fail, and only note that. -/
theorem claimDefaults_later {engine : Engine σ C} (h : engine.initialized = true) :
    Session.claimDefaults.run engine
      = (false, ((Session.inWorld (logEvent .defaultsSkipped)).run engine).2) := by
  rw [Session.claimDefaults, session_bind, session_get]
  simp only [h]
  rfl

theorem follows_claimDefaults (engine : Engine σ C) :
    engine.Follows (Session.claimDefaults.run engine).2 := by
  cases h : engine.initialized with
  | false =>
    rw [claimDefaults_first h]
    exact ⟨Relation.ReflTransGen.refl, rfl, rfl, rfl, fun _ => rfl⟩
  | true =>
    rw [claimDefaults_later h]
    exact follows_inWorld (bySteps_logEvent rfl) engine

theorem registerTexts_run (engine : Engine σ C) :
    Session.registerTexts.run engine
      = (Session.inWorld do
          let colors ← registerAll (colorPlaceholders engine.palette)
          let texts ← registerAll (textPlaceholders engine.texts)
          logEvent (.textsRegistered colors texts)).run engine := rfl

theorem follows_registerTexts (engine : Engine σ C) :
    engine.Follows (Session.registerTexts.run engine).2 := by
  rw [registerTexts_run]
  refine follows_inWorld ?_ engine
  exact bySteps_bind (bySteps_registerAll _) fun _ =>
    bySteps_bind (bySteps_registerAll _) fun _ => bySteps_logEvent rfl

theorem follows_initWithoutHost (engine : Engine σ C) :
    engine.Follows (Session.initWithoutHost.run engine).2 := by
  rw [Session.initWithoutHost]
  refine follows_bind (follows_claimDefaults engine) fun first mid => ?_
  cases first with
  | false => exact Engine.Follows.refl mid
  | true => exact follows_bind (follows_registerTexts mid) fun _ after => Engine.Follows.refl after

variable [PlayerSource σ C]

theorem follows_init (server : ServerSource σ) (engine : Engine σ C) :
    engine.Follows ((Session.init server).run engine).2 := by
  rw [Session.init]
  refine follows_bind (follows_claimDefaults engine) fun first mid => ?_
  cases first with
  | false => exact Engine.Follows.refl mid
  | true =>
    rw [if_pos rfl]
    refine follows_bind (follows_registerTexts mid) fun _ mid' => ?_
    have hhost : BySteps (do
        let player ← registerAll playerPlaceholders
        let server ← registerAll (serverPlaceholders server)
        logEvent (.defaultsRegistered player server (← get).registry.count) : Run σ C Unit) :=
      bySteps_bind (bySteps_registerAll _) fun _ => bySteps_bind (bySteps_registerAll _) fun _ =>
        bySteps_bind bySteps_get fun _ => bySteps_logEvent rfl
    exact follows_bind (follows_inWorld hhost mid') fun _ after => Engine.Follows.refl after

/-! ### Requests -/

/-- Serving a request does what a session may do, and nothing else. -/
theorem serve_follows (request : Request σ C) (engine : Engine σ C) :
    engine.Follows (request.serve.run engine).2 := by
  cases request with
  | init server => exact follows_init server engine
  | initWithoutHost => exact follows_initWithoutHost engine
  | isInitialized => exact Engine.Follows.refl engine
  | isEmpty => exact Engine.Follows.refl engine
  | register p => exact follows_inWorld (bySteps_register p) engine
  | tryRegister p => exact follows_inWorld (bySteps_tryRegister p) engine
  | unregister identifier => exact follows_inWorld (bySteps_unregister identifier) engine
  | contains identifier => exact Engine.Follows.refl engine
  | lookup identifier player params =>
    rw [Request.serve]
    refine follows_bind (Engine.Follows.refl engine) fun current mid => ?_
    cases current.world.registry.lookup? identifier with
    | none => exact Engine.Follows.refl mid
    | some p => exact follows_inWorld (Script.bySteps_run (p.handler player params)) mid
  | identifiers => exact Engine.Follows.refl engine
  | registerPlayer => exact follows_reply (bySteps_registerAll _) .number engine
  | registerServer server => exact follows_reply (bySteps_registerAll _) .number engine
  | registerColors => exact follows_reply (bySteps_registerAll _) .number engine
  | registerTexts entries => exact follows_reply (bySteps_registerAll _) .number engine
  | parse message player maxDepth => exact follows_reply (bySteps_expand _ message) .text engine
  | parseColors message => exact follows_reply (bySteps_expand _ message) .text engine
  | parseAll messages player => exact follows_reply (bySteps_expandAll _ messages) .texts engine
  | check message player maxDepth =>
    exact follows_reply (bySteps_check _ message) .diagnostics engine
  | maxDepth => exact Engine.Follows.refl engine
  | palette => exact Engine.Follows.refl engine
  | characterGradient text colors => exact Engine.Follows.refl engine
  | wordGradient text colors => exact Engine.Follows.refl engine
  | revert text => exact Engine.Follows.refl engine
  | summary maxDepth => exact Engine.Follows.refl engine

/-! ### Whole sessions -/

theorem serveAll_cons (request : Request σ C) (rest : List (Request σ C)) (engine : Engine σ C) :
    (serveAll (request :: rest)).run engine
      = ((request.serve.run engine).1 :: ((serveAll rest).run (request.serve.run engine).2).1,
        ((serveAll rest).run (request.serve.run engine).2).2) := rfl

/-- Requests that follow others are served by the engine that these leave. -/
theorem serveAll_append (front back : List (Request σ C)) (engine : Engine σ C) :
    (serveAll (front ++ back)).run engine
      = (((serveAll front).run engine).1 ++ ((serveAll back).run ((serveAll front).run engine).2).1,
        ((serveAll back).run ((serveAll front).run engine).2).2) := by
  induction front generalizing engine with
  | nil => rfl
  | cons request rest ih =>
    rw [List.cons_append, serveAll_cons, ih, serveAll_cons]
    rfl

/-- There is one reply for each request. -/
theorem length_serveAll (requests : List (Request σ C)) (engine : Engine σ C) :
    ((serveAll requests).run engine).1.length = requests.length := by
  induction requests generalizing engine with
  | nil => rfl
  | cons request rest ih => rw [serveAll_cons, List.length_cons, ih, List.length_cons]

/-- A session is a chain of steps. -/
theorem serveAll_follows (requests : List (Request σ C)) (engine : Engine σ C) :
    engine.Follows ((serveAll requests).run engine).2 := by
  induction requests generalizing engine with
  | nil => exact Engine.Follows.refl engine
  | cons request rest ih =>
    rw [serveAll]
    refine follows_bind (serve_follows request engine) fun reply mid => ?_
    exact follows_bind (ih mid) fun _ after => Engine.Follows.refl after

end MessageTemplate
