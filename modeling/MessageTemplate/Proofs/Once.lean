import MessageTemplate.Proofs.Defaults

/-!
The defaults are registered once.

An engine has one mark for both ways to initialize it, and nothing that is requested takes the mark away.
So the mark says whether an initialization was among the requests so far (`serveAll_initialized`), and the
answer to an initialization says whether it was the first of them. What became of the registry in the
meantime does not matter: a later initialization is refused before it looks at the registry, also where
registering the defaults again would succeed (`Request.serve_again`).
-/

namespace MessageTemplate

variable {σ C : Type}

/-! ## One request -/

/-- Whether the request is to initialize the engine, with a host or without. -/
def Request.isInit : Request σ C → Bool
  | .init _ => true
  | .initWithoutHost => true
  | _ => false

/-- The engine in which a refused initialization is logged, and nothing else has changed. -/
def Engine.withRefusedInit (engine : Engine σ C) : Engine σ C :=
  { engine with world := { engine.world with log := engine.world.log.push .defaultsSkipped } }

/-- What happens in the engine's world does not touch the mark. -/
theorem initialized_inWorld {α : Type} (run : Run σ C α) (engine : Engine σ C) :
    ((Session.inWorld run).run engine).2.initialized = engine.initialized := rfl

/-- Nor does a reply that is computed there. -/
theorem initialized_reply {α : Type} (run : Run σ C α) (reply : α → Reply σ C)
    (engine : Engine σ C) :
    ((do return reply (← Session.inWorld run) : Session σ C (Reply σ C)).run engine).2.initialized
      = engine.initialized := rfl

theorem initialized_registerTexts (engine : Engine σ C) :
    (Session.registerTexts.run engine).2.initialized = engine.initialized := by
  rw [registerTexts_run, initialized_inWorld]

section Serve

variable [PlayerSource σ C] {engine : Engine σ C} {request : Request σ C}

/-- A request to initialize is answered by whether this was the first initialization. -/
theorem Request.exists_initializes (h : request.isInit = true) :
    ∃ first : Session σ C Bool, first.Initializes
      ∧ request.serve = do return .flag (← first) := by
  cases request with
  | init server => exact ⟨_, .init server, rfl⟩
  | initWithoutHost => exact ⟨_, .initWithoutHost, rfl⟩
  | _ => cases h

/-- The first initialization marks the engine. -/
theorem Session.Initializes.marks {first : Session σ C Bool} (hfirst : first.Initializes)
    (h : engine.initialized = false) : (first.run engine).2.initialized = true := by
  cases hfirst with
  | init server =>
    rw [Session.init, session_bind, claimDefaults_first h, if_pos rfl, session_bind, session_bind,
      session_pure, initialized_inWorld, initialized_registerTexts]
  | initWithoutHost =>
    rw [Session.initWithoutHost, session_bind, claimDefaults_first h, if_pos rfl, session_bind,
      session_pure, initialized_registerTexts]

/-- Where the engine is marked, an initialization is refused, and nothing but the log has changed. -/
theorem Session.Initializes.refused {first : Session σ C Bool} (hfirst : first.Initializes)
    (h : engine.initialized = true) : first.run engine = (false, engine.withRefusedInit) := by
  cases hfirst with
  | init server =>
    rw [Session.init, session_bind, claimDefaults_later h]
    rfl
  | initWithoutHost =>
    rw [Session.initWithoutHost, session_bind, claimDefaults_later h]
    rfl

/-- The first initialization is said to be the first. -/
theorem Request.serve_first (hinit : request.isInit = true) (h : engine.initialized = false) :
    (request.serve.run engine).1 = .flag true
      ∧ (request.serve.run engine).2.initialized = true := by
  obtain ⟨first, hfirst, hserve⟩ := request.exists_initializes hinit
  rw [hserve, session_bind, session_pure, hfirst.answer h]
  exact ⟨rfl, hfirst.marks h⟩

/-- Every later one is refused. -/
theorem Request.serve_again (hinit : request.isInit = true) (h : engine.initialized = true) :
    request.serve.run engine = (.flag false, engine.withRefusedInit) := by
  obtain ⟨first, hfirst, hserve⟩ := request.exists_initializes hinit
  rw [hserve, session_bind, session_pure, hfirst.refused h]

/-- Other requests leave the mark as it is. -/
theorem Request.initialized_serve_of_not_isInit (h : request.isInit = false) (engine : Engine σ C) :
    (request.serve.run engine).2.initialized = engine.initialized := by
  cases request with
  | init => cases h
  | initWithoutHost => cases h
  | lookup identifier player params =>
    rw [Request.serve, session_bind, session_get]
    cases engine.world.registry.lookup? identifier with
    | none => rfl
    | some p => rfl
  | registerPlayer =>
    rw [Request.serve]
    exact initialized_reply _ .number engine
  | registerServer server =>
    rw [Request.serve]
    exact initialized_reply _ .number engine
  | registerColors =>
    rw [Request.serve, session_bind, session_get]
    exact initialized_reply _ .number engine
  | registerTexts entries =>
    rw [Request.serve]
    exact initialized_reply _ .number engine
  | _ => rfl

/-- The engine is marked behind a request if it was before, or if the request is to initialize it. -/
theorem Request.initialized_serve (request : Request σ C) (engine : Engine σ C) :
    (request.serve.run engine).2.initialized = (engine.initialized || request.isInit) := by
  cases hinit : request.isInit with
  | false => rw [request.initialized_serve_of_not_isInit hinit, Bool.or_false]
  | true =>
    rw [Bool.or_true]
    cases h : engine.initialized with
    | false => exact (request.serve_first hinit h).2
    | true =>
      rw [request.serve_again hinit h]
      exact h

end Serve

/-! ## Whole sessions -/

section Sessions

variable [PlayerSource σ C]

/-- After a session, the engine is marked if it was before or if an initialization was requested. -/
theorem serveAll_initialized (requests : List (Request σ C)) (engine : Engine σ C) :
    ((serveAll requests).run engine).2.initialized
      = (engine.initialized || requests.any Request.isInit) := by
  induction requests generalizing engine with
  | nil => exact (Bool.or_false _).symm
  | cons request rest ih =>
    rw [serveAll_cons, ih, request.initialized_serve, List.any_cons, Bool.or_assoc]

/-- How a request is served by an engine for these settings, behind others among which there was an
initialization or not. An initialization says whether it is the first one, and a later one changes the log
alone; the engine tells on request whether there was one; and what it was made with stays. -/
structure Request.InitOnce (settings : Settings) (asked : Bool) (before : Engine σ C)
    (request : Request σ C) (reply : Reply σ C) (after : Engine σ C) : Prop where
  marked_before : before.initialized = asked
  marked_after : after.initialized = (asked || request.isInit)
  first_only : request.isInit = true → reply = .flag (!asked)
  later_refused : request.isInit = true → asked = true → after = before.withRefusedInit
  registry_kept : request.isInit = true → asked = true →
    after.world.registry = before.world.registry
  told : request = .isInitialized → reply = .flag asked
  palette_kept : after.palette = settings.palette
  texts_kept : after.texts = settings.placeholders.entries
  maxDepth_kept : after.maxDepth = settings.maxDepth

/-- What serving does of an initialization, in an engine that a session for the settings leads to. -/
theorem Engine.Follows.initOnce {settings : Settings} {state : σ} {before : Engine σ C}
    (h : (Engine.ofSettings settings state).Follows before) (request : Request σ C) :
    request.InitOnce settings before.initialized before (request.serve.run before).1
      (request.serve.run before).2 := by
  have hafter := h.trans (serve_follows request before)
  have hlater : request.isInit = true → before.initialized = true →
      request.serve.run before = (.flag false, before.withRefusedInit) :=
    fun hinit hmarked => request.serve_again hinit hmarked
  refine ⟨rfl, request.initialized_serve before, fun hinit => ?_, fun hinit hmarked => ?_,
    fun hinit hmarked => ?_, ?_, hafter.palette_eq, hafter.texts_eq, hafter.maxDepth_eq⟩
  · cases hmarked : before.initialized with
    | false => exact (request.serve_first hinit hmarked).1
    | true =>
      rw [hlater hinit hmarked]
      rfl
  · rw [hlater hinit hmarked]
  · rw [hlater hinit hmarked]
    rfl
  · rintro rfl
    rfl

/-- Of all initializations in a session, with a host or without, only the first one is carried out. At
every place of every session the engine knows whether there was one before; the first one is answered by
`true`, and a later one by `false` and without a change of the registry, whatever was registered or taken
out in between. No request changes the palette, the configured texts or the bound. -/
theorem only_first_init_counts (settings : Settings) (state : σ) (front : List (Request σ C))
    (request : Request σ C) (back : List (Request σ C)) :
    let start := Engine.ofSettings settings state
    let before := ((serveAll front).run start).2
    let served := request.serve.run before
    ((serveAll (front ++ request :: back)).run start).1[front.length]? = some served.1
      ∧ request.InitOnce settings (front.any Request.isInit) before served.1 served.2 := by
  intro start before served
  have hasked : before.initialized = front.any Request.isInit := serveAll_initialized front start
  constructor
  · rw [serveAll_append, serveAll_cons]
    have hlength : ((serveAll front).run start).1.length = front.length := length_serveAll front start
    rw [← hlength, List.getElem?_append_right (Nat.le_refl _), Nat.sub_self]
    rfl
  · rw [← hasked]
    exact (serveAll_follows front start).initOnce request

end Sessions

/-- Without a host, and with one color taken out again, initializing with a host adds nothing. -/
theorem only_first_init_counts_without_host :
    let front : List (Request Unit) := [.initWithoutHost, .unregister "Red"]
    let before := ((serveAll front).run (.ofSettings {} ())).2
    let served := (Request.init ({} : Server)).serve.run before
    (Request.init ({} : Server) : Request Unit).InitOnce {} true before served.1 served.2
      ∧ served.1 = .flag false
      ∧ served.2.world.registry.identifiers = Palette.standard.table.keys.erase "red" := by
  intro front before served
  obtain ⟨-, hlaw⟩ := only_first_init_counts {} () front (.init ({} : Server)) []
  refine ⟨hlaw, hlaw.first_only rfl, ?_⟩
  rw [hlaw.registry_kept rfl rfl]
  decide +kernel

end MessageTemplate
