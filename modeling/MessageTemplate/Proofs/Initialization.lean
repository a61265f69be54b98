import MessageTemplate.Proofs.Palettes
import MessageTemplate.Proofs.Precedence
import MessageTemplate.Proofs.Registrations

/-!
What the first initialization registers.

Placeholders that are registered in bulk are looked at one after the other, and each is added unless
its identifier is taken. So a name belongs to the first entry that has it, be it one that stood in the
registry before or one of the new ones: to look a name up afterwards is to look it up in the old
entries followed by all the new ones (`Registry.get?_addAll`).

An initialization registers the colors before everything else. On an empty registry every name of the
palette therefore names its color, in whatever case and whatever the texts, the players and the server
bring along (`Engine.IsInitialized.lookup?_color`).
-/

namespace MessageTemplate

variable {σ C : Type}

/-! ## Registering in bulk -/

/-- The registry with the placeholder behind the others, if its identifier is free. -/
def Registry.add (registry : Registry σ C) (p : Placeholder σ C) : Registry σ C :=
  if Text.lowercase p.identifier ∈ registry.identifiers then registry
  else ⟨registry.table.push (Text.lowercase p.identifier) p⟩

/-- The registry with all the placeholders whose identifiers were free when their turn came. -/
def Registry.addAll (registry : Registry σ C) (ps : List (Placeholder σ C)) : Registry σ C :=
  ps.foldl Registry.add registry

/-- A placeholder under the identifier by which it is found. -/
def Placeholder.entry (p : Placeholder σ C) : String × Placeholder σ C :=
  (Text.lowercase p.identifier, p)

theorem Registry.addAll_append (registry : Registry σ C) (ps qs : List (Placeholder σ C)) :
    registry.addAll (ps ++ qs) = (registry.addAll ps).addAll qs :=
  List.foldl_append

theorem registry_register (p : Placeholder σ C) (world : World σ C) :
    ((register p).run world).2.registry = world.registry.add p := by
  rw [register_run, Registry.add]
  by_cases htaken : Text.lowercase p.identifier ∈ world.registry.identifiers
  · rw [if_pos htaken, tryRegister_taken htaken]
    rfl
  · rw [if_neg htaken, tryRegister_free htaken]
    rfl

theorem registry_logEvent (event : Event) (world : World σ C) :
    ((logEvent event).run world).2.registry = world.registry := rfl

theorem registry_registerAll (ps : List (Placeholder σ C)) (world : World σ C) :
    ((registerAll ps).run world).2.registry = world.registry.addAll ps := by
  induction ps generalizing world with
  | nil => rfl
  | cons p rest ih =>
    have hrest : ((registerAll (p :: rest)).run world).2.registry
        = ((registerAll rest).run ((register p).run world).2).2.registry := by
      rw [registerAll, run_bind, run_bind, run_pure]
    rw [hrest, ih, registry_register]
    rfl

theorem Registry.get?_add (registry : Registry σ C) (p : Placeholder σ C) (key : String) :
    (registry.add p).table.get? key = (registry.table.get? key).or ([p.entry].lookup key) := by
  rw [Registry.add]
  by_cases htaken : Text.lowercase p.identifier ∈ registry.identifiers
  · rw [if_pos htaken]
    cases hkey : registry.table.get? key with
    | some q => rfl
    | none =>
      -- the key is another one than the taken identifier
      have hfree : key ∉ registry.identifiers := Table.get?_eq_none_iff.mp hkey
      have hne : key ≠ p.entry.1 := fun heq => hfree (heq ▸ htaken)
      rw [Option.none_or, eq_comm, List.lookup_eq_none_iff]
      intro entry hentry
      rw [List.mem_singleton.mp hentry]
      exact bne_iff_ne.mpr hne
  · rw [if_neg htaken]
    exact Table.get?_push _ _ _ _

/-- A name belongs to the first entry that has it, of the old ones or of the new ones. -/
theorem Registry.get?_addAll (registry : Registry σ C) (ps : List (Placeholder σ C)) (key : String) :
    (registry.addAll ps).table.get? key
      = (registry.table.get? key).or ((ps.map Placeholder.entry).lookup key) := by
  induction ps generalizing registry with
  | nil =>
    rw [List.map_nil, List.lookup_nil, Option.or_none]
    rfl
  | cons p rest ih =>
    have hstep : registry.addAll (p :: rest) = (registry.add p).addAll rest := rfl
    have hsplit : (p :: rest).map Placeholder.entry = [p.entry] ++ rest.map Placeholder.entry := rfl
    rw [hstep, ih, Registry.get?_add, hsplit, List.lookup_append, Option.or_assoc]

/-- The old entries stay as they are, and behind them come the new ones whose identifiers were free
when their turn came. -/
theorem Registry.entries_addAll (registry : Registry σ C) (ps : List (Placeholder σ C)) :
    (registry.addAll ps).table.entries
      = registry.table.entries ++ newEntries registry.identifiers (ps.map Placeholder.entry) := by
  induction ps generalizing registry with
  | nil => exact (List.append_nil _).symm
  | cons p rest ih =>
    have hstep : registry.addAll (p :: rest) = (registry.add p).addAll rest := rfl
    rw [hstep, ih, List.map_cons]
    by_cases htaken : p.entry.1 ∈ registry.identifiers
    · have hadd : registry.add p = registry := if_pos htaken
      rw [hadd, newEntries_taken htaken]
    · have hadd : registry.add p = ⟨registry.table.push p.entry.1 p⟩ := if_neg htaken
      rw [hadd, newEntries_free htaken, Registry.identifiers, Table.keys_push, Table.push,
        List.append_assoc]
      rfl

/-- Where nothing was registered, placeholders with different names are all added under their names. -/
theorem Registry.entries_addAll_empty {ps : List (Placeholder σ C)} {names : List String}
    (hnames : ps.map (fun p => Text.lowercase p.identifier) = names) (hdistinct : names.Nodup) :
    ((Registry.empty : Registry σ C).addAll ps).table.entries = names.zip ps := by
  have hzip : names.zip ps = ps.map Placeholder.entry := by
    have hpairs := List.zip_map' (l := ps) (f := fun p => Text.lowercase p.identifier) (g := id)
    rwa [hnames, List.map_id] at hpairs
  have hentries : (ps.map Placeholder.entry).map (·.1) = names := by
    rw [List.map_map]
    exact hnames
  rw [hzip, Registry.entries_addAll]
  exact newEntries_eq_self (fun _ _ => List.not_mem_nil) (hentries ▸ hdistinct)

/-! ## Colors before all others -/

/-- The color placeholders are found under the names of the palette, and nowhere else. -/
theorem Palette.IsChecked.lookup_colorPlaceholders {palette : Palette} (h : palette.IsChecked)
    (key : String) :
    ((colorPlaceholders palette : List (Placeholder σ C)).map Placeholder.entry).lookup key
      = (palette.table.get? key).map (.constant key) := by
  have hlower : ∀ entry ∈ palette.table.entries, Text.lowercase entry.1 = entry.1 :=
    h.lowercase_name
  rw [colorPlaceholders, textPlaceholders, Table.get?, Palette.entries]
  generalize palette.table.entries = entries at hlower
  induction entries with
  | nil => rfl
  | cons entry rest ih =>
    obtain ⟨name, code⟩ := entry
    obtain ⟨hname, hrest⟩ := List.forall_mem_cons.mp hlower
    -- a name is stored in lower case already, so it is registered as it stands in the palette
    have hentry : Placeholder.entry (.constant name code : Placeholder σ C)
        = (name, .constant name code) := congrArg (·, _) hname
    rw [List.map_cons, List.map_cons, hentry, List.lookup_cons, List.lookup_cons]
    by_cases hkey : key = name
    · rw [hkey, beq_self_eq_true]
      rfl
    · rw [beq_false_of_ne hkey]
      exact ih hrest

/-- Where the colors are registered before all others, every name of the palette, in whatever case, names
its color. -/
theorem Palette.IsChecked.lookup?_color {palette : Palette} (h : palette.IsChecked)
    (more : List (Placeholder σ C)) {identifier code : String}
    (hcode : palette.code? identifier = some code) :
    (Registry.empty.addAll (colorPlaceholders palette ++ more)).lookup? identifier
      = some (.constant (Text.lowercase identifier) code) := by
  have hcolor := h.lookup_colorPlaceholders (σ := σ) (C := C) (Text.lowercase identifier)
  rw [Palette.code?] at hcode
  rw [hcode, Option.map_some] at hcolor
  rw [Registry.lookup?, Registry.get?_addAll, List.map_append, List.lookup_append, hcolor]
  rfl

/-! ## The first initialization -/

theorem inWorld_run {α : Type} (run : Run σ C α) (engine : Engine σ C) :
    (Session.inWorld run).run engine
      = ((run.run engine.world).1, { engine with world := (run.run engine.world).2 }) := rfl

/-- The colors come first and the configured texts behind them. -/
theorem registry_registerTexts (engine : Engine σ C) :
    (Session.registerTexts.run engine).2.world.registry
      = engine.world.registry.addAll
          (colorPlaceholders engine.palette ++ textPlaceholders engine.texts) := by
  have hworld : (Session.registerTexts.run engine).2.world.registry
      = ((registerAll (textPlaceholders engine.texts)).run
          ((registerAll (colorPlaceholders engine.palette)).run engine.world).2).2.registry := by
    rw [registerTexts_run, inWorld_run]
    rfl
  rw [hworld, registry_registerAll, registry_registerAll, Registry.addAll_append]

/-- Without a host, colors and texts are registered. -/
theorem registry_initWithoutHost {engine : Engine σ C} (h : engine.initialized = false) :
    (Session.initWithoutHost.run engine).2.world.registry
      = engine.world.registry.addAll
          (colorPlaceholders engine.palette ++ textPlaceholders engine.texts) := by
  rw [Session.initWithoutHost, session_bind, claimDefaults_first h, if_pos rfl]
  exact registry_registerTexts { engine with initialized := true }

variable [PlayerSource σ C]

/-- With a host, the fields of players and of the server come behind the colors and the texts. -/
theorem registry_init {engine : Engine σ C} (h : engine.initialized = false) (server : ServerSource σ) :
    ((Session.init server).run engine).2.world.registry
      = engine.world.registry.addAll
          (colorPlaceholders engine.palette ++ textPlaceholders engine.texts
            ++ playerPlaceholders ++ serverPlaceholders server) := by
  -- the note at the end sums up the registrations and adds none
  have hregister : ∀ (mid : World σ C), ((do
      let player ← registerAll playerPlaceholders
      let server ← registerAll (serverPlaceholders server)
      logEvent (.defaultsRegistered player server (← get).registry.count)
        : Run σ C Unit).run mid).2.registry
      = mid.registry.addAll (playerPlaceholders ++ serverPlaceholders server) := by
    intro mid
    rw [Registry.addAll_append, ← registry_registerAll, ← registry_registerAll, run_bind, run_bind,
      run_bind, run_get, registry_logEvent]
  have htexts : (Session.registerTexts.run { engine with initialized := true }).2.world.registry
      = engine.world.registry.addAll
          (colorPlaceholders engine.palette ++ textPlaceholders engine.texts) :=
    registry_registerTexts _
  rw [Session.init, session_bind, claimDefaults_first h, if_pos rfl, session_bind, session_bind,
    session_pure, inWorld_run]
  dsimp only
  rw [hregister, htexts, ← Registry.addAll_append, ← List.append_assoc]

/-- The two ways to initialize an engine. -/
inductive Session.Initializes : Session σ C Bool → Prop where
  | init (server : ServerSource σ) : Session.Initializes (Session.init server)
  | initWithoutHost : Session.Initializes Session.initWithoutHost

/-- Whichever way an engine is initialized, the colors are registered before all others. -/
theorem Session.Initializes.registry_eq {first : Session σ C Bool} (hfirst : first.Initializes)
    {engine : Engine σ C} (h : engine.initialized = false) :
    ∃ more, (first.run engine).2.world.registry
      = engine.world.registry.addAll (colorPlaceholders engine.palette ++ more) := by
  cases hfirst with
  | init server =>
    refine ⟨textPlaceholders engine.texts ++ playerPlaceholders ++ serverPlaceholders server, ?_⟩
    rw [registry_init h, List.append_assoc, List.append_assoc, List.append_assoc]
  | initWithoutHost => exact ⟨textPlaceholders engine.texts, registry_initWithoutHost h⟩

theorem Session.Initializes.follows {first : Session σ C Bool} (hfirst : first.Initializes)
    (engine : Engine σ C) : engine.Follows (first.run engine).2 := by
  cases hfirst with
  | init server => exact follows_init server engine
  | initWithoutHost => exact follows_initWithoutHost engine

/-! ## Initialized engines -/

/-- The engine was made for the settings and initialized while nothing was registered, and whatever was
requested since, its registry is the one that the initialization left. -/
def Engine.IsInitialized (settings : Settings) (engine : Engine σ C) : Prop :=
  ∃ (state : σ) (fresh : Engine σ C) (first : Session σ C Bool),
    (Engine.ofSettings settings state).Follows fresh ∧ fresh.initialized = false
      ∧ fresh.world.registry = .empty ∧ first.Initializes
      ∧ (first.run fresh).2.Follows engine
      ∧ engine.world.registry = (first.run fresh).2.world.registry

namespace Engine.IsInitialized

variable {settings : Settings} {engine : Engine σ C}

/-- An engine that is initialized before anything else. -/
theorem of_initializes {first : Session σ C Bool} (hfirst : first.Initializes) (settings : Settings)
    (state : σ) : Engine.IsInitialized settings (first.run (.ofSettings settings state)).2 :=
  ⟨state, .ofSettings settings state, first, .refl _, rfl, rfl, hfirst, .refl _, rfl⟩

theorem palette_eq (h : engine.IsInitialized settings) : engine.palette = settings.palette := by
  obtain ⟨state, fresh, first, hfresh, -, -, hfirst, hafter, -⟩ := h
  rw [hafter.palette_eq, (hfirst.follows fresh).palette_eq, hfresh.palette_eq]
  rfl

theorem maxDepth_eq (h : engine.IsInitialized settings) : engine.maxDepth = settings.maxDepth := by
  obtain ⟨state, fresh, first, hfresh, -, -, hfirst, hafter, -⟩ := h
  rw [hafter.maxDepth_eq, (hfirst.follows fresh).maxDepth_eq, hfresh.maxDepth_eq]
  rfl

/-- In an engine for checked settings every name of the palette, in whatever case, names its color. -/
theorem lookup?_color (h : engine.IsInitialized settings) (hvalid : settings.validate = .ok ())
    {identifier code : String} (hcode : settings.palette.code? identifier = some code) :
    engine.world.registry.lookup? identifier
      = some (.constant (Text.lowercase identifier) code) := by
  obtain ⟨state, fresh, first, hfresh, hfirstCall, hempty, hfirst, -, hregistry⟩ := h
  obtain ⟨more, hmore⟩ := hfirst.registry_eq hfirstCall
  have hpalette : fresh.palette = settings.palette := hfresh.palette_eq
  rw [hregistry, hmore, hempty, hpalette]
  exact (Settings.isChecked_palette hvalid).lookup?_color more hcode

end Engine.IsInitialized

end MessageTemplate
