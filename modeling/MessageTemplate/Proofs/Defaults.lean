import MessageTemplate.Proofs.Hosts
import MessageTemplate.Proofs.Naming

/-!
What the first initialization leaves behind.

Four lists of placeholders are offered to the registry, in this order: the colors of the palette, the
configured texts, the fields of players, and the fields of the server. Whatever stood in the registry
stays in its place, and of what is offered the first placeholder of each free name is added
(`Registry.entries_addAll`). The colors themselves come from a table that is filled by the opposite
rule: of several configured keys with one name in lower case the last one counts
(`Settings.entries_palette`).

Since the colors are offered first, on an empty registry no text, player or server takes their names.
So every name of the palette is then expanded to the palette's own code for it.
-/

namespace MessageTemplate

variable {σ C : Type}

/-! ## The palette of settings -/

namespace Settings

end Settings

/-! ## Names in any case -/

/-- In whatever ASCII case a name of a checked palette is written, it is a name and has its code. -/
theorem Palette.IsChecked.code?_of_toLower {palette : Palette} (h : palette.IsChecked)
    {name code : String} (hentry : (name, code) ∈ palette.entries) {identifier : String}
    (hidentifier : identifier.toLower = name) :
    IsName identifier.toList ∧ palette.code? identifier = some code := by
  obtain ⟨hname, hlowercase⟩ := IsName.of_toLower (h.isName (name, code) hentry) hidentifier
  refine ⟨hname, ?_⟩
  rw [Palette.code?, hlowercase]
  exact (Table.get?_eq_some_iff h.names_distinct).mpr hentry

/-! ## The first initialization -/

/-- An engine for the settings that is not initialized yet. Whatever may stand in its registry. -/
structure Engine.IsFresh (settings : Settings) (engine : Engine σ C) : Prop where
  palette_eq : engine.palette = settings.palette
  texts_eq : engine.texts = settings.placeholders.entries
  maxDepth_eq : engine.maxDepth = settings.maxDepth
  not_initialized : engine.initialized = false

section First

variable [PlayerSource σ C] {settings : Settings} {engine : Engine σ C} {first : Session σ C Bool}

/-- The first initialization says that it was the first. -/
theorem Session.Initializes.answer (hfirst : first.Initializes)
    (h : engine.initialized = false) : (first.run engine).1 = true := by
  cases hfirst with
  | init server =>
    rw [Session.init, session_bind, claimDefaults_first h, if_pos rfl, session_bind, session_bind,
      session_pure]
  | initWithoutHost =>
    rw [Session.initWithoutHost, session_bind, claimDefaults_first h, if_pos rfl, session_bind,
      session_pure]

/-- On an empty registry, the names of a checked palette are its colors. -/
theorem Session.Initializes.hasColors (hfirst : first.Initializes) (hfresh : engine.IsFresh settings)
    (hempty : engine.world.registry = .empty) (hvalid : settings.validate = .ok ()) :
    (first.run engine).2.world.registry.HasColors settings.palette := by
  obtain ⟨more, hmore⟩ := hfirst.registry_eq hfresh.not_initialized
  intro identifier code hcode
  rw [hmore, hempty, hfresh.palette_eq]
  exact (Settings.isChecked_palette hvalid).lookup?_color more hcode

/-- Then a token with the name of a color, in whatever ASCII case, is expanded to the color's code. -/
theorem Session.Initializes.parse_color (hfirst : first.Initializes)
    (hfresh : engine.IsFresh settings) (hempty : engine.world.registry = .empty)
    (hvalid : settings.validate = .ok ()) (hdepth : 0 < settings.maxDepth) {name code : String}
    (hentry : (name, code) ∈ settings.palette.entries) {identifier : String}
    (hidentifier : identifier.toLower = name) (player : Option C) :
    ((Request.parse (Token.mk identifier none).raw player none).serve.run (first.run engine).2).1
      = .text code := by
  have hchecked := Settings.isChecked_palette hvalid
  obtain ⟨hname, hcode⟩ := hchecked.code?_of_toLower hentry hidentifier
  have ht : (Token.mk identifier none).WellFormed := ⟨hname, fun params hparams => nomatch hparams⟩
  have hcolor : settings.palette.IsColor ⟨identifier, none⟩ := by
    refine ⟨rfl, ?_⟩
    by_contra hmissing
    rw [Palette.code?, Table.get?_eq_none_iff.mpr hmissing] at hcode
    cases hcode
  have hmaxDepth : (first.run engine).2.maxDepth = settings.maxDepth :=
    (hfirst.follows engine).maxDepth_eq.trans hfresh.maxDepth_eq
  -- the message is this one token, so painting it gives the code alone
  have htokens : ∀ found ∈ tokens (Token.mk identifier none).raw,
      settings.palette.IsColor found.1 := by
    intro found hfound
    rw [tokens, scan_raw ht] at hfound
    rw [List.mem_singleton.mp hfound]
    exact hcolor
  have hpainted := substitute_colors player settings.maxDepth hchecked
    (hfirst.hasColors hfresh hempty hvalid) htokens
  have hserve : ((Request.parse (Token.mk identifier none).raw player none).serve.run
      (first.run engine).2).1 = .text ((expand player (first.run engine).2.maxDepth
        (Token.mk identifier none).raw).run (first.run engine).2.world).1 := rfl
  rw [hserve, hmaxDepth, expand_of_pos hdepth, hpainted, scan_raw ht, Palette.paint, Palette.paint,
    hcode, Option.getD_some, String.append_empty]

/-- What an initialization does to an engine for the settings if it is the first one, and offers these
placeholders to the registry in this order. -/
structure Session.Registers (first : Session σ C Bool) (settings : Settings) (engine : Engine σ C)
    (offered : List (Placeholder σ C)) : Prop where
  /-- It says that it was the first. -/
  answer_eq : (first.run engine).1 = true
  /-- Whatever stood in the registry stays as it is, and behind it come the placeholders whose identifiers
  in lower case were free when their turn came. -/
  entries_eq : (first.run engine).2.world.registry.table.entries
    = engine.world.registry.table.entries
      ++ newEntries engine.world.registry.identifiers (offered.map Placeholder.entry)
  /-- On an empty registry, a token with any name of a checked palette, in whatever ASCII case, is then
  expanded to the palette's code. -/
  colors : engine.world.registry = .empty → settings.validate = .ok () → 0 < settings.maxDepth →
    ∀ name code, (name, code) ∈ settings.palette.entries →
    ∀ identifier : String, identifier.toLower = name → ∀ player,
      ((Request.parse (Token.mk identifier none).raw player none).serve.run
        (first.run engine).2).1 = .text code

/-- Either way to initialize does so with the placeholders that it passes to the registry. -/
theorem Session.Initializes.registers (hfirst : first.Initializes) (hfresh : engine.IsFresh settings)
    {offered : List (Placeholder σ C)}
    (hregistry : (first.run engine).2.world.registry = engine.world.registry.addAll offered) :
    first.Registers settings engine offered where
  answer_eq := hfirst.answer hfresh.not_initialized
  entries_eq := by rw [hregistry, Registry.entries_addAll]
  colors := by
    intro hempty hvalid hdepth name code hentry identifier hidentifier player
    exact hfirst.parse_color hfresh hempty hvalid hdepth hentry hidentifier player

end First

end MessageTemplate
