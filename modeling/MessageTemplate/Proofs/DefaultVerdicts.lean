import MessageTemplate.Proofs.Defaults
import MessageTemplate.Proofs.Verdicts

/-!
What checking reports where nothing but the defaults is registered.

A placeholder of the defaults always gives a text when it is asked, be it a constant or whatever the host
answers, and leaves the registry as it is (`Placeholder.IsDefault`). So a token can only be refused before
its placeholder is asked, and whether it is depends on names (`Settings.reason?`): whom the name belongs to,
since colors and configured texts are offered before the fields of players and hide those of the same name,
and whether the token has parameters, which no default placeholder takes. What the host answers, and that
it may answer otherwise the next time, has no part in it.

Values are expanded while a message is checked, and configured texts may name one another in circles.
That has no part in what is reported either. A token of a value that stays is part of the value, and the
bound on nested values only stops the expansion of a value; it refuses a token of the message itself only
if it allows no level at all.
-/

namespace MessageTemplate

variable {σ C : Type}

/-! ## Default placeholders -/

namespace Placeholder.IsDefault

variable {requiresContext : Bool} {p : Placeholder σ C}

/-- Its handler never fails. -/
theorem isDecided (h : p.IsDefault requiresContext) : p.IsDecided := by
  intro context params
  obtain ⟨question, hquestion⟩ := h.asks context params
  refine ⟨none, fun world => ?_⟩
  rw [hquestion world]
  exact ⟨rfl, rfl⟩

/-- The gates let its tokens pass unless the context is missing, or else there are parameters. -/
theorem gate_eq (h : p.IsDefault requiresContext) {registry : Registry σ C} {t : Token}
    (hlookup : registry.lookup? t.identifier = some p) (context : Option C) :
    registry.gate context t
      = if requiresContext && context.isNone then
          .error ⟨Text.lowercase t.identifier, .missingRequiredContext⟩
        else if t.params.isSome then .error ⟨Text.lowercase t.identifier, .unsupportedParameters⟩
        else .ok p := by
  rw [Registry.gate_of_some hlookup]
  simp only [h.requiresContext_eq, h.supportsParameters_eq, Bool.not_false, Bool.and_true]

/-- Nothing but the gates refuses its tokens. -/
theorem refusal?_eq (h : p.IsDefault requiresContext) {world : World σ C} {t : Token}
    (hlookup : world.registry.lookup? t.identifier = some p) (context : Option C) :
    world.refusal? context t
      = if requiresContext && context.isNone then
          some ⟨Text.lowercase t.identifier, .missingRequiredContext⟩
        else if t.params.isSome then some ⟨Text.lowercase t.identifier, .unsupportedParameters⟩
        else none := by
  have hgate := h.gate_eq hlookup context
  by_cases hcontext : (requiresContext && context.isNone) = true
  · rw [if_pos hcontext] at hgate ⊢
    exact World.refusal?_refused hgate
  · rw [if_neg hcontext] at hgate ⊢
    by_cases hparams : t.params.isSome = true
    · rw [if_pos hparams] at hgate ⊢
      exact World.refusal?_refused hgate
    · rw [if_neg hparams] at hgate ⊢
      obtain ⟨question, hquestion⟩ := h.asks context t.params
      have hresult : ((p.handler context t.params).run.run world).1.result
          = .ok (question.run world.state).1 := by
        rw [hquestion world]
        rfl
      exact World.refusal?_value (Registry.admits_of_gate_eq hgate) hresult

end Placeholder.IsDefault

theorem isDefault_of_mem_textPlaceholders {entries : List (String × String)}
    {p : Placeholder σ C} (h : p ∈ textPlaceholders entries) : p.IsDefault false := by
  obtain ⟨entry, -, rfl⟩ := List.mem_map.mp h
  exact Placeholder.isDefault_constant _ _

/-! ## Names -/

/-- The names by which placeholders are found, in lower case. -/
def Placeholder.names (ps : List (Placeholder σ C)) : List String :=
  (ps.map Placeholder.entry).map (·.1)

theorem Placeholder.names_append (ps qs : List (Placeholder σ C)) :
    names (ps ++ qs) = names ps ++ names qs := by
  rw [names, List.map_append, List.map_append, names, names]

/-- Who is found under a name is one of the placeholders. -/
theorem Placeholder.mem_of_lookup {ps : List (Placeholder σ C)} {name : String} {p : Placeholder σ C}
    (h : (ps.map entry).lookup name = some p) : p ∈ ps := by
  have hget : (Table.mk (ps.map entry)).get? name = some p := h
  obtain ⟨q, hq, hentry⟩ := List.mem_map.mp (Table.mem_entries_of_get?_eq hget)
  obtain rfl : q = p := congrArg Prod.snd hentry
  exact hq

theorem Placeholder.lookup_eq_none_iff {ps : List (Placeholder σ C)} {name : String} :
    (ps.map entry).lookup name = none ↔ name ∉ names ps := by
  have hget : (Table.mk (ps.map entry)).get? name = none ↔ name ∉ (Table.mk (ps.map entry)).keys :=
    Table.get?_eq_none_iff
  exact hget

/-- A name that is there belongs to one of the placeholders. -/
theorem Placeholder.exists_lookup {ps : List (Placeholder σ C)} {name : String} (h : name ∈ names ps) :
    ∃ p ∈ ps, (ps.map entry).lookup name = some p := by
  cases hlookup : (ps.map entry).lookup name with
  | none => exact absurd h (lookup_eq_none_iff.mp hlookup)
  | some p => exact ⟨p, mem_of_lookup hlookup, rfl⟩

theorem names_textPlaceholders (entries : List (String × String)) :
    Placeholder.names (textPlaceholders entries : List (Placeholder σ C))
      = entries.map fun entry => Text.lowercase entry.1 := by
  rw [Placeholder.names, textPlaceholders, List.map_map, List.map_map]
  rfl

/-- Default placeholders whose identifiers are in lower case have these for names. -/
theorem Placeholder.AreDefaults.names_eq {requiresContext : Bool} {identifiers : List String}
    {ps : List (Placeholder σ C)} (h : AreDefaults requiresContext identifiers ps)
    (hlower : identifiers.map Text.lowercase = identifiers) : names ps = identifiers := by
  rw [names, List.map_map]
  exact h.lowercase_identifiers hlower

namespace Settings

/-- Names stand in the palette in lower case, also where the settings are not checked. -/
theorem lowercase_palette_name (settings : Settings) :
    ∀ entry ∈ settings.palette.entries, Text.lowercase entry.1 = entry.1 := by
  rw [Settings.palette]
  have hstart : ∀ entry ∈ Palette.standard.entries, Text.lowercase entry.1 = entry.1 := by decide
  generalize Palette.standard = palette at hstart
  induction settings.colors.entries generalizing palette with
  | nil => exact hstart
  | cons entry rest ih =>
    rw [List.foldl_cons]
    exact ih _ (Table.forall_mem_set (Text.lowercase_lowercase entry.1) hstart)

/-- The names that the settings give a meaning, those of the standard palette included. -/
def configuredNames (settings : Settings) : List String :=
  settings.palette.table.keys ++ settings.placeholders.keys.map Text.lowercase

theorem names_configured (settings : Settings) :
    Placeholder.names (colorPlaceholders settings.palette
        ++ textPlaceholders settings.placeholders.entries : List (Placeholder σ C))
      = settings.configuredNames := by
  have hcolors : settings.palette.entries.map (fun entry => Text.lowercase entry.1)
      = settings.palette.table.keys :=
    List.map_congr_left settings.lowercase_palette_name
  rw [Placeholder.names_append, colorPlaceholders, names_textPlaceholders, names_textPlaceholders,
    hcolors, configuredNames, SortedTable.keys, List.map_map]
  rfl

/-- Why a token is reported where nothing but the defaults is registered, if it is. -/
def reason? (settings : Settings) (player : Option C) (t : Token) : Option Reason :=
  let name := t.identifier.toLower
  if name ∉ settings.configuredNames ∧ name ∉ Player.fieldNames ∧ name ∉ Server.fieldNames then
    some .unknownIdentifier
  else if player = none ∧ name ∈ Player.fieldNames ∧ name ∉ settings.configuredNames then
    some .missingRequiredContext
  else if t.params.isSome then some .unsupportedParameters
  else none

/-- That a handler fails or the bound is reached is never reported. -/
theorem reason?_ne {settings : Settings} {player : Option C} {t : Token} {reason : Reason}
    (h : settings.reason? player t = some reason) :
    reason ≠ .recursionLimit ∧ ∀ failure, reason ≠ .handlerFailure failure := by
  have hcases : reason = .unknownIdentifier ∨ reason = .missingRequiredContext
      ∨ reason = .unsupportedParameters := by
    rw [reason?] at h
    split at h
    · exact Or.inl (Option.some.inj h).symm
    · split at h
      · exact Or.inr (Or.inl (Option.some.inj h).symm)
      · split at h
        · exact Or.inr (Or.inr (Option.some.inj h).symm)
        · cases h
  rcases hcases with rfl | rfl | rfl
  · simp
  · simp
  · simp

/-- The placeholders that an initialization with a host registers where nothing is registered yet. -/
abbrev defaults [PlayerSource σ C] (settings : Settings) (server : ServerSource σ) : List (Placeholder σ C) :=
  colorPlaceholders settings.palette ++ textPlaceholders settings.placeholders.entries
    ++ playerPlaceholders ++ serverPlaceholders server

section Defaults

variable (settings : Settings) (server : ServerSource σ)

theorem isDefault_of_mem_configured {p : Placeholder σ C}
    (h : p ∈ colorPlaceholders settings.palette
      ++ textPlaceholders settings.placeholders.entries) : p.IsDefault false :=
  (List.mem_append.mp h).elim isDefault_of_mem_textPlaceholders isDefault_of_mem_textPlaceholders

variable [PlayerSource σ C]

theorem exists_isDefault_of_mem_defaults {p : Placeholder σ C}
    (h : p ∈ settings.defaults server) : ∃ requiresContext, p.IsDefault requiresContext := by
  rcases List.mem_append.mp h with h | hserver
  · rcases List.mem_append.mp h with hconfigured | hplayer
    · exact ⟨_, settings.isDefault_of_mem_configured hconfigured⟩
    · exact ⟨_, showPlayer_playerPlaceholders.isDefault p hplayer⟩
  · exact ⟨_, (showServer_serverPlaceholders server).isDefault p hserver⟩

/-- Where nothing else is registered, only these are admitted. -/
theorem exists_isDefault_of_admits {player : Option C} {t : Token} {p : Placeholder σ C}
    (h : (Registry.empty.addAll (settings.defaults server)).Admits player t p) :
    ∃ requiresContext, p.IsDefault requiresContext := by
  have hstored := h.stored
  rw [Registry.lookup?, Registry.get?_addAll] at hstored
  exact settings.exists_isDefault_of_mem_defaults server (Placeholder.mem_of_lookup hstored)

/-- None of them ever fails. -/
theorem isDecided_defaults (player : Option C) :
    (Registry.empty.addAll (settings.defaults server) : Registry σ C).IsDecided player := by
  intro t p hadmits
  obtain ⟨requiresContext, hp⟩ := settings.exists_isDefault_of_admits server hadmits
  exact hp.isDecided

/-- Whom a name belongs to: a color or a configured text, else a field of the player, else a field of the
server, else nobody. -/
theorem get?_defaults (name : String) :
    let found := (Registry.empty.addAll (settings.defaults server) : Registry σ C).table.get? name
    (name ∈ settings.configuredNames ∧ ∃ p, found = some p ∧ p.IsDefault false)
      ∨ (name ∉ settings.configuredNames ∧ name ∈ Player.fieldNames
        ∧ ∃ p, found = some p ∧ p.IsDefault true)
      ∨ (name ∉ settings.configuredNames ∧ name ∉ Player.fieldNames ∧ name ∈ Server.fieldNames
        ∧ ∃ p, found = some p ∧ p.IsDefault false)
      ∨ (name ∉ settings.configuredNames ∧ name ∉ Player.fieldNames ∧ name ∉ Server.fieldNames
        ∧ found = none) := by
  intro found
  have hconfigured := settings.names_configured (σ := σ) (C := C)
  have hplayers := (showPlayer_playerPlaceholders (σ := σ) (C := C)).names_eq
    Player.lowercase_fieldNames
  have hservers := (showServer_serverPlaceholders (C := C) server).names_eq
    Server.lowercase_fieldNames
  have hfound : found = (((colorPlaceholders settings.palette
        ++ textPlaceholders settings.placeholders.entries).map Placeholder.entry).lookup name).or
      (((playerPlaceholders.map Placeholder.entry).lookup name).or
        (((serverPlaceholders server).map Placeholder.entry).lookup name)) := by
    rw [← Option.or_assoc, ← List.lookup_append, ← List.map_append, ← List.lookup_append,
      ← List.map_append]
    exact Registry.get?_addAll _ _ name
  by_cases hname : name ∈ settings.configuredNames
  · obtain ⟨p, hp, hlookup⟩ := Placeholder.exists_lookup (hconfigured ▸ hname)
    rw [hlookup, Option.some_or] at hfound
    exact Or.inl ⟨hname, p, hfound, settings.isDefault_of_mem_configured hp⟩
  rw [Placeholder.lookup_eq_none_iff.mpr (hconfigured ▸ hname), Option.none_or] at hfound
  by_cases hplayer : name ∈ Player.fieldNames
  · obtain ⟨p, hp, hlookup⟩ := Placeholder.exists_lookup (hplayers ▸ hplayer)
    rw [hlookup, Option.some_or] at hfound
    exact Or.inr (Or.inl ⟨hname, hplayer, p, hfound, showPlayer_playerPlaceholders.isDefault p hp⟩)
  rw [Placeholder.lookup_eq_none_iff.mpr (hplayers ▸ hplayer), Option.none_or] at hfound
  by_cases hserver : name ∈ Server.fieldNames
  · obtain ⟨p, hp, hlookup⟩ := Placeholder.exists_lookup (hservers ▸ hserver)
    rw [hlookup] at hfound
    exact Or.inr (Or.inr (Or.inl
      ⟨hname, hplayer, hserver, p, hfound, (showServer_serverPlaceholders server).isDefault p hp⟩))
  rw [Placeholder.lookup_eq_none_iff.mpr (hservers ▸ hserver)] at hfound
  exact Or.inr (Or.inr (Or.inr ⟨hname, hplayer, hserver, hfound⟩))

/-- What refuses a token, by whom its name belongs to. -/
theorem refusal?_defaults {world : World σ C}
    (hregistry : world.registry = Registry.empty.addAll (settings.defaults server))
    (player : Option C) {t : Token} (ht : t.WellFormed) :
    world.refusal? player t
      = (settings.reason? player t).map (Unresolved.mk t.identifier.toLower) := by
  have hlookup : ∀ {found : Option (Placeholder σ C)},
      (Registry.empty.addAll (settings.defaults server) : Registry σ C).table.get?
        t.identifier.toLower = found →
      world.registry.lookup? t.identifier = found := by
    intro found hfound
    rw [hregistry, Registry.lookup?, ht.lowercase_identifier, hfound]
  rw [reason?]
  rcases settings.get?_defaults (C := C) server t.identifier.toLower with
    ⟨hname, p, hfound, hp⟩ | ⟨hname, hplayer, p, hfound, hp⟩
      | ⟨hname, hplayer, hserver, p, hfound, hp⟩ | ⟨hname, hplayer, hserver, hfound⟩
  · rw [hp.refusal?_eq (hlookup hfound), ht.lowercase_identifier]
    simp [hname]
  · rw [hp.refusal?_eq (hlookup hfound), ht.lowercase_identifier]
    cases player with
    | none => simp [hname, hplayer]
    | some player => simp [hname, hplayer]
  · rw [hp.refusal?_eq (hlookup hfound), ht.lowercase_identifier]
    simp [hname, hplayer, hserver]
  · have hgate : world.registry.gate player t
        = .error ⟨t.identifier.toLower, .unknownIdentifier⟩ := by
      rw [Registry.gate_of_none (hlookup hfound), ht.lowercase_identifier]
    rw [World.refusal?_refused hgate]
    simp [hname, hplayer, hserver]

end Defaults

end Settings

/-! ## Engines with the defaults -/

section Engines

variable [PlayerSource σ C]

/-- The engine was made for the settings and initialized with a host while nothing was registered, and
whatever was requested since, its registry is the one that the initialization left. -/
def Engine.HasDefaults (settings : Settings) (server : ServerSource σ) (engine : Engine σ C) : Prop :=
  ∃ (state : σ) (fresh : Engine σ C),
    (Engine.ofSettings settings state).Follows fresh ∧ fresh.initialized = false
      ∧ fresh.world.registry = .empty
      ∧ ((Session.init server).run fresh).2.Follows engine
      ∧ engine.world.registry = ((Session.init server).run fresh).2.world.registry

namespace Engine.HasDefaults

variable {settings : Settings} {server : ServerSource σ} {engine : Engine σ C}

/-- An engine that is initialized before anything else. -/
theorem of_init (settings : Settings) (server : ServerSource σ) (state : σ) :
    Engine.HasDefaults (C := C) settings server
      ((Session.init server).run (.ofSettings settings state)).2 :=
  ⟨state, .ofSettings settings state, .refl _, rfl, rfl, .refl _, rfl⟩

theorem maxDepth_eq (h : engine.HasDefaults settings server) :
    engine.maxDepth = settings.maxDepth := by
  obtain ⟨state, fresh, hfresh, -, -, hafter, -⟩ := h
  rw [hafter.maxDepth_eq, (follows_init server fresh).maxDepth_eq, hfresh.maxDepth_eq]
  rfl

theorem registry_eq (h : engine.HasDefaults settings server) :
    engine.world.registry = Registry.empty.addAll (settings.defaults server) := by
  obtain ⟨state, fresh, hfresh, hfirst, hempty, -, hkept⟩ := h
  have hpalette : fresh.palette = settings.palette := hfresh.palette_eq
  have htexts : fresh.texts = settings.placeholders.entries := hfresh.texts_eq
  rw [hkept, registry_init hfirst, hempty, hpalette, htexts]

theorem isDecided (h : engine.HasDefaults settings server) (player : Option C) :
    engine.world.registry.IsDecided player := by
  rw [h.registry_eq]
  exact settings.isDecided_defaults server player

end Engine.HasDefaults

/-- What checking reports where nothing but the defaults is registered, and at least one level of values
may be expanded. Each token is judged by its identifier in lower case and by whether it has parameters,
and those with something against them are reported in the order in which they stand. No handler fails,
and nothing is beyond the bound, however the configured texts name one another. -/
theorem check_judges_by_name {settings : Settings} {server : ServerSource σ} {engine : Engine σ C}
    (h : engine.HasDefaults settings server) {bound : Option Nat}
    (hbound : 0 < bound.getD settings.maxDepth) (player : Option C) (message : String) :
    ∃ report, ((Request.check message player bound).serve.run engine).1 = .diagnostics report
      ∧ report = ((tokens message).filterMap fun found =>
          (settings.reason? player found.1).map fun reason =>
            ⟨found.2, found.1.identifier.toLower, reason⟩)
      ∧ ∀ d ∈ report, d.unresolved.reason ≠ .recursionLimit
        ∧ ∀ failure, d.unresolved.reason ≠ .handlerFailure failure := by
  have hserve : ((Request.check message player bound).serve.run engine).1
      = .diagnostics ((check player (bound.getD engine.maxDepth) message).run engine.world).1 := rfl
  have hreport : ((check player (bound.getD engine.maxDepth) message).run engine.world).1
      = (tokens message).filterMap fun found =>
          (settings.reason? player found.1).map fun reason =>
            ⟨found.2, found.1.identifier.toLower, reason⟩ := by
    rw [h.maxDepth_eq, (check_decided (h.isDecided player) _ message).1, reportBy]
    refine List.filterMap_congr fun found hfound => ?_
    have ht : found.1.WellFormed := wellFormed_of_mem_tokens hfound
    rw [World.verdict?, if_neg (Nat.ne_of_gt hbound),
      settings.refusal?_defaults server h.registry_eq player ht, Option.map_map]
    rfl
  refine ⟨_, hserve, hreport, fun d hd => ?_⟩
  rw [hreport] at hd
  obtain ⟨found, -, hd⟩ := List.mem_filterMap.mp hd
  obtain ⟨reason, hreason, rfl⟩ := Option.map_eq_some_iff.mp hd
  exact Settings.reason?_ne hreason

end Engines

/-- Texts that name themselves or one another are not reported, nor is a text that hides a field of the
player. -/
theorem check_judges_by_name_circles :
    let settings : Settings :=
      { placeholders := ⟨[("Loop", "\x7bloop\x7d"), ("a", "\x7bb\x7d"),
          ("b", "\x7ba\x7d\x7bplayer\x7d"), ("player_x", "here")], by decide⟩ }
    let engine : Engine Unit := ((Session.init ({} : Server)).run (.ofSettings settings ())).2
    let message := "\x7bLOOP\x7d\x7bb\x7d\x7bnope\x7d\x7bPlayer\x7d"
      ++ "\x7bred:x\x7d\x7bserver_max:\x7d\x7bplayer_x\x7d"
    engine.HasDefaults settings ({} : Server) ∧ 0 < (none : Option Nat).getD settings.maxDepth
      ∧ ((Request.check message none none).serve.run engine).1
        = .diagnostics [⟨⟨9, 15⟩, "nope", .unknownIdentifier⟩,
          ⟨⟨15, 23⟩, "player", .missingRequiredContext⟩,
          ⟨⟨23, 30⟩, "red", .unsupportedParameters⟩,
          ⟨⟨30, 43⟩, "server_max", .unsupportedParameters⟩] := by
  intro settings engine message
  have hdefaults : engine.HasDefaults settings ({} : Server) := .of_init settings ({} : Server) ()
  have hbound : 0 < (none : Option Nat).getD settings.maxDepth := by decide
  refine ⟨hdefaults, hbound, ?_⟩
  obtain ⟨report, hreply, hreport, -⟩ := check_judges_by_name hdefaults hbound none message
  rw [hreply, hreport]
  refine congrArg Reply.diagnostics ?_
  decide +kernel

end MessageTemplate
