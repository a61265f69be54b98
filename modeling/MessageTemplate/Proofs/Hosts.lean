import Mathlib.Data.List.Forall2
import MessageTemplate.Engine
import MessageTemplate.Proofs.Scripts

/-!
What the placeholders of the defaults do.

They come from four sources: the palette, the configured texts, the player and the server. The first two
give constants. The other two ask the host, and the host may be live: what a field shows can be another
text each time, and asking for it can change the state that handlers share. So a default placeholder has
no value that could be written down, but what it does is one question to the host, which is put whenever
the placeholder is used (`Placeholder.IsDefault`). It ends with the answer, and touches neither the
registry, nor the log, nor the record of invocations.

The tables that are registered pair the names of the fields with the questions. The names are written out
here once more, apart from the tables, so that statements about what is registered do not depend on them.
-/

namespace MessageTemplate

variable {σ C : Type}

/-! ## Names of fields -/

/-- The fields of a player, in order. -/
def Player.fieldNames : List String :=
  ["player", "player_name", "player_display", "player_health", "player_max_health", "player_food",
    "player_level", "player_xp", "player_gamemode", "player_ping", "player_x", "player_y", "player_z",
    "player_world"]

/-- The fields of a server, in order. -/
def Server.fieldNames : List String :=
  ["server_motd", "server_online", "server_max", "server_tps"]

/-- The names that are listed for players, which are those of the table, are these. -/
theorem Player.identifiers_eq : Player.identifiers = Player.fieldNames := rfl

theorem Server.identifiers_eq : Server.identifiers = Server.fieldNames := rfl

/-- The names are in lower case, so they are registered as they stand. -/
theorem Player.lowercase_fieldNames :
    Player.fieldNames.map Text.lowercase = Player.fieldNames := by decide

theorem Server.lowercase_fieldNames :
    Server.fieldNames.map Text.lowercase = Server.fieldNames := by decide

/-! ## Questions to the host -/

/-- Whatever the world is, the handler ends with the answer to the question, which is asked in the state of
that moment. The state is then as the question leaves it, and all else is as it was. -/
def Placeholder.Asks (p : Placeholder σ C) (context : Option C) (params : Option String)
    (question : StateM σ String) : Prop :=
  ∀ world : World σ C, (p.handler context params).run.run world
    = (.value (question.run world.state).1, { world with state := (question.run world.state).2 })

/-- The placeholder takes no parameters, requires a context or not, and asks a question whenever it is
invoked. A constant asks one that changes nothing and always has the same answer. -/
structure Placeholder.IsDefault (requiresContext : Bool) (p : Placeholder σ C) : Prop where
  requiresContext_eq : p.requiresContext = requiresContext
  supportsParameters_eq : p.supportsParameters = false
  asks : ∀ context params, ∃ question, p.Asks context params question

theorem Placeholder.isDefault_constant (identifier value : String) :
    (Placeholder.constant identifier value : Placeholder σ C).IsDefault false where
  requiresContext_eq := rfl
  supportsParameters_eq := rfl
  asks _ _ := ⟨pure value, fun _ => rfl⟩

/-- These are default placeholders with these identifiers, in this order. -/
structure Placeholder.AreDefaults (requiresContext : Bool) (identifiers : List String)
    (ps : List (Placeholder σ C)) : Prop where
  identifiers_eq : ps.map (·.identifier) = identifiers
  isDefault : ∀ p ∈ ps, p.IsDefault requiresContext

/-- If the identifiers are in lower case, the placeholders are registered under them as they stand. -/
theorem Placeholder.AreDefaults.lowercase_identifiers {requiresContext : Bool}
    {identifiers : List String} {ps : List (Placeholder σ C)}
    (h : AreDefaults requiresContext identifiers ps)
    (hlower : identifiers.map Text.lowercase = identifiers) :
    ps.map (fun p => Text.lowercase p.identifier) = identifiers := by
  rw [← hlower, ← h.identifiers_eq, List.map_map]
  rfl

/-- These are the placeholders of the fields of a player, in the order of the table. Each requires a player
and asks what the table has in its place. -/
structure Placeholder.ShowPlayer [PlayerSource σ C] (ps : List (Placeholder σ C)) : Prop
    extends AreDefaults true Player.fieldNames ps where
  shows : List.Forall₂ (fun p row => ∀ player params, p.Asks (some player) params (row.2 player))
    ps playerFields

/-- These are the placeholders of the fields of this server, in the order of the table. None requires a
context, and each asks what the table has in its place. -/
structure Placeholder.ShowServer (server : ServerSource σ) (ps : List (Placeholder σ C)) : Prop
    extends AreDefaults false Server.fieldNames ps where
  shows : List.Forall₂ (fun p row => ∀ context params, p.Asks context params (row.2 server))
    ps serverFields

theorem showPlayer_playerPlaceholders [PlayerSource σ C] :
    Placeholder.ShowPlayer (playerPlaceholders : List (Placeholder σ C)) where
  identifiers_eq := rfl
  isDefault := by
    intro p hp
    obtain ⟨⟨identifier, field⟩, -, rfl⟩ := List.mem_map.mp hp
    refine ⟨rfl, rfl, fun context params => ?_⟩
    cases context with
    | none => exact ⟨pure "", fun _ => rfl⟩
    | some player => exact ⟨field player, fun _ => rfl⟩
  shows := by
    rw [playerPlaceholders, List.forall₂_map_left_iff, List.forall₂_same]
    rintro ⟨identifier, field⟩ - player params world
    rfl

theorem showServer_serverPlaceholders (server : ServerSource σ) :
    Placeholder.ShowServer server (serverPlaceholders server : List (Placeholder σ C)) where
  identifiers_eq := rfl
  isDefault := by
    intro p hp
    obtain ⟨⟨identifier, field⟩, -, rfl⟩ := List.mem_map.mp hp
    exact ⟨rfl, rfl, fun _ _ => ⟨field server, fun _ => rfl⟩⟩
  shows := by
    rw [serverPlaceholders, List.forall₂_map_left_iff, List.forall₂_same]
    rintro ⟨identifier, field⟩ - context params world
    rfl

/-- A server that counts how often it is asked for its players is asked once for every token. -/
example :
    let server : ServerSource Nat :=
      { motd := return "live"
        onlinePlayers := modifyGet fun asked => (asked + 1, asked + 1)
        maxPlayers := return 10
        ticksPerSecond := return 20 }
    let engine : Engine Nat := ((Session.init server).run (.ofSettings {} 0)).2
    ((expandAll none engine.maxDepth ["\x7bserver_online\x7d",
      "\x7bserver_online\x7d/\x7bserver_max\x7d"]).run engine.world).1 = ["1", "2/10"] := by
  decide +kernel

end MessageTemplate
