import MessageTemplate.Decimal.Positional
import MessageTemplate.Host
import MessageTemplate.Palette
import MessageTemplate.World

/-!
The placeholders that come with the library: one for every color, every configured text, every field
of the player and every field of the server.
-/

namespace MessageTemplate

variable {σ C : Type}

/-- The fields of a player that messages can show, and how each of them is read and written out. -/
def playerFields [PlayerSource σ C] : List (String × (C → StateM σ String)) :=
  [("player", fun player => PlayerSource.name player),
   ("player_name", fun player => PlayerSource.name player),
   ("player_display", fun player => PlayerSource.displayName player),
   ("player_health", fun player => return formatRounded (← PlayerSource.health player) 1),
   ("player_max_health", fun player => return formatNumber (← PlayerSource.maxHealth player)),
   ("player_food", fun player => return formatNumber (← PlayerSource.food player)),
   ("player_level", fun player => return toString (← PlayerSource.xpLevel player)),
   ("player_xp", fun player => return toString (← PlayerSource.totalXp player)),
   ("player_gamemode", fun player => PlayerSource.gamemode player),
   ("player_ping", fun player => return toString (← PlayerSource.ping player)),
   ("player_x", fun player => return formatRounded (← PlayerSource.position player).x 2),
   ("player_y", fun player => return formatRounded (← PlayerSource.position player).y 2),
   ("player_z", fun player => return formatRounded (← PlayerSource.position player).z 2),
   ("player_world", fun player => PlayerSource.world player)]

/-- The fields of a server that messages can show, and how each of them is read and written out. -/
def serverFields : List (String × (ServerSource σ → StateM σ String)) :=
  [("server_motd", (·.motd)),
   ("server_online", fun server => return toString (← server.onlinePlayers)),
   ("server_max", fun server => return toString (← server.maxPlayers)),
   ("server_tps", fun server => return formatRounded (← server.ticksPerSecond) 2)]

/-- The identifiers of the player's placeholders. They do not depend on what a player is, so they are
read off the table for fixed ones. -/
def Player.identifiers : List String := (playerFields (σ := Unit) (C := Player)).map (·.1)

/-- The identifiers of the server's placeholders. -/
def Server.identifiers : List String := (serverFields (σ := Unit)).map (·.1)

/-- Placeholders that show the player a message is for. -/
def playerPlaceholders [PlayerSource σ C] : List (Placeholder σ C) :=
  playerFields.map fun (identifier, field) =>
    .contextual identifier fun player _ => .answer (field player)

/-- Placeholders that show the server. It is asked whenever one of them is used. -/
def serverPlaceholders (server : ServerSource σ) : List (Placeholder σ C) :=
  serverFields.map fun (identifier, field) =>
    .contextFree identifier fun _ => .answer (field server)

/-- Placeholders with fixed texts. A text may hold tokens: it is expanded like any other value. -/
def textPlaceholders (entries : List (String × String)) : List (Placeholder σ C) :=
  entries.map fun (identifier, value) => .constant identifier value

/-- Placeholders for the names of a palette. -/
def colorPlaceholders (palette : Palette) : List (Placeholder σ C) :=
  textPlaceholders palette.entries

end MessageTemplate
