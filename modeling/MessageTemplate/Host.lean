/-!
What the host of a chat knows: the player that a message is for, and the server.

Messages see a host through accessors, and an accessor is a computation: whenever a placeholder is
used it is asked anew, and it may read the state that handlers share and change it, as a counter does
that counts how often it is read. What it cannot do is fail, or touch the registry. A fixed player and
a fixed server are hosts whose accessors read their fields; they are what settings can describe.
-/

namespace MessageTemplate

/-- A place in a world. -/
structure Position where
  x : Float := 0
  y : Float := 0
  z : Float := 0
  deriving Repr

/-! ## Hosts -/

/-- Contexts that are players: what messages can ask about the player they are for, where handlers
share a state of type `σ`. -/
class PlayerSource (σ C : Type) where
  name : C → StateM σ String
  /-- The name that is shown in chat. -/
  displayName : C → StateM σ String
  health : C → StateM σ Float
  maxHealth : C → StateM σ Float
  food : C → StateM σ Float
  xpLevel : C → StateM σ Nat
  totalXp : C → StateM σ Nat
  /-- The English name of the game mode. -/
  gamemode : C → StateM σ String
  /-- The latency in milliseconds. -/
  ping : C → StateM σ Nat
  position : C → StateM σ Position
  /-- The name of the world that the player is in. -/
  world : C → StateM σ String

/-- What messages can ask about the server. -/
structure ServerSource (σ : Type) where
  motd : StateM σ String
  onlinePlayers : StateM σ Nat
  maxPlayers : StateM σ Nat
  ticksPerSecond : StateM σ Float

/-! ## Fixed hosts -/

/-- A fixed player. An empty display name stands for the name itself. -/
structure Player where
  name : String := "Steve"
  displayName : String := ""
  health : Float := 20
  maxHealth : Float := 20
  food : Float := 20
  xpLevel : Nat := 0
  totalXp : Nat := 0
  gamemode : String := "Survival"
  ping : Nat := 0
  position : Position := {}
  world : String := "world"
  deriving Repr

/-- The name that is shown for a player. -/
def Player.shownName (player : Player) : String :=
  if player.displayName.isEmpty then player.name else player.displayName

/-- A fixed player is asked for its fields. -/
instance {σ : Type} : PlayerSource σ Player where
  name player := return player.name
  displayName player := return player.shownName
  health player := return player.health
  maxHealth player := return player.maxHealth
  food player := return player.food
  xpLevel player := return player.xpLevel
  totalXp player := return player.totalXp
  gamemode player := return player.gamemode
  ping player := return player.ping
  position player := return player.position
  world player := return player.world

/-- A fixed server. -/
structure Server where
  motd : String := "A Minecraft Server"
  onlinePlayers : Nat := 0
  maxPlayers : Nat := 20
  ticksPerSecond : Float := 20
  deriving Repr

/-- A fixed server is asked for its fields. -/
def Server.source {σ : Type} (server : Server) : ServerSource σ where
  motd := return server.motd
  onlinePlayers := return server.onlinePlayers
  maxPlayers := return server.maxPlayers
  ticksPerSecond := return server.ticksPerSecond

instance {σ : Type} : Coe Server (ServerSource σ) := ⟨Server.source⟩

end MessageTemplate
