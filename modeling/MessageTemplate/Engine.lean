import MessageTemplate.Defaults
import MessageTemplate.Expansion
import MessageTemplate.Palette.Gradient
import MessageTemplate.Palette.Revert
import MessageTemplate.Settings

/-!
The engine: a registry with the settings that it serves. Its default placeholders are registered by
one call, of which only the first has an effect.
-/

namespace MessageTemplate

/-- A palette, configured texts and a bound, with the world in which messages are expanded. -/
structure Engine (σ : Type) (C : Type := Player) where
  palette : Palette
  texts : List (String × String)
  maxDepth : Nat
  initialized : Bool
  world : World σ C

/-- A computation that reads and changes an engine. -/
abbrev Session (σ C : Type) := StateM (Engine σ C)

variable {σ C : Type}

namespace Engine

/-- An engine for the settings. Nothing is registered yet. -/
def ofSettings (settings : Settings) (state : σ) : Engine σ C where
  palette := settings.palette
  texts := settings.placeholders.entries
  maxDepth := settings.maxDepth
  initialized := false
  world := .initial state

/-- The bound and the registered identifiers in one line; another bound can be shown. -/
def summary (engine : Engine σ C) (maxDepth : Nat) : String :=
  Text.record "Resolver" [("registry", Text.record "Registry"
    [("identifiers", Text.quotedList engine.world.registry.identifiers)]),
    ("max_depth", toString maxDepth)]

end Engine

namespace Session

/-- Runs a computation in the engine's world. -/
def inWorld {α : Type} (run : Run σ C α) : Session σ C α := do
  let engine ← get
  let (answer, world) := StateT.run run engine.world
  set { engine with world }
  return answer

/-- Takes the one chance to register the defaults; later calls are logged and give `false`. The mark is set
before anything is registered, and it is one mark for both ways to initialize an engine. -/
def claimDefaults : Session σ C Bool := do
  if (← get).initialized then
    inWorld (logEvent .defaultsSkipped)
    return false
  modify fun engine => { engine with initialized := true }
  return true

/-- Registers the colors and then the configured texts. A color therefore hides a text of the same name. The
note at the end counts what was new. -/
def registerTexts : Session σ C Unit := do
  let engine ← get
  inWorld do
    let colors ← registerAll (colorPlaceholders engine.palette)
    let texts ← registerAll (textPlaceholders engine.texts)
    logEvent (.textsRegistered colors texts)

/-- Registers colors and texts, but nothing that shows a host. Gives whether this was the first
initialization. -/
def initWithoutHost : Session σ C Bool := do
  if ← claimDefaults then
    registerTexts
    return true
  return false

/-- Registers colors, texts, and the fields of players and of the server, in this order, each unless its
identifier is taken. Gives whether this was the first initialization. The server is not asked for anything
yet; its placeholders do so when they are used. -/
def init [PlayerSource σ C] (server : ServerSource σ) : Session σ C Bool := do
  if ← claimDefaults then
    registerTexts
    inWorld do
      let player ← registerAll playerPlaceholders
      let server ← registerAll (serverPlaceholders server)
      logEvent (.defaultsRegistered player server (← get).registry.count)
    return true
  return false

end Session

end MessageTemplate
