import MessageTemplate.Settings
import MessageTemplate.Toml.Document

/-!
Settings from TOML documents. Fields that are missing keep their defaults and unknown ones are
ignored. A group of fields is a table, or an array that lists the fields in the order given here. A
date or time counts as a table of one entry, so as a group it sets no field.
-/

namespace MessageTemplate

/-- Why settings cannot be loaded. -/
inductive LoadError where
  | unreadable (cause : String)
  | malformed
  | invalid (error : SettingsError)
  deriving DecidableEq, Repr

/-- The wording of an error. -/
def LoadError.message : LoadError → String
  | .unreadable cause => "Failed to read config file: " ++ cause
  | .malformed => "Failed to parse config TOML: "
  | .invalid error => error.message

namespace Toml

/-! ## Values as fields -/

/-- A text. -/
def Value.text? : Value → Option String
  | .string s => some s
  | _ => none

/-- A number; whole numbers count too. -/
def Value.float? : Value → Option Float
  | .float x => some x
  | .integer n => some (floatOfInt n)
  | _ => none

/-- A whole number from zero up to a bound that is not reached. -/
def Value.natBelow? (bound : Nat) : Value → Option Nat
  | .integer n => if 0 ≤ n ∧ n.toNat < bound then some n.toNat else none
  | _ => none

/-- The entries of a table. -/
def Value.entries? : Value → Option Entries
  | .table _ entries => some entries
  | .moment text => some (momentEntries text)
  | _ => none

/-- A table of texts, sorted by name. -/
def Value.textTable? (value : Value) : Option (SortedTable String) := do
  (← value.entries?).foldlM (fun table (key, value) => do
    some (table.insert key (← value.text?))) .empty

/-- The values of a group of fields by name. -/
def Value.fields? (names : List String) : Value → Option Entries
  | .array items => some (names.zip items)
  | .tables items => some (names.zip (items.map (.table .header)))
  | value => value.entries?

/-- A field of a group: its default where it is missing. -/
def field {α : Type} (entries : Entries) (name : String) (read : Value → Option α)
    (default : α) : Option α :=
  match entries.lookup name with
  | none => some default
  | some value => read value

/-- A field of a group that can be left out. -/
def optionalField {α : Type} (entries : Entries) (name : String)
    (read : Value → Option α) : Option (Option α) :=
  field entries name (fun value => (read value).map some) none

end Toml

open Toml

/-- Reads a position. -/
def Position.ofValue? (value : Value) : Option Position := do
  let fields ← value.fields? ["x", "y", "z"]
  return {
    x := ← field fields "x" Value.float? 0
    y := ← field fields "y" Value.float? 0
    z := ← field fields "z" Value.float? 0 }

/-- Reads a player. Counts have 32 bits. -/
def Player.ofValue? (value : Value) : Option Player := do
  let fields ← value.fields? ["name", "display_name", "health", "max_health", "food", "xp_level",
    "total_xp", "gamemode", "ping", "position", "world"]
  let p : Player := {}
  let count := Value.natBelow? 0x100000000
  return {
    name := ← field fields "name" Value.text? p.name
    displayName := ← field fields "display_name" Value.text? p.displayName
    health := ← field fields "health" Value.float? p.health
    maxHealth := ← field fields "max_health" Value.float? p.maxHealth
    food := ← field fields "food" Value.float? p.food
    xpLevel := ← field fields "xp_level" count p.xpLevel
    totalXp := ← field fields "total_xp" count p.totalXp
    gamemode := ← field fields "gamemode" Value.text? p.gamemode
    ping := ← field fields "ping" count p.ping
    position := ← field fields "position" Position.ofValue? p.position
    world := ← field fields "world" Value.text? p.world }

/-- Reads a server. Counts have 64 bits. -/
def Server.ofValue? (value : Value) : Option Server := do
  let fields ← value.fields? ["motd", "online_players", "max_players", "ticks_per_second"]
  let s : Server := {}
  let count := Value.natBelow? 0x10000000000000000
  return {
    motd := ← field fields "motd" Value.text? s.motd
    onlinePlayers := ← field fields "online_players" count s.onlinePlayers
    maxPlayers := ← field fields "max_players" count s.maxPlayers
    ticksPerSecond := ← field fields "ticks_per_second" Value.float? s.ticksPerSecond }

/-- Reads the bound on nested expansion. -/
def readMaxDepth? (value : Value) : Option Nat := do
  let fields ← value.fields? ["max_depth"]
  field fields "max_depth" (Value.natBelow? 0x10000000000000000) defaultMaxDepth

namespace Settings

/-- Reads settings from the entries of a document. -/
def ofEntries? (entries : Entries) : Option Settings := do
  return {
    maxDepth := ← field entries "resolver" readMaxDepth? defaultMaxDepth
    colors := ← field entries "colors" Value.textTable? .empty
    placeholders := ← field entries "placeholders" Value.textTable? .empty
    player := ← optionalField entries "player" Player.ofValue?
    server := ← optionalField entries "server" Server.ofValue? }

/-- Reads settings from a document and checks them. -/
def load (source : String) : Except LoadError Settings :=
  match (parse? source).bind ofEntries? with
  | none => .error .malformed
  | some settings =>
    match settings.validate with
    | .error error => .error (.invalid error)
    | .ok () => .ok settings

end Settings

end MessageTemplate
