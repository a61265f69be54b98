import MessageTemplate.Host
import MessageTemplate.Palette
import MessageTemplate.SortedTable
import MessageTemplate.Text.Quoted
import MessageTemplate.Token

/-!
Settings: the bound on nested expansion, additional colors and texts, and the player and the server
that stand in where no live ones are at hand.

Colors and texts are tables sorted by name. Their names are kept as they were given, so two names
that differ in case alone are two entries here.
-/

namespace MessageTemplate

/-- How many levels of values are expanded unless the settings say otherwise. -/
def defaultMaxDepth : Nat := 10

/-- Everything that can be configured. -/
structure Settings where
  maxDepth : Nat := defaultMaxDepth
  colors : SortedTable String := .empty
  placeholders : SortedTable String := .empty
  player : Option Player := none
  server : Option Server := none

/-- What can be wrong with settings. -/
inductive SettingsError where
  | invalidColor (name code : String)
  | invalidIdentifier (identifier : String)
  deriving DecidableEq, Repr

/-- The wording of an error. -/
def SettingsError.message : SettingsError → String
  | .invalidColor name code => "invalid format code " ++ Text.quoted code ++ " for color '" ++ name ++ "'"
  | .invalidIdentifier identifier => "invalid placeholder identifier '" ++ identifier
      ++ "' (expected letters, digits, underscore)"

namespace Settings

/-- Adds a color, or gives it another code. -/
def withColor (settings : Settings) (name code : String) : Settings :=
  { settings with colors := settings.colors.insert name code }

/-- Adds a text, or gives it another value. -/
def withPlaceholder (settings : Settings) (identifier value : String) : Settings :=
  { settings with placeholders := settings.placeholders.insert identifier value }

/-- A color needs a name that tokens can carry and a code that is a format code. -/
def validateColor (name code : String) : Except SettingsError Unit :=
  if !isIdentifier name then .error (.invalidIdentifier name)
  else if !isWholeFormatCode code then .error (.invalidColor name code)
  else .ok ()

/-- A text needs a name that tokens can carry. -/
def validatePlaceholder (identifier : String) : Except SettingsError Unit :=
  if isIdentifier identifier then .ok () else .error (.invalidIdentifier identifier)

/-- Checks the colors and then the texts, each in the order of their names, and gives the first error. -/
def validate (settings : Settings) : Except SettingsError Unit := do
  settings.colors.entries.forM fun (name, code) => validateColor name code
  settings.placeholders.keys.forM validatePlaceholder

/-- The standard palette with the configured colors. They are set in the order of their keys. Keys that
differ in case alone set the same name, so the last of them counts; a standard color that is set anew keeps
its place. -/
def palette (settings : Settings) : Palette :=
  settings.colors.entries.foldl (fun palette (name, code) => palette.set name code) .standard

end Settings

end MessageTemplate
