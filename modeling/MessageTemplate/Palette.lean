import MessageTemplate.FormatCode
import MessageTemplate.Table
import MessageTemplate.Text.Lowercase

/-!
Palettes: the names of format codes. Names ignore case and are stored lower-cased. A name has one
code, while a code can have several names; the earliest of them counts as the code's name.
-/

namespace MessageTemplate

/-- The names of format codes, in order. -/
structure Palette where
  table : Table String
  deriving DecidableEq, Repr

namespace Palette

/-- The palette without names. -/
def empty : Palette := ⟨.empty⟩

/-- The sixteen colors and six styles that every host knows. -/
def standard : Palette where
  table := ⟨[("black", "§0"), ("dark_blue", "§1"), ("dark_green", "§2"), ("dark_aqua", "§3"),
    ("dark_red", "§4"), ("dark_purple", "§5"), ("gold", "§6"), ("gray", "§7"),
    ("dark_gray", "§8"), ("blue", "§9"), ("green", "§a"), ("aqua", "§b"), ("red", "§c"),
    ("light_purple", "§d"), ("yellow", "§e"), ("white", "§f"), ("bold", "§l"), ("italic", "§o"),
    ("obfuscated", "§k"), ("underline", "§n"), ("strikethrough", "§m"), ("reset", "§r")]⟩

/-- The names and codes in order. -/
def entries (palette : Palette) : List (String × String) :=
  palette.table.entries

/-- The number of names. -/
def size (palette : Palette) : Nat :=
  palette.table.size

/-- Gives a name its code. A name that is already there keeps its place. -/
def set (palette : Palette) (name code : String) : Palette :=
  ⟨palette.table.set (Text.lowercase name) code⟩

/-- The code of a name. -/
def code? (palette : Palette) (name : String) : Option String :=
  palette.table.get? (Text.lowercase name)

/-- Whether two palettes have the same codes for the same names. The order does not matter. -/
def agrees (palette other : Palette) : Bool :=
  palette.table.agrees other.table

/-- The earliest name of a code. Codes are compared as they are, in the case they are written in. -/
def nameOf? (palette : Palette) (code : String) : Option String :=
  (palette.entries.find? (·.2 = code)).map (·.1)

end Palette

end MessageTemplate
