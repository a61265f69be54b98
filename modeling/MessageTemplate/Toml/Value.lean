/-!
The values of TOML documents. Dates and times are checked when they are read, and kept as they are
written.
-/

namespace MessageTemplate.Toml

/-- How a table came to be, which decides what may still be added to it. -/
inductive Origin where
  /-- Written in braces; nothing can be added. -/
  | braces
  /-- Defined by a header of its own. -/
  | header
  /-- Named only on the way to a table with a header; it can still get a header itself. -/
  | implied
  /-- Made by dotted keys; further dotted keys can add to it. -/
  | dotted
  deriving DecidableEq, Repr

/-- A value. -/
inductive Value where
  | string (s : String)
  | integer (n : Int)
  | float (x : Float)
  | boolean (b : Bool)
  | moment (text : String)
  | array (items : List Value)
  | table (origin : Origin) (entries : List (String × Value))
  | tables (items : List (List (String × Value)))

/-- The entries of a table, in order of definition. -/
abbrev Entries := List (String × Value)

/-- The key under which a date or time has its text where a table is asked for. -/
def momentKey : String := "$__toml_private_datetime"

/-- A date or time as a table: its text under a key of its own. -/
def momentEntries (text : String) : Entries :=
  [(momentKey, .string text)]

/-- Puts a value under a key, in the place of the key's entry if there is one. -/
def Entries.set (entries : Entries) (key : String) (value : Value) : Entries :=
  if (entries.lookup key).isSome then
    entries.map fun entry => if entry.1 = key then (key, value) else entry
  else entries ++ [(key, value)]

end MessageTemplate.Toml
